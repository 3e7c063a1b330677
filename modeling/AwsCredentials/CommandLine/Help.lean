import AwsCredentials.CommandLine.Completion.Place

/-!
# Help

What is printed when the help or the version is asked for, and when a command line cannot be
understood.
-/

namespace AwsCredentials.CommandLine

/-- The version of the program. -/
def programVersion : String := "0.1.0"

/-- What the program is for. -/
def programPurpose : String := "Resolve AWS credentials and show who you are"

def usageLine : String := "Usage: " ++ programName ++ " [OPTIONS] [COMMAND]"

/-- The ways to write an option with its value. -/
def Explained.usage (e : Explained) : String :=
  (e.short?.elim "    " fun s => s ++ ", ") ++ e.long
    ++ (if e.takesValue then " <" ++ e.valueName ++ ">" else "")
    ++ match e.spec.kind with
      | .counter => "..."
      | _ => ""

/-- Two columns, the first as wide as its longest text. -/
def columns (rows : List (String × String)) : List String :=
  let width := (rows.map fun row => row.1.length).foldl max 0
  rows.map fun row => "  " ++ row.1.pushn ' ' (width - row.1.length) ++ "  " ++ row.2

/-- The help on the program. -/
def helpText : String :=
  ofLines <|
    [programPurpose, "", usageLine, "", "Commands:"]
    ++ columns commandHelps
    ++ ["", "Options:"]
    ++ columns (topPlace.options.map fun e => (e.usage, e.help))

def versionText : String := programName ++ " " ++ programVersion ++ "\n"

/-- What is wrong with a command line. -/
def UsageError.message : UsageError → String
  | .missingArgument => "a required argument was not provided"
  | .invalidValue => "a value is missing or not one of those that are possible"
  | .malformedValue => "a value is not a valid number"
  | .unknownArgument => "unexpected argument found"
  | .unknownCommand => "unrecognized subcommand"
  | .conflict => "an argument cannot be used multiple times or with another one"
  | .unexpectedValue => "a value was given to an argument that takes none"
  | .help => helpText
  | .version => versionText

/-- The lines that tell why a command line is not carried out. -/
def UsageError.lines (e : UsageError) : List String :=
  ["error: " ++ e.message, "", usageLine, "", "For more information, try '--help'."]

end AwsCredentials.CommandLine
