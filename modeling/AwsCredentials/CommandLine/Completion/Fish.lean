import AwsCredentials.CommandLine.Completion.Place

/-!
# Completion for Fish

The script is a list of rules, each with a condition on the words before the cursor. An option is
named without its dashes.
-/

namespace AwsCredentials.CommandLine.Fish

/-- A quoted text. -/
def quoted (s : String) : String :=
  let write := fun c : Char => if c == '\'' || c == '\\' then "\\" ++ c.toString else c.toString
  "'" ++ rewritten write s ++ "'"

/-- The start of the names of the functions in the script. -/
def function (name : String) : String := "__fish_" ++ programName ++ "_" ++ name

/-- The form in which the options of the program are told to the reader of arguments. -/
def form (e : Explained) : String :=
  (e.spec.letter.elim "" fun c => c.toString ++ "/") ++ e.spec.name
    ++ (if e.takesValue then "=" else "")

def functions : List String :=
  ["# Print an optspec for argparse to handle cmd's options that are independent of any "
     ++ "subcommand.",
   "function " ++ function "global_optspecs",
   "\tstring join \\n " ++ " ".intercalate (topPlace.options.map form),
   "end", "",
   "function " ++ function "needs_command",
   "\t# Figure out if the current invocation already has a command.",
   "\tset -l cmd (commandline -opc)",
   "\tset -e cmd[1]",
   "\targparse -s (" ++ function "global_optspecs" ++ ") -- $cmd 2>/dev/null",
   "\tor return",
   "\tif set -q argv[1]",
   "\t\t# Also print the command, so this can be used to figure out what it is.",
   "\t\techo $argv[1]",
   "\t\treturn 1",
   "\tend",
   "\treturn 0",
   "end", "",
   "function " ++ function "using_subcommand",
   "\tset -l cmd (" ++ function "needs_command" ++ ")",
   "\ttest -z \"$cmd\"",
   "\tand return 1",
   "\tcontains -- $cmd[1] $argv",
   "end", ""]

/-- The start of a rule with its condition. -/
def rule (condition : String) : String :=
  "complete -c " ++ programName ++ " -n \"" ++ condition ++ "\""

/-- The words that an option takes, each on its line with a tab before its text. -/
def valueList (e : Explained) : String :=
  "\"" ++ "\n".intercalate (e.explainedWords.map fun w => w.1 ++ "\t" ++ quoted w.2) ++ "\""

/-- What a rule says of the value of an option. -/
def value (e : Explained) : String :=
  if !e.takesValue then ""
  else if e.takesPath then " -r -F"
  else if e.words.isEmpty then " -r"
  else " -r -f -a " ++ valueList e

def optionRule (condition : String) (e : Explained) : String :=
  rule condition ++ (e.spec.letter.elim "" fun c => " -s " ++ c.toString) ++ " -l " ++ e.spec.name
    ++ " -d " ++ quoted e.help ++ value e

def operandRule (condition : String) (e : Explained) : String :=
  rule condition ++ " -f -a " ++ valueList e

def commandRule (condition : String) (c : String × String) : String :=
  rule condition ++ " -f -a \"" ++ c.1 ++ "\" -d " ++ quoted c.2

/-- The condition that the cursor stands at a place. -/
def condition (p : Place) : String :=
  match p.path with
  | [_] => function "needs_command"
  | _ :: command :: _ =>
    function "using_subcommand " ++ command
      ++ if p.commands.isEmpty then ""
         else "; and not __fish_seen_subcommand_from "
          ++ " ".intercalate (p.commands.map Prod.fst)
  | [] => ""

/-- The rules for a place. -/
def rules (p : Place) : List String :=
  p.options.map (optionRule (condition p)) ++ p.operand.toList.map (operandRule (condition p))
    ++ p.commands.map (commandRule (condition p))

def script : String := ofLines (functions ++ places.flatMap rules)

end AwsCredentials.CommandLine.Fish
