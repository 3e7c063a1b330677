import AwsCredentials.CommandLine.Help
import AwsCredentials.CommandLine.Job
import AwsCredentials.Log.Filter

/-!
# The program

From the words of a command line to what the program leaves behind: its exit code and what it has
written. The log goes to the error output, and so does the reason of a failure, as its last line.
-/

namespace AwsCredentials.CommandLine

/-- What a program leaves behind. -/
structure Ending where
  code : Nat
  stdout : String
  /-- The lines of the error output. -/
  stderr : List String
  deriving DecidableEq, Repr

/-- How a command line ends that is not carried out. -/
def UsageError.ending (e : UsageError) : Ending :=
  if e.exitCode = 0 then ⟨0, e.message, []⟩ else ⟨e.exitCode, "", e.lines⟩

namespace Arguments

def tracesHttp (a : Arguments) : Bool := a.given.contains "trace-http"

/-- The filter that the options ask for. -/
def ownFilter (a : Arguments) : Log.Filter :=
  let filter := Log.Filter.upTo <|
    match a.verbosity with
    | 0 => .warn
    | 1 => .info
    | 2 => .debug
    | _ => .trace
  if a.tracesHttp then filter.andUpTo .traffic .debug else filter

/-- What is shown of the log: what a variable says, if it can be read, or else what the options ask
for. -/
def filter (a : Arguments) (env : Environment) : Log.Filter :=
  ((env.bindings.lookup "RUST_LOG").bind Log.Filter.read?).getD a.ownFilter

/-- Whether the log tells where its events come from. -/
def tellsSources (a : Arguments) : Bool := 2 ≤ a.verbosity || a.tracesHttp

/-- The line for an event, if it is shown. -/
def logLine? (a : Arguments) (env : Environment) (e : Log.Event) : Option String :=
  if (a.filter env).shows e then
    let source := if a.tellsSources then e.source.target ++ ": " else ""
    some (e.level.name ++ " " ++ source ++ e.line)
  else none

end Arguments

/-- The line for the reason of a failure. -/
def failureLine (reason : String) : String := "Error: " ++ reason

/-- How a command line ends that was carried out. -/
def ending (log : List String) : Except String String → Ending
  | .ok text => ⟨0, text, log⟩
  | .error reason => ⟨1, "", log ++ [failureLine reason]⟩

/-- Runs the program. It does not end if an answer never comes. -/
def run {σ : Type} (words : List String) (env : Environment) (host : Host Http σ)
    (w : World Http σ) : Option Ending :=
  match Arguments.read words with
  | .error e => some e.ending
  | .ok a =>
    let (result, w) := a.carryOut env host w
    result.map (ending (w.events.toList.filterMap (a.logLine? env)))

end AwsCredentials.CommandLine
