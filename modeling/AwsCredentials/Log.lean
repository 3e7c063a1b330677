import AwsCredentials.Text.Quoted

/-!
# Log events

What the program reports while it works: a level, the part of the program it comes from, a message
and named values. `Event.line` writes an event on one line.
-/

namespace AwsCredentials.Log

/-- How much an event matters. -/
inductive Level where
  | error
  | warn
  | info
  | debug
  | trace
  deriving DecidableEq, Repr, Inhabited

namespace Level

/-- The word for a level. -/
def name : Level → String
  | .error => "ERROR"
  | .warn => "WARN"
  | .info => "INFO"
  | .debug => "DEBUG"
  | .trace => "TRACE"

/-- The number of a level: the more detail, the larger. -/
def detail : Level → Nat
  | .error => 1
  | .warn => 2
  | .info => 3
  | .debug => 4
  | .trace => 5

end Level

/-- The part of the program that an event comes from. -/
inductive Source where
  | configuration
  | sharedFiles
  | chain
  | roles
  | identity
  | session
  | cache
  | retry
  | clients
  | traffic
  | commandLine
  | whoami
  deriving DecidableEq, Repr, Inhabited

/-- The name by which a log filter selects a part of the program. -/
def Source.target : Source → String
  | .configuration => "awsbase::config"
  | .sharedFiles => "awsbase::aws::profile"
  | .chain => "awsbase::aws::chain"
  | .roles => "awsbase::aws::sts"
  | .identity => "awsbase::aws::identity"
  | .session => "awsbase::session"
  | .cache => "awsbase::aws::cache"
  | .retry => "awsbase::retry"
  | .clients => "awsbase::aws::sdk"
  | .traffic => "awsbase::http"
  | .commandLine => "awsbase::cli"
  | .whoami => "awsbase::commands::whoami"

/-- A named value of an event: words that are written as they are, a text that is quoted on a log
line, or a number. -/
inductive Value where
  | words (s : String)
  | text (s : String)
  | number (n : Nat)
  deriving DecidableEq, Repr

/-- The form of a value on a log line. -/
def Value.line : Value → String
  | .words s => s
  | .text s => Text.quoted s
  | .number n => toString n

/-- One report. -/
structure Event where
  level : Level
  source : Source
  message : String
  fields : List (String × Value) := []
  deriving DecidableEq, Repr

/-- The message of an event and the values after it. -/
def Event.line (e : Event) : String :=
  " ".intercalate (e.message :: e.fields.map fun f => f.1 ++ "=" ++ f.2.line)

def Event.debug (source : Source) (message : String) : Event := ⟨.debug, source, message, []⟩

def Event.info (source : Source) (message : String) : Event := ⟨.info, source, message, []⟩

def Event.warn (source : Source) (message : String) : Event := ⟨.warn, source, message, []⟩

end AwsCredentials.Log
