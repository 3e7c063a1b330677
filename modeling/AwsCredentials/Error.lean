import AwsCredentials.Ini.Document
import AwsCredentials.Time.Duration

/-!
# What can go wrong

A call of a service fails with an `ApiError`. A resolution fails with an `Error`, whose constructor
is the cause and whose `message` is the wording. `Error.kind` sorts the causes coarsely, and
`Error.isConfiguration` holds of those that were found before anything was sent.
-/

namespace AwsCredentials

/-- Where a file is. -/
abbrev Path := String

/-- Why a file could not be read as text. -/
inductive ReadError where
  | notFound
  | notDirectory
  | isDirectory
  | notText
  | badName
  | nameTooLong
  | other (message : String)
  deriving DecidableEq, Repr

/-- What is said of an unreadable file. -/
def ReadError.message : ReadError → String
  | .notFound => "No such file or directory (os error 2)"
  | .notDirectory => "Not a directory (os error 20)"
  | .isDirectory => "Is a directory (os error 21)"
  | .notText => "stream did not contain valid UTF-8"
  | .badName => "file name contained an unexpected NUL byte"
  | .nameTooLong => "File name too long (os error 36)"
  | .other message => message

/-- Whether there is no file at all. -/
def ReadError.missing : ReadError → Bool
  | .notFound | .notDirectory | .badName | .nameTooLong => true
  | _ => false

/-- What is wrong with a shared file. -/
inductive FileFault where
  | unreadable (e : ReadError)
  | malformed (e : Ini.SyntaxError)
  deriving DecidableEq, Repr

def FileFault.message : FileFault → String
  | .unreadable e => e.message
  | .malformed e => e.message

/-- How a call failed. -/
inductive ApiErrorKind where
  /-- The service answered with an error. -/
  | service
  /-- No response came: the request could not be delivered or the connection broke. -/
  | dispatch
  /-- No response came in time. -/
  | timeout
  /-- The response lacks what the call needs. -/
  | response
  /-- The request could not be built. -/
  | construction
  deriving DecidableEq, Repr

/-- The word for how a call failed. -/
def ApiErrorKind.name : ApiErrorKind → String
  | .service => "Service"
  | .dispatch => "Dispatch"
  | .timeout => "Timeout"
  | .response => "Response"
  | .construction => "Construction"

/-- A failed call of a service. -/
structure ApiError where
  operation : String
  kind : ApiErrorKind
  code : Option String
  message : String
  status : Option Nat
  deriving DecidableEq, Repr

namespace ApiError

/-- The operation, the status, the code and the message of a failed call. -/
def text (e : ApiError) : String :=
  let status := match e.status with
    | some s => " (HTTP " ++ toString s ++ ")"
    | none => ""
  let code := match e.code with
    | some c => c ++ ": "
    | none => ""
  e.operation ++ " failed" ++ status ++ ": " ++ code ++ e.message

/-- The code of a failed call, or its message where it has none. -/
def label (e : ApiError) : String :=
  e.code.getD e.message

open Text Shown in
/-- The fields of a failed call. -/
def shown (e : ApiError) : String :=
  record "ApiError"
    [("operation", quoted e.operation), ("kind", e.kind.name), ("code", option quoted e.code),
     ("message", quoted e.message), ("status", option toString e.status)]

end ApiError

/-- Why a resolution failed. -/
inductive Error where
  /-- No source has credentials. -/
  | noSources (detail : Option String)
  /-- A role could not be assumed; `call` is the failed call, if one was made. -/
  | role (arn reason : String) (call : Option ApiError)
  /-- A profile was named that the shared files lack. -/
  | unknownProfile (profile : String) (files : List Path)
  /-- A profile that cannot be used as it is written. -/
  | profile (name detail : String)
  /-- The identity check failed. -/
  | validation (call : ApiError)
  /-- No account was found; the failures of the lookups. -/
  | account (calls : List ApiError)
  /-- A shared file exists but cannot be read. -/
  | sharedFile (path : Path) (fault : FileFault)
  /-- A setting has no valid value. -/
  | setting (detail : String)
  /-- The resolution took too long. -/
  | timeout (after : Duration)
  deriving DecidableEq, Repr

/-- A coarse sorting of the causes. -/
inductive ErrorKind where
  | noCredentials
  | roleAdoption
  | configuration
  | validation
  | accountLookup
  | timeout
  deriving DecidableEq, Repr

namespace Error

def kind : Error → ErrorKind
  | .noSources _ => .noCredentials
  | .role _ _ _ => .roleAdoption
  | .unknownProfile _ _ | .profile _ _ | .sharedFile _ _ | .setting _ => .configuration
  | .validation _ => .validation
  | .account _ => .accountLookup
  | .timeout _ => .timeout

/-- Whether the error was found without a call: a role that failed before its call counts. -/
def isConfiguration : Error → Bool
  | .role _ _ call => call.isNone
  | e => e.kind = .configuration

/-- What is said of an error. -/
def message : Error → String
  | .noSources none => "no valid credential sources found"
  | .noSources (some detail) => "no valid credential sources found: " ++ detail
  | .role arn reason _ => "cannot assume IAM role " ++ Text.quoted arn ++ ": " ++ reason
  | .unknownProfile name files =>
    "profile " ++ Text.quoted name ++ " not found in shared files ["
      ++ ", ".intercalate files ++ "]"
  | .profile name detail =>
    "invalid session configuration for profile " ++ Text.quoted name ++ ": " ++ detail
  | .validation call => "validating provider credentials: " ++ call.text
  | .account calls =>
    "AWS account ID not found for provider: "
      ++ if calls.isEmpty then "no lookup method succeeded"
        else "; ".intercalate (calls.map ApiError.text)
  | .sharedFile path fault => "failed to load shared file " ++ path ++ ": " ++ fault.message
  | .setting detail => "invalid configuration: " ++ detail
  | .timeout after => "credential resolution timed out after " ++ after.text

/-- The error behind an error, if it has one. -/
def cause : Error → Option String
  | .role _ _ call => call.map ApiError.text
  | .validation call => some call.text
  | .sharedFile _ fault => some fault.message
  | _ => none

/-- The error and the error behind it. -/
def report (e : Error) : String :=
  match e.cause with
  | some cause => e.message ++ ": " ++ cause
  | none => e.message

end Error

namespace Error

open Text Shown

private def faultShown : FileFault → String
  | .unreadable e => tagged "Io" (quoted e.message)
  | .malformed e =>
    tagged "Parse" (record "ParseError"
      [("line", toString (e.position.line + 1)), ("col", toString (e.position.column + 1)),
       ("msg", quoted e.fault.message)])

/-- The cause of an error and its parts. -/
def shown : Error → String
  | .noSources detail => record "NoValidCredentialSources" [("detail", option quoted detail)]
  | .role arn reason call =>
    record "CannotAssumeRole"
      [("role_arn", quoted arn), ("reason", quoted reason),
       ("source", option ApiError.shown call)]
  | .unknownProfile name files =>
    record "InvalidProfile" [("profile", quoted name), ("files", list quoted files)]
  | .profile name detail =>
    record "SessionConfiguration" [("profile", quoted name), ("message", quoted detail)]
  | .validation call => tagged "ValidationFailed" call.shown
  | .account calls =>
    record "AccountLookupIncomplete" [("errors", list ApiError.shown calls)]
  | .sharedFile path fault =>
    record "SharedFile" [("path", quoted path), ("source", faultShown fault)]
  | .setting detail => tagged "InvalidConfiguration" (quoted detail)
  | .timeout after => tagged "Timeout" after.text

end Error

end AwsCredentials
