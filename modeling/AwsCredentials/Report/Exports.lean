import AwsCredentials.Credentials
import AwsCredentials.Json.Value

/-!
# Printing credentials

Credentials are printed as shell commands that set variables, or as the JSON object that other
programs read from a credential process. The expiration is written in RFC 3339; credentials whose
expiration cannot be written are not printed.
-/

namespace AwsCredentials

/-- The forms in which credentials are printed. -/
inductive CredentialsFormat where
  /-- Shell commands. -/
  | env
  /-- The object of a credential process. -/
  | process
  deriving DecidableEq, Repr

namespace Credentials

/-- The written expiration, if there is one. -/
def expirationText? (c : Credentials) : Except Instant.TimestampError (Option String) :=
  match c.expiration with
  | none => .ok none
  | some expiration => expiration.timestamp?.map some

/-- The variables that hold the credentials, with their values. -/
def exported (c : Credentials) (expiration : Option String) (region : String) :
    List (String × String) :=
  [("AWS_ACCESS_KEY_ID", c.accessKeyId), ("AWS_SECRET_ACCESS_KEY", c.secretAccessKey)]
    ++ c.sessionToken.toList.map ("AWS_SESSION_TOKEN", ·)
    ++ expiration.toList.map ("AWS_CREDENTIAL_EXPIRATION", ·)
    ++ [("AWS_REGION", region)]

/-- The commands that set variables, one on a line. -/
def exportCommands (bindings : List (String × String)) : String :=
  "\n".intercalate (bindings.map fun v => "export " ++ v.1 ++ "=" ++ v.2)

/-- The object of a credential process. -/
def processObject (c : Credentials) (expiration : Option String) : Json :=
  .object ([("Version", .number "1"), ("AccessKeyId", .string c.accessKeyId),
      ("SecretAccessKey", .string c.secretAccessKey)]
    ++ c.sessionToken.toList.map (fun token => ("SessionToken", .string token))
    ++ expiration.toList.map fun e => ("Expiration", .string e))

/-- The printed credentials. -/
def render (c : Credentials) (region : String) (format : CredentialsFormat) :
    Except Instant.TimestampError String :=
  c.expirationText?.map fun expiration =>
    match format with
    | .env => exportCommands (c.exported expiration region)
    | .process => (c.processObject expiration).pretty

end Credentials

/-- What is said of credentials whose expiration cannot be written. -/
def Instant.TimestampError.report (e : Instant.TimestampError) : String :=
  "Failed to format credential expiration: " ++ e.message

end AwsCredentials
