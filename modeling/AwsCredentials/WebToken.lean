import AwsCredentials.Config
import AwsCredentials.Expansion
import AwsCredentials.Task

/-!
# Web identity tokens

The token of a role that is assumed with a web identity: the one in the configuration if there is
one, else the content of the token file. The blanks around it do not count, and a blank token is
none.
-/

namespace AwsCredentials.WebRoleSpec

variable {I : Interface}

/-- Why a token file gives no token. -/
def tokenFileError (spec : WebRoleSpec) (reason : String) : Error :=
  .role spec.arn reason none

/-- The token in a file. -/
def readToken (spec : WebRoleSpec) (path : Path) : Attempt I String := do
  Attempt.note (.debug .roles ("Reading web identity token from " ++ path))
  Attempt.ofTask Task.yield
  match ← Attempt.ofTask (Task.readFile path) with
  | .error e =>
    throw (spec.tokenFileError
      ("reading web identity token file " ++ path ++ ": " ++ e.message))
  | .ok text =>
    match Text.nonBlank text with
    | some token => return token
    | none => throw (spec.tokenFileError ("web identity token file " ++ path ++ " is empty"))

/-- The token of a role. -/
def findToken (spec : WebRoleSpec) (env : Environment) : Attempt I String :=
  match spec.token.bind Text.nonBlank, spec.tokenFile with
  | some token, _ => return token
  | none, some path => spec.readToken (path.expand env)
  | none, none => throw (.role spec.arn "no web identity token or token file configured" none)

end AwsCredentials.WebRoleSpec
