import AwsCredentials.Error
import AwsCredentials.Text.Blank
import AwsCredentials.Text.Shown

/-!
# The environment

A snapshot of the environment variables and of the home directory, taken once, so that no decision
sees a variable change. A variable with a blank value counts as not set. Values are never shown,
since they may be secret.
-/

namespace AwsCredentials

/-- The environment variables with their values, and the home directory. -/
structure Environment where
  bindings : List (String × String)
  home : Option Path
  deriving DecidableEq, Repr, Inhabited

namespace Environment

/-- The environment with the given variables. The home directory is that of `HOME`, else that of
`USERPROFILE`, as it is written there. -/
def ofVariables (bindings : List (String × String)) : Environment :=
  ⟨bindings, bindings.lookup "HOME" <|> bindings.lookup "USERPROFILE"⟩

/-- The environment of a running program. The home directory is that of `HOME`; an empty one counts
as none. -/
def ofProcess (bindings : List (String × String)) : Environment :=
  ⟨bindings, (bindings.lookup "HOME").filter fun home => !home.isEmpty⟩

/-- The trimmed value of a variable, unless it is blank. -/
def get? (env : Environment) (key : String) : Option String :=
  (env.bindings.lookup key).bind Text.nonBlank

/-- The value of the first of some variables that is set. -/
def first? (env : Environment) (keys : List String) : Option String :=
  keys.findSome? env.get?

/-- The names of the variables, in order. -/
def keys (env : Environment) : List String :=
  (env.bindings.map Prod.fst).mergeSort

open Text Shown in
/-- The names of the variables and the home directory. -/
def shown (env : Environment) : String :=
  record "Env" [("keys", list quoted env.keys), ("home", option quoted env.home)]

end Environment

/-- A path inside a directory. -/
def Path.inside (directory : Path) (name : String) : Path :=
  if directory.isEmpty || directory.toList.getLast? = some '/' then directory ++ name
  else directory ++ "/" ++ name

namespace Environment

/-- The file that a variable names, else one in the directory for settings in the home
directory. -/
def settingsFile? (env : Environment) (key name : String) : Option Path :=
  env.get? key <|> env.home.map fun home => (Path.inside home ".aws").inside name

/-- The shared file of profile settings. -/
def configFile? (env : Environment) : Option Path :=
  env.settingsFile? "AWS_CONFIG_FILE" "config"

/-- The shared file of keys. -/
def credentialsFile? (env : Environment) : Option Path :=
  env.settingsFile? "AWS_SHARED_CREDENTIALS_FILE" "credentials"

end Environment

end AwsCredentials
