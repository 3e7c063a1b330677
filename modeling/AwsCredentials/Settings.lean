import AwsCredentials.Config
import AwsCredentials.Expansion
import AwsCredentials.SharedFiles

/-!
# Settled settings

`Settings.ofParts` settles what a configuration leaves open. Every setting is the first one present
among the configured one, the environment, the active profile and a default. The active profile is
the one that the configuration or the environment names; a name that the shared files lack is an
error, whatever else is set. Without a name it is the default profile, if there is one.
-/

namespace AwsCredentials

/-- A key pair that the caller gives. -/
structure StaticKeys where
  accessKey : String
  secretKey : String
  token : Option String
  deriving DecidableEq, Repr, Inhabited

/-- Addresses to call in place of the usual ones. -/
structure Endpoints where
  sts : Option String
  iam : Option String
  deriving DecidableEq, Repr, Inhabited

/-- A configuration in which nothing is left open. -/
structure Settings where
  staticKeys : Option StaticKeys
  environment : Environment
  /-- The profile that was named; without one the default profile is used if it exists. -/
  profile : Option String
  sharedFiles : SharedFiles
  region : String
  roles : List RoleSpec
  webRole : Option WebRoleSpec
  skipValidation : Bool
  skipAccountLookup : Bool
  maxAttempts : Nat
  endpoints : Endpoints
  useFips : Bool
  useDualStack : Bool
  traceHttp : Bool
  deriving DecidableEq, Repr, Inhabited

/-- The region that is used when none is set. -/
def defaultRegion : String := "us-east-1"

/-- The attempts that a call is given when no number is set. -/
def defaultAttempts : Nat := 3

namespace Settings

/-- The name of the profile that holds the settings. -/
def profileName (s : Settings) : String :=
  s.profile.getD defaultProfile

/-- What is said of a value that cannot be read. -/
def invalid (name value hint : String) : Error :=
  .setting ("invalid value for " ++ name ++ ": " ++ Text.quoted value ++ hint)

/-- Reads a truth value. -/
def readFlag (name value : String) : Except Error Bool :=
  match Text.asciiLower value with
  | "true" => .ok true
  | "false" => .ok false
  | _ => .error (invalid name value " (expected true or false)")

/-- Reads a number of attempts. -/
def readAttempts (name value : String) : Except Error Nat :=
  match Text.readNat Text.max32 value with
  | some n => .ok n
  | none => .error (invalid name value "")

/-- A setting that may be given as a variable or as a key of a profile: the name under which it was
found and its text. -/
def find? (env : Environment) (profile : Option Profile) (envKey key : String) :
    Option (String × String) :=
  (env.get? envKey).map (envKey, ·) <|> (profile.bind (·.get? key)).map (key, ·)

/-- A setting that has to be read if it is not given as a value. -/
def settle {α : Type} (given : Option α) (text : Option (String × String))
    (read : String → String → Except Error α) (default : α) : Except Error α :=
  match given, text with
  | some value, _ => .ok value
  | none, some (name, text) => read name text
  | none, none => .ok default

/-- The profile that is named, if one is. -/
def profileNamed? (config : Config) (env : Environment) : Option String :=
  config.profile.filter (fun name => !Text.blank name)
    <|> env.first? ["AWS_PROFILE", "AWS_DEFAULT_PROFILE"]

/-- The key pair that is given, of which no half may be missing. -/
def staticKeys? (config : Config) : Except Error (Option StaticKeys) :=
  match config.accessKey, config.secretKey with
  | some accessKey, some secretKey => .ok (some ⟨accessKey, secretKey, config.token⟩)
  | none, none => .ok none
  | some _, none => .error (.setting "access key is set but secret key is missing")
  | none, some _ => .error (.setting "secret key is set but access key is missing")

/-- The region that is set, if one is. -/
def region? (config : Config) (env : Environment) (profile : Option Profile) : Option String :=
  config.region <|> env.first? ["AWS_REGION", "AWS_DEFAULT_REGION"]
    <|> profile.bind (·.get? "region")

/-- The address to call in place of the usual one of a service. -/
def endpoint? (given : Option String) (env : Environment) (envKey : String)
    (profile : Option Profile) : Option String :=
  given <|> env.first? [envKey, "AWS_ENDPOINT_URL"] <|> profile.bind (·.get? "endpoint_url")

/-- The named profile, which must exist. -/
def checkProfile (files : SharedFiles) (name : Option String) : Except Error Unit :=
  match name with
  | some name =>
    if files.contains name then .ok () else .error (.unknownProfile name files.paths)
  | none => .ok ()

/-- Settles a configuration. -/
def ofParts (config : Config) (env : Environment) (files : SharedFiles) :
    Except Error Settings := do
  let name := profileNamed? config env
  checkProfile files name
  let active := files.profile? (name.getD defaultProfile)
  let staticKeys ← staticKeys? config
  let maxAttempts ← settle config.maxAttempts (find? env active "AWS_MAX_ATTEMPTS" "max_attempts")
    readAttempts defaultAttempts
  let useFips ← settle config.useFips (find? env active "AWS_USE_FIPS_ENDPOINT" "use_fips_endpoint")
    readFlag false
  let useDualStack ← settle config.useDualStack
    (find? env active "AWS_USE_DUALSTACK_ENDPOINT" "use_dualstack_endpoint") readFlag false
  return {
    staticKeys, environment := env, profile := name, sharedFiles := files
    region := (region? config env active).getD defaultRegion
    roles := config.roles, webRole := config.webRole
    skipValidation := config.skipValidation, skipAccountLookup := config.skipAccountLookup
    maxAttempts
    endpoints := ⟨endpoint? config.stsEndpoint env "AWS_ENDPOINT_URL_STS" active,
      endpoint? config.iamEndpoint env "AWS_ENDPOINT_URL_IAM" active⟩
    useFips, useDualStack, traceHttp := config.traceHttp }

/-- Whether the default region is used: the profile and the key pair are in order and no region is
set. -/
def fallsBackToDefaultRegion (config : Config) (env : Environment) (files : SharedFiles) : Bool :=
  let name := profileNamed? config env
  let active := files.profile? (name.getD defaultProfile)
  (checkProfile files name).isOk && (staticKeys? config).isOk
    && (region? config env active).isNone

/-- The event that reports settled settings. -/
def summary (s : Settings) : Log.Event :=
  ⟨.debug, .configuration, "Resolved configuration",
    [("profile", .words (Text.Shown.option Text.quoted s.profile)), ("region", .words s.region),
     ("max_attempts", .number s.maxAttempts)]⟩

variable {I : Interface}

/-- Settles a configuration and reports it. -/
def settled (config : Config) (env : Environment) (files : SharedFiles) : Attempt I Settings := do
  if fallsBackToDefaultRegion config env files then
    Attempt.note (.info .configuration
      ("No region configured, using default " ++ defaultRegion ++ " for STS"))
  let s ← Attempt.ofExcept (ofParts config env files)
  Attempt.note s.summary
  return s

/-- Loads the shared files that a configuration and the environment name, and settles the
configuration. -/
def resolve (config : Config) (env : Environment) : Attempt I Settings := do
  let configFiles :=
    if config.configFiles.isEmpty then env.configFile?.toList else config.configFiles
  let credentialsFiles :=
    if config.credentialsFiles.isEmpty then env.credentialsFile?.toList
    else config.credentialsFiles
  let files ← SharedFiles.load (configFiles.map (Path.expand · env))
    (credentialsFiles.map (Path.expand · env))
  settled config env files

end Settings

open Text Shown

/-- The key pair without its secret. -/
def StaticKeys.shown (keys : StaticKeys) : String :=
  partialRecord "StaticKeys" [("access_key", quoted keys.accessKey)]

def Endpoints.shown (endpoints : Endpoints) : String :=
  record "Endpoints"
    [("sts", option quoted endpoints.sts), ("iam", option quoted endpoints.iam)]

/-- The fields of the settings. -/
def Settings.shown (s : Settings) : String :=
  record "ResolvedConfig"
    [("static_keys", option StaticKeys.shown s.staticKeys), ("env", s.environment.shown),
     ("profile", option quoted s.profile), ("shared_files", s.sharedFiles.shown),
     ("region", quoted s.region), ("assume_role", list RoleSpec.shown s.roles),
     ("assume_role_with_web_identity", option WebRoleSpec.shown s.webRole),
     ("skip_credentials_validation", flag s.skipValidation),
     ("skip_requesting_account_id", flag s.skipAccountLookup),
     ("max_attempts", toString s.maxAttempts), ("endpoints", s.endpoints.shown),
     ("use_fips_endpoint", flag s.useFips), ("use_dual_stack_endpoint", flag s.useDualStack),
     ("trace_http", flag s.traceHttp)]

end AwsCredentials
