import AwsCredentials.ProfilePlan
import AwsCredentials.Roles
import AwsCredentials.Settings
import AwsCredentials.WebToken

/-!
# The chain of credential sources

The sources of credentials are tried in a fixed order: a web identity role, the keys of the
configuration, the environment, the active profile, the outside sources. The first one that has
credentials ends the search. A source that fails ends it as well; only a source that has nothing to
offer is passed over.
-/

namespace AwsCredentials

/-- A source of credentials. -/
inductive CredentialSource where
  /-- The keys of the configuration. -/
  | static (keys : StaticKeys)
  | environment
  | profile (name : String) (files : List Path)
  /-- A web identity token that was already found. -/
  | webIdentity (token : String)
  | defaultChain
  deriving DecidableEq, Repr

namespace CredentialSource

/-- The name of a source. -/
def name : CredentialSource → String
  | static _ => "static credentials"
  | environment => "environment variables"
  | profile _ _ => "shared profile"
  | webIdentity _ => "web identity token"
  | defaultChain => "default chain"

open Text Shown in
/-- A source without its secrets. -/
def shown : CredentialSource → String
  | static keys => partialRecord "Static" [("access_key", quoted keys.accessKey)]
  | environment => "Environment"
  | profile name files =>
    record "SharedProfile" [("name", quoted name), ("files", list quoted files)]
  | webIdentity _ => "InlineWebIdentityToken \x7b .. \x7d"
  | defaultChain => "DefaultChain"

end CredentialSource

namespace Environment

/-- The key pair of the environment, if both halves are set. -/
def keys? (env : Environment) : Option Credentials :=
  match env.get? "AWS_ACCESS_KEY_ID", env.get? "AWS_SECRET_ACCESS_KEY" with
  | some accessKey, some secretKey =>
    some (.longLived accessKey secretKey (env.get? "AWS_SESSION_TOKEN") .environment)
  | _, _ => none

/-- Whether just one half of the key pair is set. -/
def hasHalfKeys (env : Environment) : Bool :=
  (env.get? "AWS_ACCESS_KEY_ID").isSome != (env.get? "AWS_SECRET_ACCESS_KEY").isSome

/-- The key pair of the environment; a half of one is reported. -/
def findKeys {I : Interface} (env : Environment) : Task I (Option Credentials) := do
  if env.hasHalfKeys then
    Task.note (.debug .chain "Ignoring incomplete credentials in environment")
  return env.keys?

end Environment

namespace Settings

/-- The sources of credentials in their order. The web identity token is looked for now, so that a
missing token is found before anything is sent. -/
def sources {I : Interface} (s : Settings) : Attempt I (List CredentialSource) := do
  let web ← match s.webRole with
    | some spec => do
      Attempt.ofExcept spec.check
      pure [CredentialSource.webIdentity (← spec.findToken s.environment)]
    | none => pure []
  return web ++ s.staticKeys.toList.map .static
    ++ [.environment, .profile s.profileName s.sharedFiles.paths, .defaultChain]

/-- The first credentials of a chain of profiles, if it has any. -/
def evaluateBase (s : Settings) (retry : RetryPolicy) :
    ProfileBase → ServiceAttempt (Option Credentials)
  | .keys c => return some c
  | .nothing => return none
  | .environment profile => do
    match ← Attempt.ofTask s.environment.findKeys with
    | some c => return some c
    | none =>
      throw (.profile profile
        "credential_source is Environment but no credentials are set in the environment")
  | .outside profile source => do
    match ← Services.outside source with
    | some c => return some c
    | none =>
      throw (.noSources (some ("credential_source " ++ source.name ++ " of profile "
        ++ Text.quoted profile ++ " provided no credentials")))
  | .webIdentity spec => do
    let token ← spec.findToken s.environment
    return some (← retry.assumeRoleWithWebIdentity spec token)

/-- The credentials of a profile, if it has any. -/
def evaluateProfile (s : Settings) (retry : RetryPolicy) (name : String) :
    ServiceAttempt (Option Credentials) := do
  if !s.sharedFiles.contains name then
    Attempt.note (.debug .chain ("Profile " ++ name ++ " not present in shared files"))
    return none
  else
    let plan ← Attempt.ofExcept (s.sharedFiles.plan name)
    match ← s.evaluateBase retry plan.base with
    | none =>
      Attempt.note (.debug .chain ("Profile " ++ name ++ " has no credentials"))
      return none
    | some base => return some (← retry.assumeRoles base plan.roles)

/-- The credentials of a source, if it has any. -/
def evaluate (s : Settings) (retry : RetryPolicy) :
    CredentialSource → ServiceAttempt (Option Credentials)
  | .static keys => return some (.longLived keys.accessKey keys.secretKey keys.token .static)
  | .environment => Attempt.ofTask s.environment.findKeys
  | .profile name _ => s.evaluateProfile retry name
  | .webIdentity token =>
    match s.webRole with
    | some spec => return some (← retry.assumeRoleWithWebIdentity spec token)
    | none => return none
  | .defaultChain => Services.outside .defaultChain

/-- The credentials of the first of some sources that has any. -/
def firstOf (s : Settings) (retry : RetryPolicy) :
    List CredentialSource → ServiceAttempt Credentials
  | [] => throw (.noSources none)
  | source :: rest => do
    Attempt.note (.debug .chain ("Trying credential source: " ++ source.name))
    match ← s.evaluate retry source with
    | some c =>
      Attempt.note (.info .chain
        ("Using credentials from " ++ source.name ++ " (" ++ c.origin.name ++ ")"))
      return c
    | none => s.firstOf retry rest

/-- The credentials of the first source that has any. -/
def baseCredentials (s : Settings) (retry : RetryPolicy) : ServiceAttempt Credentials := do
  s.firstOf retry (← s.sources)

/-- The credentials of the first source that has any, after the configured roles were assumed with
them. -/
def fetch (s : Settings) (retry : RetryPolicy) : ServiceAttempt Credentials := do
  retry.assumeRoles (← s.baseCredentials retry) s.roles

end Settings

end AwsCredentials
