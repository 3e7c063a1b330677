import AwsCredentials.Cache
import AwsCredentials.CredentialChain
import AwsCredentials.Identity

/-!
# Sessions

`Session.resolve` turns a configuration into a session in stages: settle the configuration, get the
base credentials and assume the configured roles, ask for the owner, look for the account. A stage
that fails ends the resolution, but for the last one, whose failure is kept in the session. A
session hands out its credentials from a cache, which goes through the first stages again once they
expire.
-/

namespace AwsCredentials

/-- A resolved identity. -/
structure Session where
  settings : Settings
  retry : RetryPolicy
  /-- The credentials that were obtained at first, and later ones. -/
  cache : Cache
  /-- Where the first credentials came from. -/
  origin : Origin
  account : Account
  caller : Option CallerIdentity
  /-- Why the account is not known, if it was looked for in vain. -/
  accountError : Option Error
  deriving DecidableEq, Repr

namespace Session

/-- The region of a session. -/
def region (s : Session) : String := s.settings.region

/-- The policy that is given, or else the one with the settled number of attempts. -/
def retryPolicy (given : Option RetryPolicy) (settings : Settings) : RetryPolicy :=
  given.getD (.ofAttempts settings.maxAttempts)

/-- Asks for the owner of the credentials, unless the settings say not to. -/
def validate (settings : Settings) (retry : RetryPolicy) (c : Credentials) :
    ServiceAttempt (Option CallerIdentity) := do
  if settings.skipValidation then
    Attempt.note (.debug .session "Skipping credentials validation")
    return none
  else return some (← retry.validate c)

/-- The settled configuration, whose roles must all have an ARN. -/
def settle {I : Interface} (config : Config) (env : Environment) : Attempt I Settings := do
  let settings ← Settings.resolve config env
  Attempt.ofExcept (settings.roles.forM RoleSpec.check)
  Attempt.note (.info .session ("Resolving AWS credentials (region " ++ settings.region ++ ")"))
  return settings

/-- Resolves a session with settled settings. -/
def resolveWith (settings : Settings) (retry : RetryPolicy) : ServiceAttempt Session := do
  let c ← settings.fetch retry
  let caller ← validate settings retry c
  let lookup ← Attempt.ofTask
    (retry.findAccount c settings.region caller settings.skipAccountLookup)
  Attempt.note (.info .session
    ("Resolved " ++ c.origin.name ++ " credentials for account " ++ Text.quoted lookup.account.id
      ++ " in partition " ++ lookup.account.partition))
  return {
    settings, retry, cache := .holding (some c), origin := c.origin, account := lookup.account
    caller, accountError := lookup.incomplete }

/-- Resolves a session. -/
def resolve (config : Config) (env : Environment) (retry : Option RetryPolicy) :
    ServiceAttempt Session := do
  let settings ← settle config env
  resolveWith settings (retryPolicy retry settings)

/-- Gets credentials for some callers that come at the same time. -/
def credentialsTogether (s : Session) (n : Nat) :
    ServiceTask (Session × List (Except Error Credentials)) := do
  let (cache, results) ← s.cache.getTogether (s.settings.fetch s.retry) n
  return ({ s with cache }, results)

/-- The current credentials. -/
def credentials (s : Session) : ServiceTask (Session × Option (Except Error Credentials)) := do
  let (cache, result) ← s.cache.get (s.settings.fetch s.retry)
  return ({ s with cache }, result)

/-- Throws the current credentials away. -/
def invalidate (s : Session) : ServiceTask Session := do
  return { s with cache := ← s.cache.invalidate }

open Text Shown

/-- What a session holds but for its credentials. -/
def shown (s : Session) : String :=
  partialRecord "Session"
    [("region", quoted s.region), ("origin", s.origin.shown), ("identity", s.account.shown),
     ("caller_identity", option CallerIdentity.shown s.caller),
     ("account_lookup_error", option Error.shown s.accountError)]

end Session

end AwsCredentials
