import AwsCredentials.Session
import AwsCredentials.Wire.Call
import AwsCredentials.Wire.Container

/-!
# The services over HTTP

A `Client` carries out the calls of the services over HTTP. `Client.answer` says how each call is
carried out, so that `Task.via` turns a task that calls the services into one that sends requests.
-/

namespace AwsCredentials

/-- A task that sends requests. -/
abbrev HttpTask := Task Http

/-- A task that sends requests and may fail. -/
abbrev HttpAttempt := Attempt Http

/-- What is needed to carry out the calls of the services. -/
structure Client where
  settings : Settings
  container : Container

namespace Client

/-- The failure of an outside source. -/
def outsideFailure (source : OutsideSource) (reason : String) : Error :=
  .noSources (some (source.name ++ ": " ++ reason))

/-- Asks an outside source. The container is the only one that may have credentials. -/
def loadOutside (c : Client) (source : OutsideSource) :
    HttpTask (Except Error (Option Credentials)) := do
  Task.note (.debug .clients ("Loading credentials from " ++ source.name))
  match if source = .instanceMetadata then .unset else c.container with
  | .unset =>
    Task.note (.debug .clients (source.name ++ " provided no credentials"))
    return .ok none
  | .unusable address =>
    return .error (outsideFailure source ("unusable address " ++ Text.quoted address))
  | .at address =>
    match Container.readExchange (← (Container.request address).send) with
    | .ok credentials => return .ok (some credentials)
    | .error reason => return .error (outsideFailure source reason)

/-- Carries out a call of the services. -/
def answer (c : Client) : (call : ServiceCall) → HttpTask call.Answer
  | .assumeRole signer request => (WireCall.assumeRole signer request).perform c.settings
  | .assumeRoleWithWebIdentity request =>
    (WireCall.assumeRoleWithWebIdentity request).perform c.settings
  | .getCallerIdentity signer => (WireCall.getCallerIdentity signer).perform c.settings
  | .getUser signer => (WireCall.getUser signer).perform c.settings
  | .listRoles signer maxItems => (WireCall.listRoles signer maxItems).perform c.settings
  | .outside source => c.loadOutside source

/-- Carries out a task that calls the services. -/
def carryOut {α : Type} (c : Client) (task : ServiceTask α) : HttpTask α :=
  task.via (I := Services) c.answer

/-- Carries out a task that calls the services and may fail. -/
def attempt {α : Type} (c : Client) (task : ServiceAttempt α) : HttpAttempt α :=
  ExceptT.mk (c.carryOut task.run)

open Text Shown in
/-- What decides where the calls go. -/
def shown (c : Client) : String :=
  record "SdkClients"
    [("region", quoted c.settings.region), ("endpoints", c.settings.endpoints.shown),
     ("use_fips", flag c.settings.useFips), ("use_dual_stack", flag c.settings.useDualStack),
     ("trace_http", flag c.settings.traceHttp)]

end Client

namespace Session

/-- The client that a session makes its calls with. -/
def client (s : Session) (container : Container) : Client := ⟨s.settings, container⟩

/-- Resolves a session over HTTP. -/
def resolveOverHttp (config : Config) (env : Environment) (retry : Option RetryPolicy)
    (container : Container) : HttpAttempt Session := do
  let settings ← settle config env
  (Client.mk settings container).attempt (resolveWith settings (retryPolicy retry settings))

open Text Shown in
/-- The cache of a session with everything that its credentials are fetched with. -/
def providerShown (s : Session) (container : Container) : String :=
  Cache.shown (record "CredentialPipeline"
    [("config", s.settings.shown),
     ("authenticator", record "Authenticator"
       [("sts", (s.client container).shown), ("retry", s.retry.shown),
        ("time", "SystemTimeSource")]),
     ("delegate", record "SdkDelegate" [("region", quoted s.region)])])

end Session

end AwsCredentials
