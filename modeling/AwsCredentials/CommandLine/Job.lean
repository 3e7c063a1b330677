import AwsCredentials.CommandLine.Completion
import AwsCredentials.Wire.Client

/-!
# What a command line leads to

A command prints a text that is known beforehand, or it resolves a session and prints something
about it. `Arguments.job` finds out which; `Job.carryOut` does it. What is printed ends with a line
break, and a failure is told in one text.
-/

namespace AwsCredentials

/-- Prints who a session belongs to, after a warning if its account was not found. -/
def Session.tellOwner (s : Session) (format : WhoamiFormat) : HttpTask String := do
  s.accountError.forM fun e => Task.note (.warn .whoami e.message)
  return (WhoamiReport.ofSession s).render format ++ "\n"

/-- Prints the credentials of a session, which are fetched again if they have expired. -/
def Session.tellCredentials (s : Session) (container : Container) (format : CredentialsFormat) :
    HttpTask (Except String String) := do
  match ← (s.client container).carryOut s.credentials with
  | (_, some (.ok c)) =>
    match c.render s.region format with
    | .ok text => return .ok (text ++ "\n")
    | .error e => return .error e.report
  | (_, some (.error e)) => return .error ("Failed to read resolved credentials: " ++ e.report)
  | (_, none) => return .error "Failed to read resolved credentials"

namespace CommandLine

/-- A command that resolves a session and prints something about it. -/
structure SessionJob where
  /-- The time that resolving may take. -/
  timeout : Option Duration
  resolve : HttpAttempt Session
  tell : Session → HttpTask (Except String String)

/-- What a failed resolution is reported as. -/
def SessionJob.failure (e : Error) : String := "Failed to resolve AWS credentials: " ++ e.report

/-- What a command line leads to. -/
inductive Job where
  | print (text : String)
  | session (job : SessionJob)

/-- Resolves the session that some options describe. -/
def resolve (config : Config) (env : Environment) (container : Container) :
    HttpAttempt Session := do
  Attempt.note (.debug .commandLine ("Resolving session with " ++ config.shown))
  Session.resolveOverHttp config env none container

/-- Resolves the session that the options describe and prints something about it. It fails if the
options do not fit together. -/
def Arguments.sessionJob (a : Arguments) (env : Environment)
    (tell : Container → Session → HttpTask (Except String String)) : Except String Job :=
  let container := Container.ofVariables env.bindings
  a.config.map fun config => .session
    { timeout := a.timeout?.map Duration.ofSeconds
      resolve := resolve config env container
      tell := tell container }

/-- What a command line leads to. Without a command it prints the owner, and a completion script
needs no options. -/
def Arguments.job (a : Arguments) (env : Environment) : Except String Job :=
  match a.command with
  | some (.completions shell) => .ok (.print shell.script)
  | some (.credentials format) =>
    a.sessionJob env fun container s => s.tellCredentials container format
  | some (.whoami format) => a.sessionJob env fun _ s => .ok <$> s.tellOwner format
  | none => a.sessionJob env fun _ s => .ok <$> s.tellOwner .text

variable {σ : Type}

/-- Resolves a session and prints something about it. -/
def SessionJob.carryOut (job : SessionJob) (host : Host Http σ) (w : World Http σ) :
    Option (Except String String) × World Http σ :=
  match job.resolve.runWithin host job.timeout w with
  | (some (.ok s), w) => (job.tell s).run host none w
  | (some (.error e), w) => (some (.error (SessionJob.failure e)), w)
  | (none, w) => (none, w)

/-- Carries out what a command line leads to. There is no result if an answer never comes. -/
def Arguments.carryOut (a : Arguments) (env : Environment) (host : Host Http σ) (w : World Http σ) :
    Option (Except String String) × World Http σ :=
  match a.job env with
  | .error message => (some (.error message), w)
  | .ok (.print text) => (some (.ok text), w)
  | .ok (.session job) => job.carryOut host w

end CommandLine

end AwsCredentials
