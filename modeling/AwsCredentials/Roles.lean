import AwsCredentials.Config
import AwsCredentials.Retry
import AwsCredentials.Service

/-!
# Assuming roles

`RoleSpec.request` and `WebRoleSpec.request` turn the description of a role into a request: blank
and empty parts are left out, a missing session name is made from the time, and a duration that is
unset or zero is an hour. `RetryPolicy.assumeRole` makes the request as often as the policy allows;
what is left of a failure is an error that names the role and holds the failed call.
-/

namespace AwsCredentials

/-- A part of a request, which is left out if it is blank. -/
def keepNonBlank (value : Option String) : Option String :=
  value.filter fun s => !Text.blank s

/-- A part of a request, which is left out if it is empty. -/
def keepNonEmpty {α : Type} (values : List α) : Option (List α) :=
  if values.isEmpty then none else some values

/-- The session name that is asked for, or one that tells the time in milliseconds. -/
def chosenSessionName (given : Option String) (now : Instant) : String :=
  match given.bind Text.nonBlank with
  | some name => name
  | none => "awsbase-" ++ toString now.millis

/-- The length of a session if none is asked for. -/
def defaultSession : Duration := Duration.ofSeconds 3600

/-- The longest session that can be asked for, in seconds: a number of 31 bits. -/
def longestSession : Nat := 2147483647

/-- The length of a session in whole seconds. -/
def sessionSeconds (arn : String) (given : Option Duration) : Except Error Nat :=
  let duration := (given.filter (· ≠ Duration.zero)).getD defaultSession
  if duration.seconds ≤ longestSession then .ok duration.seconds
  else .error (.role arn ("session duration " ++ duration.text ++ " is out of range") none)

/-- The request for a role. -/
def RoleSpec.request (spec : RoleSpec) (now : Instant) : Except Error RoleRequest := do
  spec.check
  let durationSeconds ← sessionSeconds spec.arn spec.duration
  return {
    roleArn := spec.arn
    sessionName := chosenSessionName spec.sessionName now
    externalId := keepNonBlank spec.externalId
    policy := keepNonBlank spec.policy
    policyArns := keepNonEmpty spec.policyArns
    tags := keepNonEmpty spec.tags
    transitiveTagKeys := keepNonEmpty spec.transitiveTagKeys
    sourceIdentity := keepNonBlank spec.sourceIdentity
    durationSeconds }

/-- The request for a role with a web identity token. -/
def WebRoleSpec.request (spec : WebRoleSpec) (token : String) (now : Instant) :
    Except Error WebRoleRequest := do
  spec.check
  let durationSeconds ← sessionSeconds spec.arn spec.duration
  return {
    roleArn := spec.arn
    sessionName := chosenSessionName spec.sessionName now
    token
    policy := keepNonBlank spec.policy
    policyArns := keepNonEmpty spec.policyArns
    durationSeconds }

namespace RetryPolicy

/-- Makes a call for a role. What is left of a failure names the role and the call. -/
def perform? (retry : RetryPolicy) (arn call : String)
    (task : ServiceTask (Except ApiError IssuedCredentials)) :
    ServiceAttempt IssuedCredentials := do
  match ← Attempt.ofTask (retry.perform task) with
  | .ok issued => return issued
  | .error e => throw (.role arn (call ++ " call failed") (some e))

/-- Assumes a role with credentials. -/
def assumeRole (retry : RetryPolicy) (base : Credentials) (spec : RoleSpec) :
    ServiceAttempt Credentials := do
  let request ← Attempt.ofExcept (spec.request (← Attempt.ofTask Task.now))
  Attempt.note (.info .roles "Calling AWS STS AssumeRole")
  Attempt.note (.debug .roles ("Role ARN: " ++ request.roleArn))
  Attempt.note (.debug .roles ("Session name: " ++ request.sessionName))
  Attempt.note (.debug .roles ("Base credentials origin: " ++ base.origin.name))
  let issued ← retry.perform? request.roleArn "AssumeRole" (Services.assumeRole base request)
  Attempt.note (.info .roles ("Successfully assumed role " ++ request.roleArn))
  return issued.credentials .assumeRole

/-- Assumes roles one after another, each with the credentials of the one before. -/
def assumeRoles (retry : RetryPolicy) (base : Credentials) (specs : List RoleSpec) :
    ServiceAttempt Credentials :=
  specs.foldlM retry.assumeRole base

/-- Assumes a role with a web identity token. -/
def assumeRoleWithWebIdentity (retry : RetryPolicy) (spec : WebRoleSpec) (token : String) :
    ServiceAttempt Credentials := do
  let request ← Attempt.ofExcept (spec.request token (← Attempt.ofTask Task.now))
  Attempt.note (.info .roles "Calling AWS STS AssumeRoleWithWebIdentity")
  Attempt.note (.debug .roles ("Role ARN: " ++ request.roleArn))
  Attempt.note (.debug .roles ("Session name: " ++ request.sessionName))
  let issued ← retry.perform? request.roleArn "AssumeRoleWithWebIdentity"
    (Services.assumeRoleWithWebIdentity request)
  Attempt.note (.info .roles
    ("Successfully assumed role " ++ request.roleArn ++ " with web identity"))
  return issued.credentials .assumeRoleWithWebIdentity

end RetryPolicy

end AwsCredentials
