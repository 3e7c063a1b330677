import AwsCredentials.Task
import AwsCredentials.Text.Ascii

/-!
# Retrying failed calls

A failed call is made again while its budget lasts. The budget depends on how it failed: an error
that another attempt would not change has none, an unreachable network has two attempts, and what
may pass has all that the policy allows. Between two attempts lies a wait that doubles up to a
limit. `RetryPolicy.execute` makes a call in this way and keeps a record of the failures.
-/

namespace AwsCredentials

/-- What a failure means for the next attempt. -/
inductive Classification where
  /-- Another attempt would fail alike. -/
  | terminal
  /-- The network could not be reached. -/
  | network
  /-- The failure may pass. -/
  | transient
  deriving DecidableEq, Repr

namespace Classification

/-- Whether another attempt may follow. -/
def isRetryable : Classification → Bool
  | .terminal => false
  | _ => true

def shown : Classification → String
  | .terminal => "Terminal"
  | .network => "NetworkRetryable"
  | .transient => "Retryable"

end Classification

namespace ApiError

/-- The codes of a session that is over. -/
def expiredCodes : List String :=
  ["ExpiredToken", "ExpiredTokenException", "RequestExpired"]

/-- The codes of a service that is asked too often. -/
def throttlingCodes : List String :=
  ["Throttling", "ThrottlingException", "ThrottledException", "RequestThrottledException",
   "TooManyRequestsException", "ProvisionedThroughputExceededException",
   "TransactionInProgressException", "RequestLimitExceeded", "BandwidthLimitExceeded",
   "LimitExceededException", "RequestThrottled", "SlowDown", "PriorRequestNotComplete",
   "EC2ThrottledException"]

/-- The codes of a service that is in trouble. -/
def troubleCodes : List String :=
  ["RequestTimeout", "RequestTimeoutException", "InternalError", "InternalFailure",
   "ServiceUnavailable", "IDPCommunicationError"]

/-- The phrases of a session that is over. -/
def expiredPhrases : List String :=
  ["security token included in the request is expired", "token has expired"]

/-- The phrases of an unreachable network. -/
def networkPhrases : List String :=
  ["dns error", "failed to lookup address", "name or service not known", "nodename nor servname",
   "no such host", "connection refused"]

/-- Whether the code of a failed call is one of some codes. -/
def codeIn (e : ApiError) (codes : List String) : Bool :=
  e.code.any codes.contains

/-- Whether the message of a failed call holds one of some phrases, whatever the case of their
letters. -/
def mentions (e : ApiError) (phrases : List String) : Bool :=
  phrases.any (Text.contains (Text.asciiLower e.message))

/-- Whether the session of a failed call is over. -/
def isExpired (e : ApiError) : Bool :=
  e.codeIn expiredCodes || e.mentions expiredPhrases

/-- Whether a failed call did not reach the network. -/
def isUnreachable (e : ApiError) : Bool :=
  e.kind = .dispatch && e.mentions networkPhrases

/-- Whether a failure may pass: nothing came back, or the service says that it is overloaded or in
trouble. -/
def mayPass (e : ApiError) : Bool :=
  match e.kind with
  | .dispatch | .timeout => true
  | .response | .construction => false
  | .service =>
    e.status.any (fun s => 500 ≤ s || s = 429) || e.codeIn throttlingCodes || e.codeIn troubleCodes

/-- What a failed call means for the next attempt. The first rule that applies decides. -/
def classify (e : ApiError) : Classification :=
  if e.isExpired then .terminal
  else if e.isUnreachable then .network
  else if e.mayPass then .transient
  else .terminal

end ApiError

/-- One failed attempt. -/
structure Failure where
  error : ApiError
  retryable : Bool
  /-- Whether another attempt followed. -/
  retried : Bool
  deriving DecidableEq, Repr

/-- The result of a call and its failed attempts in their order. -/
structure Attempted (α : Type) where
  result : Except ApiError α
  failures : List Failure

namespace Attempted

variable {α : Type}

/-- How often the call was made. -/
def attemptCount (a : Attempted α) : Nat :=
  match a.result with
  | .ok _ => a.failures.length + 1
  | .error _ => a.failures.length

/-- The event that tells the history of a call with failed attempts. -/
def history? (a : Attempted α) : Option Log.Event :=
  a.failures.getLast?.map fun last => .debug .retry <|
    last.error.operation ++ " made " ++ toString a.attemptCount ++ " attempt(s), "
      ++ toString a.failures.length ++ " failed: "
      ++ ", ".intercalate (a.failures.map fun f => f.error.label)

end Attempted

/-- How often and at what distance a call is made. -/
structure RetryPolicy where
  maxAttempts : Nat
  /-- The wait after the first attempt. -/
  initial : Duration
  /-- The longest wait. -/
  limit : Duration
  one_le_maxAttempts : 1 ≤ maxAttempts
  deriving DecidableEq, Repr

namespace RetryPolicy

/-- The attempts that an unreachable network is given. -/
def networkAttempts : Nat := 2

/-- A policy with a number of attempts. At least one attempt is made. -/
def ofAttempts (n : Nat) : RetryPolicy :=
  ⟨max n 1, Duration.ofMillis 500, Duration.ofSeconds 20, Nat.le_max_right n 1⟩

/-- A policy with other waits. The limit is at least the first wait. -/
def withBackoff (p : RetryPolicy) (initial limit : Duration) : RetryPolicy :=
  { p with initial, limit := max limit initial }

/-- How often a call may be made that fails in some way. -/
def budget (p : RetryPolicy) : Classification → Nat
  | .terminal => 1
  | .network => min networkAttempts p.maxAttempts
  | .transient => p.maxAttempts

theorem budget_le (p : RetryPolicy) (c : Classification) : p.budget c ≤ p.maxAttempts := by
  cases c with
  | terminal => exact p.one_le_maxAttempts
  | network => exact Nat.min_le_right _ _
  | transient => exact Nat.le_refl _

/-- How many times the first wait the wait after the `n`th attempt is: a power of two, or the largest
number of 32 bits once the power is larger. -/
def factor (n : Nat) : Nat :=
  if n ≤ 32 then Nat.pow 2 (n - 1) else Text.max32

/-- The wait after the `n`th attempt. A product beyond the longest duration counts as the limit. -/
def backoff (p : RetryPolicy) (n : Nat) : Duration :=
  let product : Duration := ⟨p.initial.nanos * factor n⟩
  if product ≤ Duration.longest then min product p.limit else p.limit

variable {I : Interface} {α : Type}

/-- The event that announces another attempt. -/
def retrying (p : RetryPolicy) (n : Nat) (e : ApiError) : Log.Event :=
  ⟨.debug, .retry, "Retrying after error: " ++ e.text,
    [("operation", .text e.operation), ("attempt", .number n),
     ("classification", .words e.classify.shown), ("delay", .words (p.backoff n).text)]⟩

/-- The event of a call that failed for good, if more than one attempt was made. -/
def gaveUp? (n : Nat) (e : ApiError) : Option Log.Event :=
  if 1 < n then
    some (.warn .retry (e.operation ++ " failed after " ++ toString n ++ " attempts: " ++ e.text))
  else none

/-- Ends after some failures with another one, which no attempt follows. -/
def giveUp (failures : List Failure) (e : ApiError) : Task I (Attempted α) := do
  (gaveUp? (failures.length + 1) e).forM Task.note
  return ⟨.error e, failures ++ [⟨e, e.classify.isRetryable, false⟩]⟩

/-- Makes a call after some failures, and again while the budget lasts. At most `left` attempts
follow the one that is made now. -/
def attempt (p : RetryPolicy) (call : Task I (Except ApiError α)) :
    Nat → List Failure → Task I (Attempted α)
  | left, failures => do
    match ← call with
    | .ok a => return ⟨.ok a, failures⟩
    | .error e =>
      match left with
      | 0 => giveUp failures e
      | left + 1 =>
        if failures.length + 1 < p.budget e.classify then
          Task.note (p.retrying (failures.length + 1) e)
          Task.sleep (p.backoff (failures.length + 1))
          p.attempt call left (failures ++ [⟨e, e.classify.isRetryable, true⟩])
        else
          giveUp failures e

/-- Makes a call until it succeeds or its budget is spent. -/
def execute (p : RetryPolicy) (call : Task I (Except ApiError α)) : Task I (Attempted α) :=
  p.attempt call (p.maxAttempts - 1) []

/-- The result of a call that is made again as the policy says. The history of a call with failed
attempts is reported. -/
def perform (p : RetryPolicy) (call : Task I (Except ApiError α)) :
    Task I (Except ApiError α) := do
  let attempted ← p.execute call
  attempted.history?.forM Task.note
  return attempted.result

open Text Shown in
/-- The numbers of a policy. -/
def shown (p : RetryPolicy) : String :=
  record "RetryPolicy"
    [("max_attempts", toString p.maxAttempts), ("network_max_attempts", toString networkAttempts),
     ("initial_backoff", p.initial.text), ("max_backoff", p.limit.text)]

end RetryPolicy

end AwsCredentials
