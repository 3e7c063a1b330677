import AwsCredentials.Http.Traffic
import AwsCredentials.Task

/-!
# Exchanges

An exchange is a request and what comes back for it: a complete response, the start of one, or none
at all. `HttpRequest.exchange` sends a request and, if that is wanted, reports the traffic.
-/

namespace AwsCredentials

/-- How an exchange ends. -/
inductive Exchange where
  | response (r : HttpResponse)
  /-- The connection broke while the content of the response came. -/
  | broken (status : Nat) (headers : Headers)
  /-- No response came in time. -/
  | timedOut (reason : String)
  /-- The request could not be delivered. -/
  | failed (reason : String)
  deriving DecidableEq, Repr, Inhabited

/-- The network. -/
def Http : Interface := ⟨HttpRequest, fun _ => Exchange⟩

/-- What may be shown of a request. -/
def HttpRequest.shown (r : HttpRequest) : ShownRequest :=
  .ofParts r.method r.uri r.headers (some r.body)

/-- What may be shown of the response of an exchange, if there was one. -/
def Exchange.shown? (duration : Duration) : Exchange → Option ShownResponse
  | .response r => some (.ofParts r.status r.headers (some r.body) (some duration))
  | .broken status headers => some (.ofParts status headers none (some duration))
  | .timedOut _ | .failed _ => none

namespace HttpRequest

/-- Sends a request. -/
def send (r : HttpRequest) : Task Http Exchange :=
  Task.call (I := Http) r .done

/-- Sends a request and reports it and its response. -/
def sendTraced (r : HttpRequest) : Task Http Exchange := do
  Task.note r.shown.event
  let start ← Task.now
  let exchange ← r.send
  let duration : Duration := ⟨((← Task.now).nanos - start.nanos).toNat⟩
  (exchange.shown? duration).forM fun shown => Task.note shown.event
  return exchange

/-- Sends a request and reports the traffic if that is wanted. -/
def exchange (traced : Bool) (r : HttpRequest) : Task Http Exchange :=
  if traced then r.sendTraced else r.send

end HttpRequest

end AwsCredentials
