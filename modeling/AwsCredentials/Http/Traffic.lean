import AwsCredentials.Http.Message
import AwsCredentials.Log
import AwsCredentials.Redaction.Header
import AwsCredentials.Text.Numeral

/-!
# The log of the traffic

What is reported of a request and of a response: everything that may be shown, with the secrets
replaced, the identifiers masked, and the headers left out that may hold a secret in a form that is
not known.
-/

namespace AwsCredentials

/-- The content of a message as it is shown. -/
def Body.shown : Body → String
  | .text s => Redaction.redacted s
  | .binary size => "<" ++ toString size ++ " bytes of binary data>"

/-- Headers on one line. -/
def Headers.line (headers : Headers) : String :=
  "; ".intercalate (headers.map fun h => h.1 ++ ": " ++ h.2)

/-- A request as it is shown. -/
structure ShownRequest where
  method : String
  uri : String
  headers : Headers
  body : Option String
  deriving DecidableEq, Repr

namespace ShownRequest

/-- What may be shown of a request. -/
def ofParts (method uri : String) (headers : Headers) (body : Option Body) : ShownRequest :=
  ⟨method, Redaction.redacted uri, Redaction.headers headers, body.map Body.shown⟩

/-- The event of a request. -/
def event (r : ShownRequest) : Log.Event :=
  ⟨.debug, .traffic, "HTTP request sent",
    [("method", .words r.method), ("uri", .words r.uri), ("headers", .words r.headers.line),
     ("body", .text (r.body.getD ""))]⟩

end ShownRequest

/-- A response as it is shown. -/
structure ShownResponse where
  status : Nat
  headers : Headers
  body : Option String
  /-- How long it took to come. -/
  duration : Option Duration
  deriving DecidableEq, Repr

namespace ShownResponse

/-- What may be shown of a response. -/
def ofParts (status : Nat) (headers : Headers) (body : Option Body) (duration : Option Duration) :
    ShownResponse :=
  ⟨status, Redaction.headers headers, body.map Body.shown, duration⟩

/-- The event of a response. The milliseconds that it took are a number of 64 bits. -/
def event (r : ShownResponse) : Log.Event :=
  let duration := r.duration.toList.map fun d =>
    ("duration_ms", Log.Value.number (d.millis % (Text.max64 + 1)))
  ⟨.debug, .traffic, "HTTP response received",
    [("status", .number r.status)] ++ duration
      ++ [("headers", .words r.headers.line), ("body", .text (r.body.getD ""))]⟩

end ShownResponse

end AwsCredentials
