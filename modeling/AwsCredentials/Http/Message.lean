import AwsCredentials.Time.Duration

/-!
# HTTP messages

The requests that are sent and the responses that come back. A body is text or, if its bytes are not
text, just a number of bytes.
-/

namespace AwsCredentials

/-- The content of a message. -/
inductive Body where
  | text (s : String)
  /-- Bytes that are no text. -/
  | binary (size : Nat)
  deriving DecidableEq, Repr, Inhabited

/-- The content as text, if it is one. -/
def Body.text? : Body → Option String
  | .text s => some s
  | .binary _ => none

/-- The headers of a message. -/
abbrev Headers := List (String × String)

/-- Who signs a request, and for what. -/
structure SigningScope where
  accessKeyId : String
  region : String
  service : String
  deriving DecidableEq, Repr, Inhabited

/-- A request. -/
structure HttpRequest where
  method : String
  /-- The scheme and the host that the request goes to. -/
  origin : String
  path : String
  headers : Headers
  body : Body
  /-- How the request is signed, if it is. -/
  signing : Option SigningScope
  deriving DecidableEq, Repr, Inhabited

namespace HttpRequest

/-- The full address of a request. -/
def uri (r : HttpRequest) : String := r.origin ++ r.path

/-- The first line of a request. -/
def line (r : HttpRequest) : String := r.method ++ " " ++ r.path ++ " HTTP/1.1"

/-- The value of a header. -/
def header? (r : HttpRequest) (name : String) : Option String := r.headers.lookup name

end HttpRequest

/-- A response. -/
structure HttpResponse where
  status : Nat
  headers : Headers
  body : Body
  deriving DecidableEq, Repr, Inhabited

/-- Whether the request succeeded. -/
def HttpResponse.isSuccess (r : HttpResponse) : Bool :=
  200 ≤ r.status && r.status < 300

end AwsCredentials
