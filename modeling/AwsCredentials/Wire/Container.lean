import AwsCredentials.Credentials
import AwsCredentials.Environment
import AwsCredentials.Http.Address
import AwsCredentials.Http.Exchange
import AwsCredentials.Json.Reader

/-!
# The credentials of a container

A container hands out credentials at an address that the environment names. Only an address that
cannot leave the machine, or one that is asked over TLS, is trusted. The answer is a JSON object
with the keys, the token and the expiry, all of which must be there.
-/

namespace AwsCredentials

/-- Where a container hands out credentials. -/
inductive Container where
  /-- The environment names no address. -/
  | unset
  /-- The environment names an address that cannot be used. -/
  | unusable (address : String)
  | at (address : Address)
  deriving DecidableEq, Repr, Inhabited

namespace Container

/-- The host that a path without a host belongs to. -/
def localHost : String := "http://169.254.170.2"

/-- The number that the characters stand for, if they are one of the four numbers of an address. -/
def octet? (cs : List Char) : Option Nat :=
  if cs.isEmpty || 3 < cs.length || !cs.all Char.isDigit || (1 < cs.length && cs.head? == some '0')
  then none
  else
    let n := Text.digitsValue cs
    if n < 256 then some n else none

/-- The four numbers of an address, if the characters are one. -/
def octets? (cs : List Char) : Option (List Nat) :=
  let parts := Text.splitAt '.' cs
  if parts.length = 4 then parts.mapM octet? else none

/-- The name in a host, without a user and a port. -/
def hostName (host : List Char) : List Char :=
  let host := ((Text.splitAt '@' host).getLast?).getD []
  match host with
  | '[' :: rest => '[' :: rest.takeWhile (· != ']') ++ [']']
  | _ => host.takeWhile (· != ':')

/-- Whether a host is on this machine, or is one of those that serve the containers on it. -/
def isLocal (host : String) : Bool :=
  let name := hostName host.toList
  match octets? name with
  | some octets =>
    octets.head? == some 127 || octets == [169, 254, 170, 2] || octets == [169, 254, 170, 23]
  | none => ["localhost", "[::1]", "[fd00:ec2::23]"].contains (String.ofList name)

/-- The container at an address that is written out, if the address can be used. -/
def ofAddress (text : String) : Container :=
  match Address.parse? text with
  | none => .unusable text
  | some a => if a.scheme == "https" || isLocal a.host then .at a else .unusable text

/-- The container that some environment variables name. A path goes before a full address. -/
def ofVariables (bindings : List (String × String)) : Container :=
  match bindings.lookup "AWS_CONTAINER_CREDENTIALS_RELATIVE_URI" with
  | some path => ofAddress (localHost ++ path)
  | none =>
    match bindings.lookup "AWS_CONTAINER_CREDENTIALS_FULL_URI" with
    | some address => ofAddress address
    | none => .unset

/-- The request for credentials. -/
def request (address : Address) : HttpRequest where
  method := "GET"
  origin := address.origin
  path := address.path
  headers := [("accept", "application/json")]
  body := .text ""
  signing := none

/-- The text of the last member with a name, whatever the case of its letters. -/
def text? (members : List (String × Json)) (name : String) : Option String :=
  (members.filterMap fun member =>
    match member.2 with
    | .string s => if Text.sameIgnoringCase member.1 name then some s else none
    | _ => none).getLast?

/-- The point in time that a text ending in `Z` stands for. -/
def expiration? (s : String) : Option Instant :=
  if s.toList.getLast? = some 'Z' then Instant.ofTimestamp? s else none

/-- Reads the credentials in the answer of a container. An answer may carry a code, which must be
that of success. -/
def readCredentials (document : String) : Except String Credentials := do
  let some (.object members) := Json.read? document | throw "the answer is no JSON object"
  let required := fun (name : String) =>
    match text? members name with
    | some s => Except.ok s
    | none => .error ("the answer has no " ++ name)
  match text? members "Code" with
  | none | some "Success" => pure ()
  | some code =>
    throw ("failed to load credentials [" ++ code ++ "]: "
      ++ (text? members "Message").getD "no message")
  let accessKeyId ← required "AccessKeyId"
  let secretAccessKey ← required "SecretAccessKey"
  let sessionToken ← required "Token"
  let some expiration := expiration? (← required "Expiration")
    | throw "the answer has no valid Expiration"
  return {
    accessKeyId, secretAccessKey, sessionToken := some sessionToken, expiration := some expiration
    origin := .defaultChain, principalArn := none }

/-- Reads what came back from a container. -/
def readExchange : Exchange → Except String Credentials
  | .response r =>
    if !r.isSuccess then .error ("the status is " ++ toString r.status)
    else
      match r.body with
      | .text s => readCredentials s
      | .binary _ => .error "the answer is no text"
  | .broken _ _ => .error "the connection broke"
  | .timedOut reason | .failed reason => .error reason

end Container

end AwsCredentials
