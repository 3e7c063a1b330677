import AwsCredentials.Http.Endpoint
import AwsCredentials.Http.Exchange
import AwsCredentials.Http.Form
import AwsCredentials.Service
import AwsCredentials.Wire.Schema

/-!
# Calls over HTTP

A `WireCall` is a call of a service as it goes over the network: the form that is sent, and how the
response is read. A response that is not understood is a failed call without a code of its own; one
that is understood, but lacks what was asked for, is a failed call of another kind.
-/

namespace AwsCredentials

/-- A call of a service as it goes over the network. -/
structure WireCall (α : Type) where
  operation : String
  service : AwsService
  /-- The version of the service. -/
  version : String
  /-- The credentials that the request is signed with. -/
  signer : Option Credentials
  fields : Form
  /-- What the result holds. -/
  schema : Schema
  /-- Reads the result, or says what it lacks. -/
  read : Xml.Element → Except String α
  /-- Whether the operation has errors of its own. An error without a code is then not understood.
  -/
  namesErrors : Bool := true

namespace Form

/-- A field that may be absent. -/
def optional (name : String) (value : Option String) : Form :=
  value.toList.map fun v => (name, v)

/-- The numbered fields of some items. Without an item there is one empty field. -/
def numbered {α : Type} (name : String) (parts : α → Form) (items : List α) : Form :=
  if items.isEmpty then [(name, "")]
  else items.zipIdx.flatMap fun item =>
    (parts item.1).map fun part =>
      (name ++ ".member." ++ toString (item.2 + 1) ++ part.1, part.2)

/-- The numbered fields of items that may be absent. -/
def optionalItems {α : Type} (name : String) (parts : α → Form) (items : Option (List α)) : Form :=
  (items.map (numbered name parts)).getD []

end Form

/-- The fields of a request for a role. -/
def RoleRequest.fields (r : RoleRequest) : Form :=
  [("RoleArn", r.roleArn), ("RoleSessionName", r.sessionName)]
    ++ Form.optionalItems "PolicyArns" (fun arn => [(".arn", arn)]) r.policyArns
    ++ Form.optional "Policy" r.policy
    ++ [("DurationSeconds", toString r.durationSeconds)]
    ++ Form.optionalItems "Tags" (fun tag => [(".Key", tag.1), (".Value", tag.2)]) r.tags
    ++ Form.optionalItems "TransitiveTagKeys" (fun key => [("", key)]) r.transitiveTagKeys
    ++ Form.optional "ExternalId" r.externalId
    ++ Form.optional "SourceIdentity" r.sourceIdentity

/-- The fields of a request for a role with a web identity token. -/
def WebRoleRequest.fields (r : WebRoleRequest) : Form :=
  [("RoleArn", r.roleArn), ("RoleSessionName", r.sessionName), ("WebIdentityToken", r.token)]
    ++ Form.optionalItems "PolicyArns" (fun arn => [(".arn", arn)]) r.policyArns
    ++ Form.optional "Policy" r.policy
    ++ [("DurationSeconds", toString r.durationSeconds)]

namespace Schema

/-- A record of texts. -/
def texts (names : List String) : Schema := .record (names.map fun name => (name, .text))

def credentials : Schema :=
  .record [("AccessKeyId", .text), ("SecretAccessKey", .text), ("SessionToken", .text),
    ("Expiration", .timestamp)]

def roleUser : Schema := texts ["AssumedRoleId", "Arn"]

def assumedRole : Schema :=
  .record [("Credentials", credentials), ("AssumedRoleUser", roleUser),
    ("PackedPolicySize", .integer), ("SourceIdentity", .text)]

def assumedWebRole : Schema :=
  .record [("Credentials", credentials), ("SubjectFromWebIdentityToken", .text),
    ("AssumedRoleUser", roleUser), ("PackedPolicySize", .integer), ("Provider", .text),
    ("Audience", .text), ("SourceIdentity", .text)]

def callerIdentity : Schema := texts ["UserId", "Account", "Arn"]

def boundary : Schema := texts ["PermissionsBoundaryType", "PermissionsBoundaryArn"]

def tags : Schema := .list (texts ["Key", "Value"])

def user : Schema :=
  .record [("Path", .text), ("UserName", .text), ("UserId", .text), ("Arn", .text),
    ("CreateDate", .timestamp), ("PasswordLastUsed", .timestamp), ("PermissionsBoundary", boundary),
    ("Tags", tags)]

def role : Schema :=
  .record [("Path", .text), ("RoleName", .text), ("RoleId", .text), ("Arn", .text),
    ("CreateDate", .timestamp), ("AssumeRolePolicyDocument", .text), ("Description", .text),
    ("MaxSessionDuration", .integer), ("PermissionsBoundary", boundary), ("Tags", tags),
    ("RoleLastUsed", .record [("LastUsedDate", .timestamp), ("Region", .text)])]

def roles : Schema :=
  .record [("Roles", .list role), ("IsTruncated", .flag), ("Marker", .text)]

end Schema

/-- The credentials in the result of a call for a role. Parts that are missing are empty. -/
def IssuedCredentials.ofResult (result : Xml.Element) : Except String IssuedCredentials :=
  match result.field? "Credentials" with
  | none => .error "AWS STS returned no credentials"
  | some c => .ok {
      accessKeyId := c.fieldText "AccessKeyId"
      secretAccessKey := c.fieldText "SecretAccessKey"
      sessionToken := c.fieldText "SessionToken"
      expiration := ((c.field? "Expiration").bind Xml.Element.timestamp?).getD (.ofSeconds 0 0)
      assumedRoleArn := (result.field? "AssumedRoleUser").map fun user => user.fieldText "Arn" }

namespace WireCall

/-- The version of the token service. -/
def stsVersion : String := "2011-06-15"

/-- The version of the identity service. -/
def iamVersion : String := "2010-05-08"

def assumeRole (signer : Credentials) (request : RoleRequest) : WireCall IssuedCredentials where
  operation := "AssumeRole"
  service := .sts
  version := stsVersion
  signer := some signer
  fields := request.fields
  schema := .assumedRole
  read := IssuedCredentials.ofResult

/-- The token is the only proof that this call needs. -/
def assumeRoleWithWebIdentity (request : WebRoleRequest) : WireCall IssuedCredentials where
  operation := "AssumeRoleWithWebIdentity"
  service := .sts
  version := stsVersion
  signer := none
  fields := request.fields
  schema := .assumedWebRole
  read := IssuedCredentials.ofResult

def getCallerIdentity (signer : Credentials) : WireCall CallerIdentity where
  operation := "GetCallerIdentity"
  service := .sts
  version := stsVersion
  signer := some signer
  fields := []
  schema := .callerIdentity
  read result :=
    .ok ⟨result.fieldText "Account", result.fieldText "Arn", result.fieldText "UserId"⟩
  namesErrors := false

/-- A user that the result lacks is one with empty parts. -/
def getUser (signer : Credentials) : WireCall String where
  operation := "GetUser"
  service := .iam
  version := iamVersion
  signer := some signer
  fields := []
  schema := .record [("User", .user)]
  read result := .ok (((result.field? "User").map fun user => user.fieldText "Arn").getD "")

def listRoles (signer : Credentials) (maxItems : Int) : WireCall (List String) where
  operation := "ListRoles"
  service := .iam
  version := iamVersion
  signer := some signer
  fields := [("MaxItems", toString maxItems)]
  schema := .roles
  read result :=
    .ok (((result.field? "Roles").map Xml.Element.members).getD [] |>.map (·.fieldText "Arn"))

variable {α : Type}

/-- The form that is sent. -/
def form (call : WireCall α) : Form :=
  [("Action", call.operation), ("Version", call.version)] ++ call.fields

/-- The request for a call. -/
def request (call : WireCall α) (endpoint : Endpoint) : HttpRequest where
  method := "POST"
  origin := endpoint.address.origin
  path := endpoint.address.rootPath
  headers := ("content-type", "application/x-www-form-urlencoded")
    :: ((call.signer.bind (·.sessionToken)).toList.map fun t => ("x-amz-security-token", t))
  body := .text call.form.text
  signing := call.signer.map fun c => ⟨c.accessKeyId, endpoint.region, call.service.name⟩

/-- A failed call without a response that was understood. -/
def failure (call : WireCall α) (kind : ApiErrorKind) (message : String) : ApiError :=
  ⟨call.operation, kind, none, message, none⟩

/-- What is said of a response that carries no message of its own. -/
def describe (r : HttpResponse) : String :=
  "unexpected response (HTTP " ++ toString r.status ++ "): " ++ match r.body with
    | .text s => s
    | .binary size => toString size ++ " bytes"

/-- The failed call that a response tells of. -/
def refusal (call : WireCall α) (r : HttpResponse) (code message : Option String) : ApiError :=
  ⟨call.operation, .service, some (code.getD "Unknown"), message.getD (describe r), some r.status⟩

/-- The failed call of a response with an error status. -/
def readError (call : WireCall α) (r : HttpResponse) : ApiError :=
  match r.body.text?.bind ErrorDocument.read? with
  | some document =>
    if document.code.isNone && call.namesErrors then call.refusal r none none
    else call.refusal r document.code document.message
  | none => call.refusal r none none

/-- Reads a response. -/
def readResponse (call : WireCall α) (r : HttpResponse) : Except ApiError α :=
  if !r.isSuccess then .error (call.readError r)
  else
    match r.body.text?.bind (call.schema.result? call.operation) with
    | none => .error (call.refusal r none none)
    | some result =>
      match call.read result with
      | .ok a => .ok a
      | .error message => .error (call.failure .response message)

/-- Reads what came back. -/
def readExchange (call : WireCall α) : Exchange → Except ApiError α
  | .response r => call.readResponse r
  | .broken _ _ => .error (call.failure .dispatch "the connection broke before the response ended")
  | .timedOut reason => .error (call.failure .timeout ("request has timed out: " ++ reason))
  | .failed reason => .error (call.failure .dispatch ("dispatch failure: " ++ reason))

/-- Makes a call with the endpoints of some settings. -/
def perform (call : WireCall α) (settings : Settings) : Task Http (Except ApiError α) :=
  match settings.endpoint call.service with
  | .error e => return .error (call.failure e.kind e.message)
  | .ok endpoint => do
    return call.readExchange (← (call.request endpoint).exchange settings.traceHttp)

end WireCall

end AwsCredentials
