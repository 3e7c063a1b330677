import AwsCredentials.Task

/-!
# The services

The calls by which roles are assumed and identities are looked up, and the sources of credentials
that lie outside the configuration. Each call has answers of its own type.
-/

namespace AwsCredentials

/-- What is asked for when a role is assumed with credentials. A part that is absent is not sent. -/
structure RoleRequest where
  roleArn : String
  sessionName : String
  externalId : Option String
  policy : Option String
  policyArns : Option (List String)
  tags : Option (List (String × String))
  transitiveTagKeys : Option (List String)
  sourceIdentity : Option String
  durationSeconds : Int
  deriving DecidableEq, Repr, Inhabited

/-- What is asked for when a role is assumed with a web identity token. -/
structure WebRoleRequest where
  roleArn : String
  sessionName : String
  token : String
  policy : Option String
  policyArns : Option (List String)
  durationSeconds : Int
  deriving DecidableEq, Repr, Inhabited

/-- Credentials that were issued for a role. -/
structure IssuedCredentials where
  accessKeyId : String
  secretAccessKey : String
  sessionToken : String
  expiration : Instant
  assumedRoleArn : Option String
  deriving DecidableEq, Repr, Inhabited

/-- The credentials with the place that they came from. -/
def IssuedCredentials.credentials (issued : IssuedCredentials) (origin : Origin) : Credentials :=
  { accessKeyId := issued.accessKeyId, secretAccessKey := issued.secretAccessKey
    sessionToken := some issued.sessionToken, expiration := some issued.expiration
    origin, principalArn := issued.assumedRoleArn }

/-- Who the owner of some credentials is. -/
structure CallerIdentity where
  account : String
  arn : String
  userId : String
  deriving DecidableEq, Repr, Inhabited

/-- The sources of credentials that lie outside the configuration. -/
inductive OutsideSource where
  /-- All of them in their usual order. -/
  | defaultChain
  /-- The metadata of the machine. -/
  | instanceMetadata
  /-- The container that the program runs in. -/
  | container
  deriving DecidableEq, Repr

/-- The word for an outside source. -/
def OutsideSource.name : OutsideSource → String
  | .defaultChain => "default chain"
  | .instanceMetadata => "Ec2InstanceMetadata"
  | .container => "EcsContainer"

/-- A call of a service. The calls but one are signed with credentials: a web identity token is the
only proof that its call needs. -/
inductive ServiceCall where
  | assumeRole (signer : Credentials) (request : RoleRequest)
  | assumeRoleWithWebIdentity (request : WebRoleRequest)
  | getCallerIdentity (signer : Credentials)
  /-- Asks for the ARN of the user. -/
  | getUser (signer : Credentials)
  /-- Asks for the ARNs of roles of the account. -/
  | listRoles (signer : Credentials) (maxItems : Int)
  /-- Asks an outside source, which may have nothing to offer. -/
  | outside (source : OutsideSource)
  deriving DecidableEq, Repr

namespace ServiceCall

/-- What a call is answered with. -/
def Answer : ServiceCall → Type
  | assumeRole _ _ => Except ApiError IssuedCredentials
  | assumeRoleWithWebIdentity _ => Except ApiError IssuedCredentials
  | getCallerIdentity _ => Except ApiError CallerIdentity
  | getUser _ => Except ApiError String
  | listRoles _ _ => Except ApiError (List String)
  | outside _ => Except Error (Option Credentials)

/-- The name of a call. -/
def name : ServiceCall → String
  | assumeRole _ _ => "AssumeRole"
  | assumeRoleWithWebIdentity _ => "AssumeRoleWithWebIdentity"
  | getCallerIdentity _ => "GetCallerIdentity"
  | getUser _ => "GetUser"
  | listRoles _ _ => "ListRoles"
  | outside source => source.name

/-- The credentials that a call is signed with. -/
def signer? : ServiceCall → Option Credentials
  | assumeRole signer _ | getCallerIdentity signer | getUser signer | listRoles signer _ =>
    some signer
  | assumeRoleWithWebIdentity _ | outside _ => none

end ServiceCall

/-- The services. -/
def Services : Interface := ⟨ServiceCall, ServiceCall.Answer⟩

/-- A task that calls the services. -/
abbrev ServiceTask := Task Services

/-- A task that calls the services and may fail. -/
abbrev ServiceAttempt := Attempt Services

namespace Services

/-- Assumes a role with credentials. -/
def assumeRole (signer : Credentials) (request : RoleRequest) :
    ServiceTask (Except ApiError IssuedCredentials) :=
  Task.call (I := Services) (.assumeRole signer request) .done

/-- Assumes a role with a web identity token. -/
def assumeRoleWithWebIdentity (request : WebRoleRequest) :
    ServiceTask (Except ApiError IssuedCredentials) :=
  Task.call (I := Services) (.assumeRoleWithWebIdentity request) .done

/-- Asks who the owner of some credentials is. -/
def getCallerIdentity (signer : Credentials) : ServiceTask (Except ApiError CallerIdentity) :=
  Task.call (I := Services) (.getCallerIdentity signer) .done

/-- Asks for the ARN of the user. -/
def getUser (signer : Credentials) : ServiceTask (Except ApiError String) :=
  Task.call (I := Services) (.getUser signer) .done

/-- Asks for the ARNs of roles of the account. -/
def listRoles (signer : Credentials) (maxItems : Int) :
    ServiceTask (Except ApiError (List String)) :=
  Task.call (I := Services) (.listRoles signer maxItems) .done

/-- Asks an outside source. -/
def outside (source : OutsideSource) : ServiceAttempt (Option Credentials) :=
  ExceptT.mk (Task.call (I := Services) (.outside source) .done)

end Services

open Text Shown

/-- The fields of a request. -/
def RoleRequest.shown (r : RoleRequest) : String :=
  let pair := fun t : String × String => "(" ++ quoted t.1 ++ ", " ++ quoted t.2 ++ ")"
  record "AssumeRoleRequest"
    [("role_arn", quoted r.roleArn), ("role_session_name", quoted r.sessionName),
     ("external_id", option quoted r.externalId), ("policy", option quoted r.policy),
     ("policy_arns", option (list quoted) r.policyArns), ("tags", option (list pair) r.tags),
     ("transitive_tag_keys", option (list quoted) r.transitiveTagKeys),
     ("source_identity", option quoted r.sourceIdentity),
     ("duration_seconds", toString r.durationSeconds)]

/-- The fields of a request without its token. -/
def WebRoleRequest.shown (r : WebRoleRequest) : String :=
  record "AssumeRoleWithWebIdentityRequest"
    [("role_arn", quoted r.roleArn), ("role_session_name", quoted r.sessionName),
     ("web_identity_token", redacted), ("policy", option quoted r.policy),
     ("policy_arns", option (list quoted) r.policyArns),
     ("duration_seconds", toString r.durationSeconds)]

/-- The issued credentials without their secrets. -/
def IssuedCredentials.shown (issued : IssuedCredentials) : String :=
  partialRecord "IssuedCredentials"
    [("access_key_id", quoted issued.accessKeyId), ("expiration", issued.expiration.text),
     ("assumed_role_arn", option quoted issued.assumedRoleArn)]

def CallerIdentity.shown (c : CallerIdentity) : String :=
  record "CallerIdentity"
    [("account", quoted c.account), ("arn", quoted c.arn), ("user_id", quoted c.userId)]

end AwsCredentials
