import AwsCredentials.Environment
import AwsCredentials.Time.Duration

/-!
# Configuration

What a caller may ask for. A role is described by a `RoleSpec`, or by a `WebRoleSpec` where a web
identity token takes the place of credentials. Whatever a `Config` leaves open is settled elsewhere.
-/

namespace AwsCredentials

/-- A role to assume with credentials. -/
structure RoleSpec where
  arn : String
  sessionName : Option String := none
  externalId : Option String := none
  /-- A session policy document. -/
  policy : Option String := none
  policyArns : List String := []
  /-- The session tags in the order of their keys. -/
  tags : List (String × String) := []
  transitiveTagKeys : List String := []
  sourceIdentity : Option String := none
  duration : Option Duration := none
  deriving DecidableEq, Repr, Inhabited

/-- A role to assume with a web identity token. -/
structure WebRoleSpec where
  arn : String
  sessionName : Option String := none
  token : Option String := none
  /-- The file that holds the token. Its path may hold placeholders. -/
  tokenFile : Option Path := none
  policy : Option String := none
  policyArns : List String := []
  duration : Option Duration := none
  deriving DecidableEq, Repr, Inhabited

/-- What a caller asks for. -/
structure Config where
  accessKey : Option String := none
  secretKey : Option String := none
  token : Option String := none
  profile : Option String := none
  region : Option String := none
  configFiles : List Path := []
  credentialsFiles : List Path := []
  /-- The roles to assume one after another, each with the credentials of the one before. -/
  roles : List RoleSpec := []
  webRole : Option WebRoleSpec := none
  skipValidation : Bool := false
  skipAccountLookup : Bool := false
  maxAttempts : Option Nat := none
  stsEndpoint : Option String := none
  iamEndpoint : Option String := none
  useFips : Option Bool := none
  useDualStack : Option Bool := none
  traceHttp : Bool := false
  deriving DecidableEq, Repr, Inhabited

/-- Refuses a role without an ARN. -/
def checkRoleArn (arn : String) : Except Error Unit :=
  if Text.blank arn then .error (.role arn "role ARN must not be empty" none) else .ok ()

/-- Refuses a role without an ARN. -/
def RoleSpec.check (spec : RoleSpec) : Except Error Unit :=
  checkRoleArn spec.arn

/-- Refuses a role without an ARN. -/
def WebRoleSpec.check (spec : WebRoleSpec) : Except Error Unit :=
  checkRoleArn spec.arn

open Text Shown

/-- The fields of a role. -/
def RoleSpec.shown (spec : RoleSpec) : String :=
  record "AssumeRoleSpec"
    [("role_arn", quoted spec.arn), ("session_name", option quoted spec.sessionName),
     ("external_id", option quoted spec.externalId), ("policy", option quoted spec.policy),
     ("policy_arns", list quoted spec.policyArns), ("tags", entries quoted spec.tags),
     ("transitive_tag_keys", list quoted spec.transitiveTagKeys),
     ("source_identity", option quoted spec.sourceIdentity),
     ("duration", option Duration.text spec.duration)]

/-- The fields of a role without its token. -/
def WebRoleSpec.shown (spec : WebRoleSpec) : String :=
  record "AssumeRoleWithWebIdentitySpec"
    [("role_arn", quoted spec.arn), ("session_name", option quoted spec.sessionName),
     ("web_identity_token", secret spec.token),
     ("web_identity_token_file", option quoted spec.tokenFile),
     ("policy", option quoted spec.policy), ("policy_arns", list quoted spec.policyArns),
     ("duration", option Duration.text spec.duration)]

/-- The fields of a configuration without its secrets. -/
def Config.shown (config : Config) : String :=
  record "Config"
    [("access_key", option quoted config.accessKey), ("secret_key", secret config.secretKey),
     ("token", secret config.token), ("profile", option quoted config.profile),
     ("region", option quoted config.region),
     ("shared_config_files", list quoted config.configFiles),
     ("shared_credentials_files", list quoted config.credentialsFiles),
     ("assume_role", list RoleSpec.shown config.roles),
     ("assume_role_with_web_identity", option WebRoleSpec.shown config.webRole),
     ("skip_credentials_validation", flag config.skipValidation),
     ("skip_requesting_account_id", flag config.skipAccountLookup),
     ("max_attempts", option toString config.maxAttempts),
     ("sts_endpoint", option quoted config.stsEndpoint),
     ("iam_endpoint", option quoted config.iamEndpoint),
     ("use_fips_endpoint", option flag config.useFips),
     ("use_dual_stack_endpoint", option flag config.useDualStack),
     ("trace_http", flag config.traceHttp)]

end AwsCredentials
