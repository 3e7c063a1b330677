import AwsCredentials.Config
import AwsCredentials.Service
import AwsCredentials.SharedFiles
import AwsCredentials.Text.Numeral

/-!
# Profiles that build on one another

A profile may hold a key pair, or a role to assume and where the credentials for that come from:
another profile, the environment, an outside source, or a web identity token. `Profile.step` reads
what a single profile says, and `SharedFiles.plan` follows the source profiles to the end of their
chain. The plan holds the first credentials and the roles to assume with them, innermost first.
-/

namespace AwsCredentials

/-- Where a chain of profiles gets its first credentials. -/
inductive ProfileBase where
  | keys (c : Credentials)
  /-- The environment; `profile` says so. -/
  | environment (profile : String)
  /-- An outside source; `profile` says so. -/
  | outside (profile : String) (source : OutsideSource)
  | webIdentity (spec : WebRoleSpec)
  /-- Nothing: the profile has no credential settings. -/
  | nothing
  deriving DecidableEq, Repr

/-- What a single profile says. -/
inductive ProfileStep where
  /-- The chain ends here, possibly with a role to assume. -/
  | ends (base : ProfileBase) (role : Option RoleSpec)
  /-- The chain goes on with another profile, whose credentials assume a role. -/
  | follows (source : String) (role : RoleSpec)
  deriving DecidableEq, Repr

/-- The first credentials of a chain of profiles, and the roles to assume with them in order. -/
structure ProfilePlan where
  base : ProfileBase
  roles : List RoleSpec
  deriving DecidableEq, Repr

namespace Profile

/-- The key pair of a profile, of which no half may be missing. -/
def keys? (p : Profile) : Except Error (Option Credentials) :=
  match p.get? "aws_access_key_id", p.get? "aws_secret_access_key" with
  | some accessKey, some secretKey =>
    .ok (some (.longLived accessKey secretKey (p.get? "aws_session_token") .sharedProfile))
  | none, none => .ok none
  | _, _ =>
    .error (.profile p.name "aws_access_key_id and aws_secret_access_key must be set together")

/-- The session length that a profile asks for. -/
def duration? (p : Profile) : Except Error (Option Duration) :=
  match p.get? "duration_seconds" with
  | none => .ok none
  | some text =>
    match Text.readNat Text.max64 text with
    | some n => .ok (some (Duration.ofSeconds n))
    | none => .error (.profile p.name ("invalid duration_seconds " ++ Text.quoted text))

/-- The role of a profile. -/
def role (p : Profile) (arn : String) : Except Error RoleSpec :=
  p.duration?.map fun duration =>
    { arn, sessionName := p.get? "role_session_name", externalId := p.get? "external_id", duration }

/-- The role of a profile that a web identity token proves. -/
def webRole (p : Profile) (arn : String) (tokenFile : Path) : Except Error WebRoleSpec :=
  p.duration?.map fun duration =>
    { arn, sessionName := p.get? "role_session_name", tokenFile := some tokenFile, duration }

/-- The base that a word for it stands for. -/
def baseNamed (p : Profile) (word : String) : Except Error ProfileBase :=
  match word with
  | "Environment" => .ok (.environment p.name)
  | "Ec2InstanceMetadata" => .ok (.outside p.name .instanceMetadata)
  | "EcsContainer" => .ok (.outside p.name .container)
  | _ => .error (.profile p.name ("unsupported credential_source " ++ Text.quoted word))

/-- What a profile without a role says. A profile that others build on must have keys. -/
def stepWithoutRole (p : Profile) (isSource : Bool) : Except Error ProfileStep := do
  if (p.get? "source_profile").isSome || (p.get? "credential_source").isSome then
    throw (.profile p.name "source_profile and credential_source require role_arn")
  if (p.get? "web_identity_token_file").isSome then
    throw (.profile p.name "web_identity_token_file requires role_arn")
  match ← p.keys? with
  | some c => return .ends (.keys c) none
  | none =>
    if isSource then throw (.profile p.name "source profile has no credentials")
    else return .ends .nothing none

/-- What a profile with a role says. A profile may name itself, to assume its role with its own
keys. -/
def stepWithRole (p : Profile) (arn : String) : Except Error ProfileStep := do
  match p.get? "source_profile", p.get? "credential_source", p.get? "web_identity_token_file" with
  | none, none, some tokenFile => return .ends (.webIdentity (← p.webRole arn tokenFile)) none
  | none, some word, none =>
    let role ← p.role arn
    return .ends (← p.baseNamed word) (some role)
  | some source, none, none =>
    let role ← p.role arn
    if source = p.name then
      match ← p.keys? with
      | some c => return .ends (.keys c) (some role)
      | none =>
        throw (.profile p.name "profile is its own source_profile but has no credentials")
    else return .follows source role
  | none, none, none =>
    let _ ← p.role arn
    throw (.profile p.name
      "role_arn requires source_profile, credential_source or web_identity_token_file")
  | _, _, _ =>
    throw (.profile p.name
      "only one of source_profile, credential_source and web_identity_token_file may be set")

/-- What a profile says. -/
def step (p : Profile) (isSource : Bool) : Except Error ProfileStep :=
  match p.get? "role_arn" with
  | some arn => p.stepWithRole arn
  | none => p.stepWithoutRole isSource

end Profile

namespace SharedFiles

/-- The most profiles that a chain may have. -/
def longestChain : Nat := 16

/-- The plan of the profile `current`, which the profiles `visited` led to from the profile `start`.
At most `left` profiles more may be visited. -/
def follow (files : SharedFiles) (start : String) :
    Nat → List String → String → Except Error ProfilePlan
  | left, visited, current =>
    if visited.contains current then
      .error (.profile start
        ("source_profile cycle: " ++ " -> ".intercalate (visited ++ [current])))
    else
      match left, files.profile? current with
      | 0, _ =>
        .error (.profile start
          ("source_profile chain longer than " ++ toString longestChain ++ " profiles"))
      | _ + 1, none => .error (.unknownProfile current files.paths)
      | left + 1, some p => do
        match ← p.step (current ≠ start) with
        | .ends base role => return ⟨base, role.toList⟩
        | .follows source role =>
          let plan ← files.follow start left (visited ++ [current]) source
          return ⟨plan.base, plan.roles ++ [role]⟩

/-- The plan of a profile. -/
def plan (files : SharedFiles) (name : String) : Except Error ProfilePlan :=
  files.follow name longestChain [] name

end SharedFiles

end AwsCredentials
