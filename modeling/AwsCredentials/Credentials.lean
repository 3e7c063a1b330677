import AwsCredentials.Text.Shown
import AwsCredentials.Time.Instant

/-!
# Credentials

A key pair, possibly with a session token and an expiry, and where it came from. The secret parts
are never shown.
-/

namespace AwsCredentials

/-- Where credentials came from. The origins from which a role was assumed come last. -/
inductive Origin where
  | static
  | environment
  | sharedProfile
  | defaultChain
  | assumeRole
  | assumeRoleWithWebIdentity
  deriving DecidableEq, Repr, Inhabited

namespace Origin

/-- The word for an origin in reports. -/
def name : Origin → String
  | .static => "static"
  | .environment => "environment"
  | .sharedProfile => "shared-profile"
  | .defaultChain => "default-chain"
  | .assumeRole => "assume-role"
  | .assumeRoleWithWebIdentity => "assume-role-with-web-identity"

/-- All origins in their order. -/
def all : List Origin :=
  [.static, .environment, .sharedProfile, .defaultChain, .assumeRole, .assumeRoleWithWebIdentity]

/-- The origin with a name. -/
def ofName? (name : String) : Option Origin :=
  all.find? fun o => o.name == name

/-- The place of an origin in their order. -/
def rank : Origin → Nat
  | .static => 0
  | .environment => 1
  | .sharedProfile => 2
  | .defaultChain => 3
  | .assumeRole => 4
  | .assumeRoleWithWebIdentity => 5

instance : Ord Origin := ⟨fun a b => compare a.rank b.rank⟩

/-- Whether the credentials were issued for a role. -/
def isRoleDerived : Origin → Bool
  | .assumeRole | .assumeRoleWithWebIdentity => true
  | _ => false

def shown : Origin → String
  | .static => "Static"
  | .environment => "Environment"
  | .sharedProfile => "SharedProfile"
  | .defaultChain => "DefaultChain"
  | .assumeRole => "AssumeRole"
  | .assumeRoleWithWebIdentity => "AssumeRoleWithWebIdentity"

end Origin

/-- A key pair and what is known of it. Credentials without an expiration never expire. -/
structure Credentials where
  accessKeyId : String
  secretAccessKey : String
  sessionToken : Option String
  expiration : Option Instant
  origin : Origin
  /-- The ARN of the principal, if the call that issued the credentials told it. -/
  principalArn : Option String
  deriving DecidableEq, Repr, Inhabited

namespace Credentials

/-- Credentials that do not expire. -/
def longLived (accessKeyId secretAccessKey : String) (sessionToken : Option String)
    (origin : Origin) : Credentials :=
  ⟨accessKeyId, secretAccessKey, sessionToken, none, origin, none⟩

/-- Whether the credentials expire at `now` or less than `buffer` later, or at its very end. -/
def expiredAt (c : Credentials) (now : Instant) (buffer : Duration) : Bool :=
  match c.expiration with
  | some expiration => expiration ≤ now.add buffer
  | none => false

/-- The credentials as another provider passes them on: the keys, the token and the expiry, under
the given origin. -/
def handedOver (c : Credentials) (origin : Origin) : Credentials :=
  { c with origin, principalArn := none }

open Text Shown in
/-- The credentials without their secrets. -/
def shown (c : Credentials) : String :=
  record "Credentials"
    [("access_key_id", quoted c.accessKeyId), ("secret_access_key", redacted),
     ("session_token", secret c.sessionToken), ("expiration", option Instant.text c.expiration),
     ("origin", c.origin.shown), ("principal_arn", option quoted c.principalArn)]

end Credentials

end AwsCredentials
