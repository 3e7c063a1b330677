import AwsCredentials.Arn
import AwsCredentials.Retry
import AwsCredentials.Service

/-!
# Identities and accounts

`RetryPolicy.validate` asks who the owner of some credentials is. `RetryPolicy.findAccount` looks
for the account and the partition: in the ARN of that owner, in the ARN of the user, in that of a
role of the account, and in the ARN that came with the credentials. The first ARN with an account
number decides. Without one the account stays empty and the partition is that of the region.
-/

namespace AwsCredentials

/-- An account and its partition. The account is empty when it is not known. -/
structure Account where
  id : String
  partition : String
  deriving DecidableEq, Repr, Inhabited

/-- The account of an ARN, if it has an account number. -/
def Account.ofArn? (arn : String) : Option Account := do
  let arn ← Arn.parse? arn
  let id ← arn.account?
  return ⟨id, arn.partition⟩

open Text Shown in
def Account.shown (a : Account) : String :=
  record "ResolvedIdentity" [("account_id", quoted a.id), ("partition", quoted a.partition)]

/-- What is known of an account; `incomplete` says why the number is missing. -/
structure AccountLookup where
  account : Account
  incomplete : Option Error
  deriving DecidableEq, Repr

namespace ApiError

/-- The codes of a caller that is no user, or that may not read itself. -/
def notUserCodes : List String :=
  ["AccessDenied", "AccessDeniedException", "InvalidClientTokenId", "ValidationError"]

/-- Whether a failed look at the user only says that the caller is no user. -/
def saysNotUser (e : ApiError) : Bool :=
  e.codeIn notUserCodes
    || Text.contains e.message "Must specify userName when calling with non-User credentials"

end ApiError

namespace RetryPolicy

/-- Asks who the owner of some credentials is. -/
def validate (retry : RetryPolicy) (c : Credentials) : ServiceAttempt CallerIdentity := do
  Attempt.note (.info .identity "Validating credentials with STS GetCallerIdentity")
  match ← Attempt.ofTask (retry.perform (Services.getCallerIdentity c)) with
  | .error e => throw (.validation e)
  | .ok caller =>
    Attempt.note (.debug .identity ("Caller identity: " ++ caller.arn))
    return caller

/-- The account of the user, and the failed call if it failed. -/
def accountOfUser (retry : RetryPolicy) (c : Credentials) :
    ServiceTask (Option Account × List ApiError) := do
  Task.note (.debug .identity "Trying to get account information via iam:GetUser")
  match ← retry.perform (Services.getUser c) with
  | .ok arn =>
    match Account.ofArn? arn with
    | some account => return (some account, [])
    | none =>
      Task.note (.debug .identity ("iam:GetUser returned unparseable ARN " ++ Text.quoted arn))
      return (none, [])
  | .error e =>
    if e.saysNotUser then
      Task.note (.debug .identity ("Ignoring iam:GetUser error: " ++ e.text))
    else
      Task.note (.warn .identity ("Getting account information via iam:GetUser failed: " ++ e.text))
    return (none, [e])

/-- The account of the first role, and the failed call if it failed. -/
def accountOfRoles (retry : RetryPolicy) (c : Credentials) :
    ServiceTask (Option Account × List ApiError) := do
  Task.note (.debug .identity "Trying to get account information via iam:ListRoles")
  match ← retry.perform (Services.listRoles c 1) with
  | .ok arns => return (arns.head?.bind Account.ofArn?, [])
  | .error e =>
    Task.note (.warn .identity ("Getting account information via iam:ListRoles failed: " ++ e.text))
    return (none, [e])

/-- The account of the user or else of the first role, and the failed calls. -/
def askForAccount (retry : RetryPolicy) (c : Credentials) :
    ServiceTask (Option Account × List ApiError) := do
  match ← retry.accountOfUser c with
  | (some account, errors) => return (some account, errors)
  | (none, errors) =>
    let (account, more) ← retry.accountOfRoles c
    if account.isNone then
      Task.note (.debug .identity "IAM account lookup found nothing")
    return (account, errors ++ more)

/-- Reports an account that was found. -/
def found (account : Account) : ServiceTask AccountLookup := do
  Task.note (.debug .identity
    ("Resolved account " ++ account.id ++ " in partition " ++ account.partition))
  return ⟨account, none⟩

/-- The account of the ARN that came with some credentials, or none in the partition of a region.
`errors` holds the failed calls of the lookups before; without any lookup nothing is missing. -/
def accountOfPrincipal (c : Credentials) (region : String) (errors : Option (List ApiError)) :
    ServiceTask AccountLookup := do
  match c.principalArn.bind Account.ofArn? with
  | some account => found account
  | none =>
    let account := ⟨"", Partition.ofRegion region⟩
    match errors with
    | none =>
      Task.note (.debug .identity "Account lookup skipped, account id left empty")
      return ⟨account, none⟩
    | some errors =>
      let error := Error.account errors
      Task.note (.warn .identity error.message)
      return ⟨account, some error⟩

/-- Looks for the account of some credentials. With `skip` only what is known already is used. -/
def findAccount (retry : RetryPolicy) (c : Credentials) (region : String)
    (caller : Option CallerIdentity) (skip : Bool) : ServiceTask AccountLookup := do
  match caller.bind fun caller => Account.ofArn? caller.arn with
  | some account => found account
  | none =>
    if skip then accountOfPrincipal c region none
    else
      match ← retry.askForAccount c with
      | (some account, _) => found account
      | (none, errors) => accountOfPrincipal c region (some errors)

end RetryPolicy

end AwsCredentials
