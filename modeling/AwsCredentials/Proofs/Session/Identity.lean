import AwsCredentials.Session
import AwsCredentials.Proofs.Retry.Calls

/-!
# The owner and the account

What can be seen when the owner of some credentials is asked for (`makes_validate`) and when their
account is looked for (`makes_findAccount`): one request at a time, each made until it is answered.
-/

namespace AwsCredentials

open AwsCredentials.Task (Makes)

namespace Answered

/-- The question who the owner of some credentials is, with its answer. -/
def getCallerIdentity (signer : Credentials) (answer : Except ApiError CallerIdentity) :
    Answered Services :=
  ⟨ServiceCall.getCallerIdentity signer, answer⟩

/-- The question for the ARN of the user, with its answer. -/
def getUser (signer : Credentials) (answer : Except ApiError String) : Answered Services :=
  ⟨ServiceCall.getUser signer, answer⟩

/-- The question for the ARN of a role, with its answer. -/
def listRoles (signer : Credentials) (answer : Except ApiError (List String)) :
    Answered Services :=
  ⟨ServiceCall.listRoles signer 1, answer⟩

end Answered

variable {s : Settings} {retry : RetryPolicy} {c : Credentials} {cs : List (Answered Services)}

/-! ## The owner -/

/-- What the last answer to the question for the owner comes to. -/
def ownerResult : Except ApiError CallerIdentity → Except Error (Option CallerIdentity)
  | .ok caller => .ok (some caller)
  | .error e => .error (.validation e)

/-- The owner is asked for unless the settings say not to. -/
theorem Session.makes_validate {r : Except Error (Option CallerIdentity)}
    (h : Makes (validate s retry c).run cs r) :
    if s.skipValidation then cs = [] ∧ r = .ok none
    else ∃ answer, Tried (Answered.getCallerIdentity c) cs answer ∧ r = ownerResult answer := by
  unfold validate at h
  split at h
  · next hskip =>
    rw [Attempt.makes_note_bind_iff] at h
    rw [if_pos hskip]
    exact Attempt.makes_pure_iff.1 h
  · next hskip =>
    rw [RetryPolicy.validate, bind_assoc, Attempt.makes_note_bind_iff, bind_assoc] at h
    rw [if_neg hskip]
    refine RetryPolicy.makes_performed (fun cs r => Task.makes_call_done_iff.1)
      (fun answer cs r hr => ?_) h
    cases answer with
    | ok caller =>
      simp only [bind_assoc, pure_bind, Attempt.makes_note_bind_iff] at hr
      exact Attempt.makes_pure_iff.1 hr
    | error e => exact Attempt.makes_throw_iff.1 hr

/-! ## The account -/

namespace RetryPolicy

variable {calls : Services.Op → Prop} {files : Path → Prop}

theorem within_found (account : Account) : (found account).Within calls files := trivial

theorem within_accountOfPrincipal (c : Credentials) (region : String)
    (errors : Option (List ApiError)) : (accountOfPrincipal c region errors).Within calls files := by
  unfold accountOfPrincipal
  split
  · exact within_found _
  · cases errors <;> trivial

theorem makes_accountOfUser {r : Option Account × List ApiError}
    (h : Makes (retry.accountOfUser c) cs r) :
    ∃ answer, Tried (Answered.getUser c) cs answer := by
  replace h : Makes ((retry.perform (Services.getUser c)).bind _) cs r := Task.makes_log_iff.1 h
  obtain ⟨answer, h⟩ := h.of_bind fun answer => by
    cases answer with
    | ok arn =>
      dsimp only
      cases Account.ofArn? arn <;> trivial
    | error e =>
      dsimp only
      split <;> trivial
  exact ⟨answer, makes_perform (fun cs r => Task.makes_call_done_iff.1) h⟩

theorem makes_accountOfRoles {r : Option Account × List ApiError}
    (h : Makes (retry.accountOfRoles c) cs r) :
    ∃ answer, Tried (Answered.listRoles c) cs answer := by
  replace h : Makes ((retry.perform (Services.listRoles c 1)).bind _) cs r :=
    Task.makes_log_iff.1 h
  obtain ⟨answer, h⟩ := h.of_bind fun answer => by cases answer <;> trivial
  exact ⟨answer, makes_perform (fun cs r => Task.makes_call_done_iff.1) h⟩

/-- The user is asked for, and then a role unless the user tells the account. -/
theorem makes_askForAccount {r : Option Account × List ApiError}
    (h : Makes (retry.askForAccount c) cs r) :
    ∃ users lists, cs = users ++ lists ∧ (∃ answer, Tried (Answered.getUser c) users answer) ∧
      (lists = [] ∨ ∃ answer, Tried (Answered.listRoles c) lists answer) := by
  obtain ⟨users, ⟨account, errors⟩, lists, h₁, h₂, rfl⟩ := Task.makes_bind_iff.1 h
  refine ⟨users, lists, rfl, makes_accountOfUser h₁, ?_⟩
  cases account with
  | some account => exact .inl (Task.makes_done_iff.1 h₂).1
  | none =>
    obtain ⟨⟨account, more⟩, h⟩ := Task.Makes.of_bind h₂ fun r => by
      obtain ⟨account, more⟩ := r
      cases account <;> trivial
    exact .inr (makes_accountOfRoles h)

/-- The calls by which the account is looked for. -/
theorem makes_findAccount {region : String} {caller : Option CallerIdentity} {skip : Bool}
    {lookup : AccountLookup} (h : Makes (retry.findAccount c region caller skip) cs lookup) :
    ∃ users lists, cs = users ++ lists ∧
      (users = [] ∨ ∃ answer, Tried (Answered.getUser c) users answer) ∧
      (lists = [] ∨ ∃ answer, Tried (Answered.listRoles c) lists answer) := by
  unfold findAccount at h
  split at h
  · exact ⟨[], [], h.eq_nil (within_found _), .inl rfl, .inl rfl⟩
  split at h
  · exact ⟨[], [], h.eq_nil (within_accountOfPrincipal _ _ _), .inl rfl,
      .inl rfl⟩
  obtain ⟨⟨account, errors⟩, h⟩ := Task.Makes.of_bind h fun r => by
    obtain ⟨account, errors⟩ := r
    cases account with
    | some account => exact within_found account
    | none => exact within_accountOfPrincipal _ _ _
  obtain ⟨users, lists, rfl, husers, hlists⟩ := makes_askForAccount h
  exact ⟨users, lists, rfl, .inr husers, hlists⟩

end RetryPolicy

end AwsCredentials
