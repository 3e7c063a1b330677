import AwsCredentials.Proofs.Chain.Precedence
import AwsCredentials.Proofs.Error.Early
import AwsCredentials.Proofs.Roles.Turns

/-!
# The base and the roles

The plan of a profile holds roles of its own, which are assumed before those of the configuration.
Seen from outside, credentials are fetched in two parts: the base is asked for, which is the plan's
where the profile decides, and then all roles are assumed one after another (`quiet_fetch`).

`BaseCalls` lists what can be seen of the base: no call, one exchange of a token, or one question to
an outside source (`makes_base`).
-/

namespace AwsCredentials

open AwsCredentials.Task (Makes)
open Attempt (silent_ofTask silent_ofExcept)

namespace Answered

/-- The question to an outside source with its answer. -/
def outside (source : OutsideSource) (answer : Except Error (Option Credentials)) :
    Answered Services :=
  ⟨ServiceCall.outside source, answer⟩

end Answered

/-- What the answer of an outside source comes to. -/
def outsideResult (detail : Option String) :
    Except Error (Option Credentials) → Except Error Credentials
  | .ok (some c) => .ok c
  | .ok none => .error (.noSources detail)
  | .error e => .error e

namespace Settings

variable (s : Settings) (retry : RetryPolicy)

/-- The plan of the active profile, if that decides. -/
def planned? : Option ProfilePlan :=
  match s.deciding, s.profilePlan? with
  | .profile, some (.ok plan) => some plan
  | _, _ => none

/-- The roles that are assumed, in their order: those of the plan and those of the configuration. -/
def chainRoles : List RoleSpec := s.planned?.elim [] ProfilePlan.roles ++ s.roles

/-- The credentials that are offered. There must be some. -/
def offered (detail : Option String) : Option Credentials → ServiceAttempt Credentials
  | some c => return c
  | none => throw (.noSources detail)

@[simp] theorem offered_some (detail : Option String) (c : Credentials) :
    offered detail (some c) = pure c := rfl

/-- The credentials that the first of these roles is assumed with. -/
def base : ServiceAttempt Credentials :=
  match s.planned? with
  | some plan => s.evaluateBase retry plan.base >>= offered none
  | none => s.baseCredentials retry

/-- What can be seen when the base is asked for: the calls, all of the deciding source, and the
result. -/
inductive BaseCalls (s : Settings) : List (Answered Services) → Except Error Credentials → Prop
  | silent {r : Except Error Credentials} : Early r → s.BaseCalls [] r
  | exchanged {request : WebRoleRequest} {cs : List (Answered Services)}
    {answer : Except ApiError IssuedCredentials} :
    s.deciding.Calls (ServiceCall.assumeRoleWithWebIdentity request) →
    Tried (Answered.assumeRoleWithWebIdentity request) cs answer →
    s.BaseCalls cs
      (roleResult request.roleArn "AssumeRoleWithWebIdentity" .assumeRoleWithWebIdentity answer)
  | asked {source : OutsideSource} {answer : Except Error (Option Credentials)}
    {detail : Option String} :
    s.deciding.Calls (ServiceCall.outside source) →
    s.BaseCalls [Answered.outside source answer] (outsideResult detail answer)

variable {s retry}

/-! ## Base and roles -/

theorem of_deciding_profile (h : s.deciding = .profile) :
    s.webRole = none ∧ s.staticKeys = none ∧ s.environment.keys? = none := by
  rcases s.decides with ⟨spec, hw⟩ | ⟨hw, keys, hs⟩ | ⟨hw, hs, c, he⟩ | hnone
  · rw [deciding_of_webRole hw] at h; cases h
  · rw [deciding_of_staticKeys hw hs] at h; cases h
  · rw [deciding_of_keys hw hs he] at h; cases h
  · exact hnone

theorem of_planned? {plan : ProfilePlan} (h : s.planned? = some plan) :
    s.deciding = .profile ∧ s.profilePlan? = some (.ok plan) := by
  unfold planned? at h
  split at h
  · next hd hp => exact ⟨hd, by rw [hp, Option.some.inj h]⟩
  · cases h

theorem planned?_eq_some {plan : ProfilePlan} (hd : s.deciding = .profile)
    (hp : s.profilePlan? = some (.ok plan)) : s.planned? = some plan := by
  rw [planned?, hd, hp]

variable (s retry)

/-- Credentials are fetched by asking for the base and assuming all roles with it. -/
theorem quiet_fetch : (s.fetch retry).run.quiet =
    (s.base retry >>= fun c => retry.assumeRoles c s.chainRoles).run.quiet := by
  cases hplan : s.planned? with
  | none => simp only [fetch, base, chainRoles, hplan, Option.elim, List.nil_append]
  | some plan =>
    obtain ⟨hd, hp⟩ := of_planned? hplan
    obtain ⟨hw, hs, he⟩ := of_deciding_profile hd
    simp only [fetch, base, chainRoles, hplan, Option.elim, Attempt.quiet_bind,
      quiet_of_no_keys retry hw hs he, quiet_evaluateProfile, hp, evaluatePlan,
      Attempt.bind_after_assoc]
    -- a plan has a base to offer or fails, so the sources below the profile are not asked
    have hbase := s.gives_evaluateBase retry (s.plan_of_profilePlan? hp).2
    refine (Task.gives_quiet_iff.2 hbase).bind_congr fun r hr => ?_
    cases r with
    | error e => rfl
    | ok c =>
      cases c with
      | none => exact absurd rfl hr
      | some c =>
        simp only [offered_some, Attempt.after_ok, Attempt.quiet_bind, Attempt.quiet_pure, Task.bind,
          Attempt.bind_after_assoc, RetryPolicy.assumeRoles, List.foldlM_append]

/-! ## What the base comes to -/

variable {s retry} {cs : List (Answered Services)} {r : Except Error Credentials}

theorem makes_exchange {spec : WebRoleSpec}
    (hcalls : ∀ request, s.deciding.Calls (ServiceCall.assumeRoleWithWebIdentity request))
    (h : Makes (spec.findToken s.environment >>= retry.assumeRoleWithWebIdentity spec).run cs r) :
    s.BaseCalls cs r := by
  obtain ⟨token, h⟩ | ⟨rfl, he⟩ := (spec.silent_findToken s.environment).makes_bind h
  · obtain ⟨now, e, he, rfl, rfl⟩ | ⟨request, answer, harn, htried, rfl⟩ :=
      RetryPolicy.makes_assumeRoleWithWebIdentity h
    · exact .silent (early_error (spec.early_request token now e he))
    · rw [← harn]
      exact .exchanged (hcalls request) htried
  · exact .silent he

theorem makes_outside {source : OutsideSource} {detail : Option String}
    (hcalls : s.deciding.Calls (ServiceCall.outside source))
    (h : Makes (Services.outside source >>= offered detail).run cs r) : s.BaseCalls cs r := by
  have result {answer : Except Error (Option Credentials)} (hr : r = outsideResult detail answer) :
      s.BaseCalls [Answered.outside source answer] r := hr ▸ .asked hcalls
  obtain ⟨cs₁, c, cs₂, h₁, h₂, rfl⟩ | ⟨e, h₁, rfl⟩ := Attempt.makes_bind_iff.1 h
  · obtain rfl := Task.makes_call_done_iff.1 h₁
    cases c with
    | some c =>
      obtain ⟨rfl, hr⟩ := Attempt.makes_pure_iff.1 h₂
      exact result hr
    | none =>
      obtain ⟨rfl, hr⟩ := Attempt.makes_throw_iff.1 h₂
      exact result hr
  · obtain rfl := Task.makes_call_done_iff.1 h₁
    exact result rfl

/-- The credentials of the base of a plan. -/
theorem makes_ofPlan {b : ProfileBase} (hd : s.deciding = .profile) (hbase : b ≠ .nothing)
    (hnarrow : b.Narrow)
    (h : Makes (s.evaluateBase retry b >>= offered none).run cs r) : s.BaseCalls cs r := by
  cases b with
  | nothing => exact absurd rfl hbase
  | keys c =>
    obtain ⟨rfl, rfl⟩ := Attempt.makes_pure_iff.1 h
    exact .silent (early_ok c)
  | environment profile =>
    have within : (s.environment.findKeys : ServiceTask _).Within (fun _ => False) fun _ => True := by
      rw [← Task.within_quiet_iff, quiet_findKeys]
      trivial
    rw [evaluateBase, bind_assoc] at h
    obtain ⟨c, h⟩ | ⟨rfl, he⟩ := (silent_ofTask within).makes_bind h
    · cases c with
      | some c =>
        obtain ⟨rfl, rfl⟩ := Attempt.makes_pure_iff.1 h
        exact .silent (early_ok c)
      | none =>
        obtain ⟨rfl, rfl⟩ := Attempt.makes_throw_iff.1 h
        exact .silent (early_error rfl)
    · exact .silent he
  | outside profile source =>
    -- the error of the plan itself comes first, so what is said of nothing offered is the inner one
    have flat : s.evaluateBase retry (.outside profile source) >>= offered none =
        Services.outside source >>= offered (some ("credential_source " ++ source.name
          ++ " of profile " ++ Text.quoted profile ++ " provided no credentials")) := by
      rw [evaluateBase, bind_assoc]
      congr 1
      funext c
      cases c <;> rfl
    rw [flat] at h
    exact makes_outside (by rw [hd]; exact hnarrow) h
  | webIdentity spec =>
    simp only [evaluateBase, bind_assoc, pure_bind, offered_some, bind_pure] at h
    exact makes_exchange (fun request => by rw [hd]; trivial) h

theorem early_of_profilePlan? {plan : Except Error ProfilePlan} (h : s.profilePlan? = some plan) :
    Early plan := by
  unfold profilePlan? at h
  split at h
  · split at h
    · cases h
    · rw [← Option.some.inj h]
      exact s.sharedFiles.early_plan s.profileName
  · cases h

/-- What is seen of the base is one of the three. -/
theorem makes_base (h : Makes (s.base retry).run cs r) : s.BaseCalls cs r := by
  cases hplan : s.planned? with
  | some plan =>
    obtain ⟨hd, hp⟩ := of_planned? hplan
    obtain ⟨hplan', hbase⟩ := s.plan_of_profilePlan? hp
    simp only [base, hplan] at h
    exact makes_ofPlan hd hbase (SharedFiles.narrow_of_plan hplan') h
  | none =>
    simp only [base, hplan] at h
    rcases s.decides with ⟨spec, hw⟩ | ⟨hw, keys, hs⟩ | ⟨hw, hs, c, he⟩ | ⟨hw, hs, he⟩
    · rw [Task.makes_iff_of_quiet (quiet_of_webRole retry hw)] at h
      obtain ⟨-, h⟩ | ⟨rfl, he⟩ := (silent_ofExcept (early_checkRoleArn _)).makes_bind h
      · exact makes_exchange (fun request => by rw [deciding_of_webRole hw]; trivial) h
      · exact .silent he
    · obtain ⟨rfl, rfl⟩ := (Task.makes_iff_of_quiet_done (quiet_of_staticKeys retry hw hs)).1 h
      exact .silent (early_ok _)
    · obtain ⟨rfl, rfl⟩ := (Task.makes_iff_of_quiet_done (quiet_of_keys retry hw hs he)).1 h
      exact .silent (early_ok c)
    · cases hp : s.profilePlan? with
      | none =>
        rw [Task.makes_iff_of_quiet (quiet_of_nothing retry hw hs he hp)] at h
        exact makes_outside (by rw [deciding_of_nothing hw hs he hp]; rfl) h
      | some plan =>
        have hd := deciding_of_profile hw hs he hp
        cases plan with
        | ok plan => rw [planned?_eq_some hd hp] at hplan; cases hplan
        | error e =>
          have hquiet : (s.baseCredentials retry).run.quiet = .done (.error e) := by
            rw [quiet_of_no_keys retry hw hs he, quiet_evaluateProfile, hp]
            rfl
          obtain ⟨rfl, rfl⟩ := (Task.makes_iff_of_quiet_done hquiet).1 h
          exact .silent (early_error (early_of_profilePlan? hp e rfl))

/-! ## What follows of the calls -/

namespace BaseCalls

/-- The calls belong to the deciding source, and no role is assumed by them. -/
theorem of_deciding (h : s.BaseCalls cs r) : ∀ c ∈ cs, s.deciding.Calls c.op ∧
    ∀ signer request, c.op ≠ ServiceCall.assumeRole signer request := by
  cases h with
  | silent => simp
  | exchanged hcalls htried => exact htried.forall_mem fun _ => ⟨hcalls, fun _ _ h => by cases h⟩
  | asked hcalls => exact List.forall_mem_singleton.2 ⟨hcalls, fun _ _ h => by cases h⟩

/-- They are one call, which may be made several times. -/
theorem same_op (h : s.BaseCalls cs r) : ∀ c ∈ cs, ∀ c' ∈ cs, c.op = c'.op := by
  cases h with
  | silent => simp
  | @exchanged request cs answer hcalls htried =>
    have hop : ∀ c ∈ cs, c.op = ServiceCall.assumeRoleWithWebIdentity request :=
      htried.forall_mem fun _ => rfl
    exact fun c hc c' hc' => (hop c hc).trans (hop c' hc').symm
  | asked => simp

/-- An error is found without a call, or it is the answer of an outside source, or calls were made in
vain. -/
theorem error_cases {e : Error} (h : s.BaseCalls cs (.error e)) :
    (cs = [] ∧ e.isConfiguration = true) ∨
    (∃ source, Answered.outside source (.error e) ∈ cs) ∨
    (cs ≠ [] ∧ e.isConfiguration = false ∧ e.kind ≠ .accountLookup) := by
  generalize hr : (.error e : Except Error Credentials) = r at h
  cases h with
  | silent he => exact .inl ⟨rfl, he e hr.symm⟩
  | @exchanged request cs answer hcalls htried =>
    cases answer with
    | ok issued => cases hr
    | error call => cases hr; exact .inr (.inr ⟨htried.ne_nil, rfl, nofun⟩)
  | @asked source answer detail =>
    cases answer with
    | error e' => cases hr; exact .inr (.inl ⟨source, List.mem_singleton_self _⟩)
    | ok c =>
      cases c with
      | some c => cases hr
      | none => cases hr; exact .inr (.inr ⟨List.cons_ne_nil _ _, rfl, nofun⟩)

end BaseCalls

end Settings

end AwsCredentials
