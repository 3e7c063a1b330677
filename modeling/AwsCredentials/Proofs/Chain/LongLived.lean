import AwsCredentials.Proofs.Chain.Precedence
import AwsCredentials.Proofs.Task.Calls

/-!
# Credentials that no call gave

Credentials that are fetched without a call were written down somewhere: in the configuration, in
the environment or in a profile. They never expire and belong to nobody in particular
(`Credentials.LongLived`).

* `Task.Uncalled`: what a task comes to without a call, which says nothing of it once it has made
  one;
* `uncalled_assumeRoles`: roles only keep such credentials if there are none to assume;
* `longLived_of_makes_fetch`: what is fetched without a call is long-lived, whatever the source.
-/

namespace AwsCredentials

open AwsCredentials.Task (Makes)

/-! ## Before the first call -/

variable {I : Interface} {α β : Type} {P : α → Prop} {Q : β → Prop}

namespace Task

/-- Whether all results are of some kind that a task comes to without a call. -/
def Uncalled (P : α → Prop) : Task I α → Prop
  | done a => P a
  | log _ next => next.Uncalled P
  | clock next => ∀ t, (next t).Uncalled P
  | wait _ next => next.Uncalled P
  | pause next => next.Uncalled P
  | read _ next => ∀ r, (next r).Uncalled P
  | call _ _ => True

theorem Uncalled.bind {t : Task I α} {f : α → Task I β} (ht : t.Uncalled P)
    (hf : ∀ a, P a → (f a).Uncalled Q) : (t.bind f).Uncalled Q := by
  induction t with
  | done a => exact hf a ht
  | log e next ih => exact ih ht
  | clock next ih => exact fun t => ih t (ht t)
  | wait d next ih => exact ih ht
  | pause next ih => exact ih ht
  | read path next ih => exact fun r => ih r (ht r)
  | call op next ih => trivial

theorem Uncalled.mono {P' : α → Prop} {t : Task I α} (ht : t.Uncalled P)
    (h : ∀ a, P a → P' a) : t.Uncalled P' := by
  have hbind : (t.bind done).Uncalled P' := ht.bind h
  rwa [bind_done] at hbind

theorem uncalled_trivial (t : Task I α) : t.Uncalled fun _ => True := by
  induction t with
  | done a => trivial
  | log e next ih => exact ih
  | clock next ih => exact ih
  | wait d next ih => exact ih
  | pause next ih => exact ih
  | read path next ih => exact ih
  | call op next ih => trivial

theorem Makes.of_uncalled {t : Task I α} {a : α} (h : Makes t [] a) (ht : t.Uncalled P) : P a := by
  induction t with
  | done b =>
    obtain ⟨-, rfl⟩ := makes_done_iff.1 h
    exact ht
  | log e next ih => exact ih (makes_log_iff.1 h) ht
  | clock next ih =>
    obtain ⟨t, h⟩ := makes_clock_iff.1 h
    exact ih t h (ht t)
  | wait d next ih => exact ih (makes_wait_iff.1 h) ht
  | pause next ih => exact ih (makes_pause_iff.1 h) ht
  | read path next ih =>
    obtain ⟨r, h⟩ := makes_read_iff.1 h
    exact ih r h (ht r)
  | call op next ih =>
    obtain ⟨r, cs, -, hcs⟩ := makes_call_iff.1 h
    cases hcs

end Task

namespace Attempt

/-- Whether all values are of some kind that an attempt comes to without a call. -/
def Uncalled (P : α → Prop) (x : Attempt I α) : Prop :=
  x.run.Uncalled fun r => ∀ a, r = .ok a → P a

theorem Uncalled.bind {x : Attempt I α} {f : α → Attempt I β} (hx : x.Uncalled P)
    (hf : ∀ a, P a → (f a).Uncalled Q) : (x >>= f).Uncalled Q :=
  Task.Uncalled.bind hx fun r hr => by
    cases r with
    | ok a => exact hf a (hr a rfl)
    | error e => rintro _ ⟨⟩

theorem uncalled_pure {a : α} (h : P a) : (pure a : Attempt I α).Uncalled P := by
  rintro b ⟨⟩
  exact h

theorem uncalled_throw (e : Error) : (throw e : Attempt I α).Uncalled P := by
  rintro _ ⟨⟩

/-- What starts with a call may go on in any way. -/
theorem Uncalled.bind_of_called {x : Attempt I α} (hx : x.Uncalled fun _ => False)
    (f : α → Attempt I β) : (x >>= f).Uncalled Q :=
  hx.bind fun _ h => h.elim

theorem uncalled_ofExcept {r : Except Error α} (h : ∀ a, r = .ok a → P a) :
    (ofExcept r : Attempt I α).Uncalled P := h

theorem uncalled_trivial (x : Attempt I α) : x.Uncalled fun _ => True :=
  x.run.uncalled_trivial.mono fun _ _ _ _ => trivial

theorem uncalled_ofTask {t : Task I α} (h : t.Uncalled P) : (ofTask t).Uncalled P :=
  Task.Uncalled.bind h fun a ha b hb => by
    cases hb
    exact ha

end Attempt

open Attempt (uncalled_pure uncalled_throw uncalled_ofExcept uncalled_ofTask)

/-! ## Long-lived credentials -/

/-- Whether credentials from an origin are written down rather than handed out. -/
def Origin.isLongLived : Origin → Bool
  | .static | .environment | .sharedProfile => true
  | _ => false

/-- Whether credentials were written down: they have no end and no known principal. -/
structure Credentials.LongLived (c : Credentials) : Prop where
  origin : c.origin.isLongLived = true
  expiration : c.expiration = none
  principalArn : c.principalArn = none

/-- Whether keys in the base of a plan are long-lived. -/
def ProfileBase.LongLived : ProfileBase → Prop
  | .keys c => c.LongLived
  | _ => True

theorem Environment.longLived_of_keys? {env : Environment} {c : Credentials}
    (h : env.keys? = some c) : c.LongLived := by
  unfold keys? at h
  split at h
  · cases h; exact ⟨rfl, rfl, rfl⟩
  · cases h

theorem Environment.uncalled_findKeys (env : Environment) :
    (env.findKeys : Task I (Option Credentials)).Uncalled
      fun found => ∀ c, found = some c → c.LongLived := by
  unfold findKeys
  split
  · exact fun c => longLived_of_keys?
  · exact fun c => longLived_of_keys?

namespace Profile

variable {p : Profile}

theorem longLived_of_keys? {c : Credentials} (h : p.keys? = .ok (some c)) : c.LongLived := by
  unfold keys? at h
  split at h
  · cases h; exact ⟨rfl, rfl, rfl⟩
  · cases h
  · cases h

theorem longLived_of_step {isSource : Bool} {base : ProfileBase} {role : Option RoleSpec}
    (h : p.step isSource = .ok (.ends base role)) : base.LongLived := by
  -- only keys say anything, and they are those of the profile itself
  cases base with
  | keys c =>
    have hkeys : p.keys? = .ok (some c) := by
      unfold Profile.step at h
      split at h
      · unfold stepWithRole at h
        split at h
        · obtain ⟨spec, -, h⟩ := exists_ok_of_bind h
          cases h
        · obtain ⟨spec, -, h⟩ := exists_ok_of_bind h
          obtain ⟨base, hbase, h⟩ := exists_ok_of_bind h
          cases h
          unfold baseNamed at hbase
          split at hbase <;> cases hbase
        · obtain ⟨spec, -, h⟩ := exists_ok_of_bind h
          split at h
          · obtain ⟨keys, hkeys, h⟩ := exists_ok_of_bind h
            cases keys with
            | none => cases h
            | some c => cases h; exact hkeys
          · cases h
        · obtain ⟨spec, -, h⟩ := exists_ok_of_bind h
          cases h
        · cases h
      · unfold stepWithoutRole at h
        dsimp only at h
        split at h
        · cases h
        split at h
        · cases h
        obtain ⟨keys, hkeys, h⟩ := exists_ok_of_bind h
        cases keys with
        | some c => cases h; exact hkeys
        | none =>
          cases isSource with
          | true => cases h
          | false => cases h
    exact longLived_of_keys? hkeys
  | _ => trivial

end Profile

theorem SharedFiles.longLived_of_plan {files : SharedFiles} {name : String} {plan : ProfilePlan}
    (h : files.plan name = .ok plan) : plan.base.LongLived :=
  base_of_follow (fun _ _ _ _ => Profile.longLived_of_step) h

/-! ## Roles -/

namespace RetryPolicy

variable (p : RetryPolicy)

/-- A task that is retried starts with a call if it does so once. -/
theorem uncalled_perform {call : Task I (Except ApiError α)} (h : call.Uncalled fun _ => False) :
    (p.perform call).Uncalled fun _ => False := by
  have attempted (left : Nat) (fs : List Failure) :
      (p.attempt call left fs).Uncalled fun _ => False := by
    cases left with
    | zero =>
      rw [attempt]
      exact h.bind fun _ h => h.elim
    | succ left =>
      rw [attempt]
      exact h.bind fun _ h => h.elim
  exact (attempted _ _).bind fun _ h => h.elim

theorem uncalled_perform? {call : ServiceTask (Except ApiError IssuedCredentials)}
    (h : call.Uncalled fun _ => False) (arn name : String) :
    (p.perform? arn name call).Uncalled fun _ => False :=
  (uncalled_ofTask (p.uncalled_perform h)).bind_of_called _

theorem uncalled_assumeRole (base : Credentials) (spec : RoleSpec) :
    (p.assumeRole base spec).Uncalled fun _ => False := by
  refine (Attempt.uncalled_trivial _).bind fun now _ => ?_
  refine (Attempt.uncalled_trivial _).bind fun request _ => ?_
  iterate 4 refine (Attempt.uncalled_trivial _).bind fun _ _ => ?_
  have hcall : (Services.assumeRole base request).Uncalled fun _ => False := trivial
  exact (p.uncalled_perform? hcall _ _).bind_of_called _

theorem uncalled_assumeRoleWithWebIdentity (spec : WebRoleSpec) (token : String) :
    (p.assumeRoleWithWebIdentity spec token).Uncalled fun _ => False := by
  refine (Attempt.uncalled_trivial _).bind fun now _ => ?_
  refine (Attempt.uncalled_trivial _).bind fun request _ => ?_
  iterate 3 refine (Attempt.uncalled_trivial _).bind fun _ _ => ?_
  have hcall : (Services.assumeRoleWithWebIdentity request).Uncalled fun _ => False := trivial
  exact (p.uncalled_perform? hcall _ _).bind_of_called _

theorem uncalled_assumeRoles {base : Credentials} (h : base.LongLived) (specs : List RoleSpec) :
    (p.assumeRoles base specs).Uncalled Credentials.LongLived := by
  cases specs with
  | nil => exact uncalled_pure h
  | cons spec specs =>
    rw [assumeRoles, List.foldlM_cons]
    exact (p.uncalled_assumeRole base spec).bind_of_called _

end RetryPolicy

/-! ## Sources -/

namespace Settings

variable (s : Settings) (retry : RetryPolicy)

/-- Whether credentials that may be missing are long-lived. -/
def LongLived? (found : Option Credentials) : Prop := ∀ c, found = some c → c.LongLived

theorem longLived?_none : LongLived? none := by
  rintro _ ⟨⟩

theorem longLived?_some {c : Credentials} (h : c.LongLived) : LongLived? (some c) := by
  rintro _ ⟨⟩
  exact h

theorem uncalled_evaluateBase {base : ProfileBase} (h : base.LongLived) :
    (s.evaluateBase retry base).Uncalled LongLived? := by
  cases base with
  | keys c => exact uncalled_pure (longLived?_some h)
  | nothing => exact uncalled_pure longLived?_none
  | environment profile =>
    refine (uncalled_ofTask s.environment.uncalled_findKeys).bind fun found hfound => ?_
    cases found with
    | some c => exact uncalled_pure hfound
    | none => exact uncalled_throw _
  | outside profile source => trivial
  | webIdentity spec =>
    refine (Attempt.uncalled_trivial _).bind fun token _ => ?_
    exact (retry.uncalled_assumeRoleWithWebIdentity spec token).bind_of_called _

theorem uncalled_evaluateProfile (name : String) :
    (s.evaluateProfile retry name).Uncalled LongLived? := by
  unfold evaluateProfile
  split
  · exact (Attempt.uncalled_trivial _).bind fun _ _ => uncalled_pure longLived?_none
  · have hplan : ∀ plan, s.sharedFiles.plan name = .ok plan → plan.base.LongLived :=
      fun plan => SharedFiles.longLived_of_plan
    refine (uncalled_ofExcept hplan).bind fun plan hbase => ?_
    refine (s.uncalled_evaluateBase retry hbase).bind fun found hfound => ?_
    cases found with
    | none => exact (Attempt.uncalled_trivial _).bind fun _ _ => uncalled_pure longLived?_none
    | some base =>
      refine (retry.uncalled_assumeRoles (hfound base rfl) plan.roles).bind fun c hc => ?_
      exact uncalled_pure (longLived?_some hc)

theorem uncalled_evaluate (source : CredentialSource) :
    (s.evaluate retry source).Uncalled LongLived? := by
  cases source with
  | static keys => exact uncalled_pure (longLived?_some ⟨rfl, rfl, rfl⟩)
  | environment => exact uncalled_ofTask s.environment.uncalled_findKeys
  | profile name files => exact s.uncalled_evaluateProfile retry name
  | webIdentity token =>
    rw [evaluate]
    cases s.webRole with
    | some spec => exact (retry.uncalled_assumeRoleWithWebIdentity spec token).bind_of_called _
    | none => exact uncalled_pure longLived?_none
  | defaultChain => trivial

theorem uncalled_firstOf (sources : List CredentialSource) :
    (s.firstOf retry sources).Uncalled Credentials.LongLived := by
  induction sources with
  | nil => exact uncalled_throw _
  | cons source rest ih =>
    refine (Attempt.uncalled_trivial _).bind fun _ _ => ?_
    refine (s.uncalled_evaluate retry source).bind fun found hfound => ?_
    cases found with
    | none => exact ih
    | some c => exact (Attempt.uncalled_trivial _).bind fun _ _ => uncalled_pure (hfound c rfl)

theorem uncalled_fetch : (s.fetch retry).Uncalled Credentials.LongLived := by
  have hbase : (s.baseCredentials retry).Uncalled Credentials.LongLived :=
    (Attempt.uncalled_trivial _).bind fun sources _ => s.uncalled_firstOf retry sources
  exact hbase.bind fun base h => retry.uncalled_assumeRoles h s.roles

variable {s retry}

/-- Credentials that are fetched without a call are long-lived. -/
theorem longLived_of_makes_fetch {c : Credentials} (h : Makes (s.fetch retry).run [] (.ok c)) :
    c.LongLived :=
  h.of_uncalled (s.uncalled_fetch retry) c rfl

end Settings

end AwsCredentials
