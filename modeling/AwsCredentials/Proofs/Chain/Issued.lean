import AwsCredentials.Proofs.Chain.LongLived
import AwsCredentials.Proofs.Session.Stages

/-!
# What was issued last

The calls by which credentials are fetched tell what credentials those are (`Given`): without a call
they were written down, a delegate source gave them if nothing was issued for a role, and else they
are what was issued last.

* `Tried.getLast?_issued`: of the calls for one role, the last one issues its credentials;
* `given_of_makes_fetch`: what is fetched is given by the calls, whatever the source and the roles.
-/

namespace AwsCredentials

open AwsCredentials.Task (Makes)

/-- What the answer to a call issues for a role. -/
def ServiceCall.issued? : (call : ServiceCall) → call.Answer → Option IssuedCredentials
  | assumeRole _ _, .ok issued => some issued
  | assumeRoleWithWebIdentity _, .ok issued => some issued
  | _, _ => none

/-- What a call issues for a role, if it is a call for one and succeeds. -/
def Answered.issued? (x : Answered Services) : Option IssuedCredentials :=
  ServiceCall.issued? x.op x.answer

/-- All that some calls issue for roles, in its order. -/
def issuedBy (cs : List (Answered Services)) : List IssuedCredentials :=
  cs.filterMap Answered.issued?

/-- Whether delegate sources give credentials of no other origin than the default chain. -/
def DelegatesAsDefault (cs : List (Answered Services)) : Prop :=
  ∀ source c, Answered.outside source (.ok (some c)) ∈ cs → c.origin = .defaultChain

/-- Whether credentials are all that was issued. -/
structure Credentials.Carries (c : Credentials) (issued : IssuedCredentials) : Prop where
  accessKeyId : c.accessKeyId = issued.accessKeyId
  secretAccessKey : c.secretAccessKey = issued.secretAccessKey
  sessionToken : c.sessionToken = some issued.sessionToken
  expiration : c.expiration = some issued.expiration
  principalArn : c.principalArn = issued.assumedRoleArn

/-- How credentials come from some calls. -/
inductive Given (cs : List (Answered Services)) (c : Credentials) : Prop
  /-- No call was made. -/
  | written : cs = [] → c.LongLived → Given cs c
  /-- A delegate source gave them, and nothing was issued. -/
  | offered : cs ≠ [] → issuedBy cs = [] → c.origin = .defaultChain → Given cs c
  /-- They were issued last. -/
  | issued {issued : IssuedCredentials} : (issuedBy cs).getLast? = some issued →
    c.origin.isRoleDerived = true → c.Carries issued → Given cs c

/-! ## Issued credentials -/

theorem IssuedCredentials.carries (issued : IssuedCredentials) (origin : Origin) :
    (issued.credentials origin).Carries issued :=
  ⟨rfl, rfl, rfl, rfl, rfl⟩

theorem issuedBy_append (cs cs' : List (Answered Services)) :
    issuedBy (cs ++ cs') = issuedBy cs ++ issuedBy cs' :=
  List.filterMap_append

variable {cs : List (Answered Services)} {c : Credentials} {issued : IssuedCredentials}

/-- What is issued later hides what was issued before. -/
theorem getLast?_issuedBy_append (before : List (Answered Services))
    (h : (issuedBy cs).getLast? = some issued) :
    (issuedBy (before ++ cs)).getLast? = some issued := by
  rw [issuedBy_append, List.getLast?_append, h, Option.some_or]

/-- Of the calls for one role, the last one issues its credentials. -/
theorem Tried.getLast?_issued {one : Except ApiError IssuedCredentials → Answered Services}
    (h : Tried one cs (.ok issued))
    (hone : (one (.ok issued)).issued? = some issued) :
    (issuedBy cs).getLast? = some issued := by
  obtain ⟨earlier, -, rfl⟩ := h
  have hlast : issuedBy [one (.ok issued)] = [issued] := by
    rw [issuedBy, List.filterMap_cons_some hone, List.filterMap_nil]
  exact getLast?_issuedBy_append _ (by rw [hlast]; rfl)

theorem Turn.given {t : Turn} (hmade : t.Made) (hhands : t.Hands c)
    (before : List (Answered Services)) : Given (before ++ t.calls) c := by
  obtain ⟨issued, hanswer, rfl⟩ := hhands
  rw [Turn.Made, hanswer] at hmade
  obtain ⟨request, -, htried⟩ := hmade
  have hlast := htried.getLast?_issued rfl
  exact .issued (getLast?_issuedBy_append before hlast) rfl ⟨rfl, rfl, rfl, rfl, rfl⟩

/-! ## Fetched credentials -/

namespace Settings

variable {s : Settings} {retry : RetryPolicy}

/-- Credentials that the base gives by a call are issued or come from a delegate source. -/
theorem BaseCalls.given (h : s.BaseCalls cs (.ok c)) (hdelegates : DelegatesAsDefault cs)
    (hcalls : cs ≠ []) : Given cs c := by
  generalize hr : (.ok c : Except Error Credentials) = r at h
  cases h with
  | silent => exact absurd rfl hcalls
  | @exchanged request cs answer _ htried =>
    cases answer with
    | error e => cases hr
    | ok issued =>
      cases hr
      exact .issued (htried.getLast?_issued rfl) rfl (issued.carries _)
  | @asked source answer detail =>
    obtain ⟨rfl⟩ : answer = .ok (some c) := by
      cases answer with
      | error e => cases hr
      | ok offered =>
        cases offered with
        | none => cases hr
        | some c' => cases hr; rfl
    exact .offered hcalls rfl (hdelegates source c (List.mem_singleton_self _))

/-- Whatever is fetched is given by the calls. -/
theorem given_of_makes_fetch (h : Makes (s.fetch retry).run cs (.ok c))
    (hdelegates : DelegatesAsDefault cs) : Given cs c := by
  by_cases hcalls : cs = []
  · subst hcalls
    exact .written rfl (longLived_of_makes_fetch h)
  obtain ⟨e, -, he⟩ | ⟨base, c₀, roles, hbase, hroles, rfl⟩ := makes_fetch h
  · cases he
  obtain ⟨turns, rfl, hthread⟩ := RetryPolicy.makes_assumeRoles hroles
  obtain ⟨-, hnone, hlast⟩ := hthread.succeeds c rfl
  -- the last turn issued the credentials, and if there is none the base gave them
  obtain rfl | ⟨init, t, rfl⟩ := turns.eq_nil_or_concat'
  · obtain rfl := hnone rfl
    simp only [List.flatMap_nil, List.append_nil] at hcalls hdelegates ⊢
    exact (makes_base hbase).given hdelegates hcalls
  · have ht : t ∈ (init ++ [t]).getLast? := by simp
    have hmade := hthread.made t (by simp)
    have hgiven := t.given hmade (hlast t ht) (base ++ init.flatMap Turn.calls)
    simpa using hgiven

end Settings

/-! ## What the origin tells -/

namespace Given

variable (h : Given cs c)

include h

theorem isRoleDerived_iff : c.origin.isRoleDerived = true ↔ issuedBy cs ≠ [] := by
  cases h with
  | written hcalls hlong =>
    have horigin := hlong.origin
    subst hcalls
    cases ho : c.origin <;> simp [ho, Origin.isLongLived, Origin.isRoleDerived, issuedBy] at horigin ⊢
  | offered _ hnone horigin => simp [hnone, horigin, Origin.isRoleDerived]
  | issued hlast horigin _ =>
    refine ⟨fun _ hnil => ?_, fun _ => horigin⟩
    rw [hnil] at hlast
    cases hlast

theorem carries (hissued : (issuedBy cs).getLast? = some issued) : c.Carries issued := by
  cases h with
  | written hcalls => subst hcalls; cases hissued
  | offered _ hnone => rw [hnone] at hissued; cases hissued
  | issued hlast _ hcarries =>
    obtain rfl := Option.some.inj (hlast.symm.trans hissued)
    exact hcarries

theorem longLived (horigin : c.origin.isLongLived = true) : cs = [] ∧ c.LongLived := by
  cases h with
  | written hcalls hlong => exact ⟨hcalls, hlong⟩
  | offered _ _ hdefault => rw [hdefault] at horigin; cases horigin
  | issued _ hrole _ =>
    cases ho : c.origin <;> simp [ho, Origin.isLongLived, Origin.isRoleDerived] at horigin hrole

end Given

end AwsCredentials
