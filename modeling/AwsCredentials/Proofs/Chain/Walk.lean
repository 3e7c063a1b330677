import AwsCredentials.Proofs.Chain.Reach
import Mathlib.Data.List.Chain

/-!
# The walk along source profiles

A profile may name another one as its source, that one a third, and so on. `SharedFiles.Walk` is this
way from profile to profile, told by the profiles alone. The roles of a plan are those that the
profiles of the walk name, in the opposite order: the last profile comes to its role first
(`exists_walk_of_plan`). All of them have an ARN (`check_of_plan`).
-/

namespace AwsCredentials

/-- The role that a profile has for the credentials of its source. A role that a web identity token
proves needs none. -/
def Profile.chainedRole? (p : Profile) : Option RoleSpec :=
  match p.get? "role_arn", p.get? "web_identity_token_file" with
  | some arn, none => (p.role arn).toOption
  | _, _ => none

/-- Whether some profiles are the one with a name and those that it is built on: each names the next
one as its source, and the last one no profile but itself. -/
structure SharedFiles.Walk (files : SharedFiles) (name : String) (path : List Profile) : Prop where
  starts : ∃ p, path.head? = some p ∧ files.profile? name = some p
  links : path.IsChain fun p q =>
    ∃ source, p.get? "source_profile" = some source ∧ source ≠ p.name ∧
      files.profile? source = some q
  ends : ∀ p ∈ path.getLast?, ∀ source ∈ p.get? "source_profile", source = p.name

/-- Whether a step is that of a profile on a walk: the walk ends with the role of the profile, or
goes on with its role at the source that it names. -/
def ProfileStep.Walks (p : Profile) : ProfileStep → Prop
  | .ends _ role => role = p.chainedRole? ∧ ∀ source ∈ p.get? "source_profile", source = p.name
  | .follows source role =>
    p.chainedRole? = some role ∧ p.get? "source_profile" = some source ∧ source ≠ p.name

namespace Profile

variable {p : Profile} {step : ProfileStep} {arn : String}

theorem chainedRole?_of_role {role : RoleSpec} (harn : p.get? "role_arn" = some arn)
    (htoken : p.get? "web_identity_token_file" = none) (hrole : p.role arn = .ok role) :
    p.chainedRole? = some role := by
  simp only [chainedRole?, harn, htoken, hrole]
  rfl

theorem walks_of_stepWithRole (harn : p.get? "role_arn" = some arn)
    (h : p.stepWithRole arn = .ok step) : step.Walks p := by
  unfold stepWithRole at h
  split at h
  · next tokenFile hsource _ htoken =>
    obtain ⟨spec, -, h⟩ := exists_ok_of_bind h
    cases h
    exact ⟨by simp [chainedRole?, harn, htoken], by simp [hsource]⟩
  · next word hsource _ htoken =>
    obtain ⟨role, hrole, h⟩ := exists_ok_of_bind h
    obtain ⟨base, -, h⟩ := exists_ok_of_bind h
    cases h
    exact ⟨(chainedRole?_of_role harn htoken hrole).symm, by simp [hsource]⟩
  · next source hsource _ htoken =>
    obtain ⟨role, hrole, h⟩ := exists_ok_of_bind h
    have hchained := chainedRole?_of_role harn htoken hrole
    split at h
    · next hself =>
      obtain ⟨keys, -, h⟩ := exists_ok_of_bind h
      cases keys with
      | none => cases h
      | some c => cases h; exact ⟨hchained.symm, by simp [hsource, hself]⟩
    · next hother => cases h; exact ⟨hchained, hsource, hother⟩
  · obtain ⟨role, -, h⟩ := exists_ok_of_bind h
    cases h
  · cases h

theorem walks_of_stepWithoutRole {isSource : Bool} (harn : p.get? "role_arn" = none)
    (h : p.stepWithoutRole isSource = .ok step) : step.Walks p := by
  have hchained : none = p.chainedRole? := by simp [chainedRole?, harn]
  unfold stepWithoutRole at h
  dsimp only at h
  split at h
  · cases h
  next hnone =>
  have hsource : p.get? "source_profile" = none ∧ p.get? "credential_source" = none := by
    simpa using hnone
  split at h
  · cases h
  obtain ⟨keys, -, h⟩ := exists_ok_of_bind h
  cases keys with
  | some c => cases h; exact ⟨hchained, by simp [hsource.1]⟩
  | none =>
    cases isSource with
    | true => cases h
    | false => cases h; exact ⟨hchained, by simp [hsource.1]⟩

theorem walks_of_step {isSource : Bool} (h : p.step isSource = .ok step) : step.Walks p := by
  unfold Profile.step at h
  split at h
  · next arn harn => exact walks_of_stepWithRole harn h
  · next harn => exact walks_of_stepWithoutRole harn h

end Profile

namespace SharedFiles

variable {files : SharedFiles} {plan : ProfilePlan}

theorem exists_walk_of_follow {start current : String} {left : Nat} {visited : List String}
    (h : files.follow start left visited current = .ok plan) :
    ∃ path, files.Walk current path ∧ plan.roles = (path.filterMap Profile.chainedRole?).reverse := by
  -- on the profiles that may still be visited; the walk grows at its start, the roles at their end
  induction left generalizing visited current plan with
  | zero =>
    unfold follow at h
    split at h
    · cases h
    · cases h
  | succ left ih =>
    unfold follow at h
    split at h
    · cases h
    cases hp : files.profile? current with
    | none => rw [hp] at h; cases h
    | some p =>
      rw [hp] at h
      obtain ⟨step, hstep, h⟩ := exists_ok_of_bind h
      cases step with
      | ends base role =>
        cases h
        obtain ⟨rfl, hends⟩ := Profile.walks_of_step hstep
        refine ⟨[p], ⟨⟨p, rfl, hp⟩, .singleton p, by simpa using hends⟩, ?_⟩
        cases hrole : p.chainedRole? <;> simp [hrole]
      | follows source role =>
        obtain ⟨inner, hinner, h⟩ := exists_ok_of_bind h
        cases h
        obtain ⟨hrole, hsource, hother⟩ := Profile.walks_of_step hstep
        obtain ⟨path, ⟨⟨q, hq, hfound⟩, links, ends⟩, hroles⟩ := ih hinner
        refine ⟨p :: path, ⟨⟨p, rfl, hp⟩, List.isChain_cons.2 ⟨fun q' hq' => ?_, links⟩, ?_⟩, ?_⟩
        · obtain rfl : q' = q := Option.some.inj (hq'.symm.trans hq)
          exact ⟨source, hsource, hother, hfound⟩
        · cases path with
          | nil => cases hq
          | cons r path => simpa [List.getLast?_cons] using ends
        · simp [hrole, hroles]

/-- The roles of a plan are those of the profiles that it walks along, the last profile first. -/
theorem exists_walk_of_plan {name : String} (h : files.plan name = .ok plan) :
    ∃ path, files.Walk name path ∧ plan.roles = (path.filterMap Profile.chainedRole?).reverse :=
  exists_walk_of_follow h

end SharedFiles

/-! ## The ARNs of the roles -/

/-- A value that is set is not blank. -/
theorem Profile.not_blank_of_get? {p : Profile} {key value : String}
    (h : p.get? key = some value) : Text.blank value = false := by
  obtain ⟨text, -, h⟩ := Option.bind_eq_some_iff.1 h
  unfold Text.nonBlank at h
  split at h
  · cases h
  · next hblank =>
    rw [← Option.some.inj h, Text.blank_trim]
    simpa using hblank

theorem Profile.check_of_chainedRole? {p : Profile} {role : RoleSpec}
    (h : p.chainedRole? = some role) : role.check = .ok () := by
  unfold chainedRole? at h
  split at h
  · next arn harn _ =>
    unfold Profile.role at h
    cases hd : p.duration? with
    | error e => rw [hd] at h; cases h
    | ok duration =>
      rw [hd] at h
      cases h
      exact if_neg (by simp [not_blank_of_get? harn])
  · cases h

/-- No role of a plan lacks an ARN. -/
theorem SharedFiles.check_of_plan {files : SharedFiles} {name : String} {plan : ProfilePlan}
    (h : files.plan name = .ok plan) : ∀ role ∈ plan.roles, role.check = .ok () := by
  obtain ⟨path, -, hroles⟩ := exists_walk_of_plan h
  intro role hrole
  rw [hroles, List.mem_reverse, List.mem_filterMap] at hrole
  obtain ⟨p, -, hp⟩ := hrole
  exact Profile.check_of_chainedRole? hp

end AwsCredentials
