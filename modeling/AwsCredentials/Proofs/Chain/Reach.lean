import AwsCredentials.CredentialChain
import AwsCredentials.Proofs.Task.Run

/-!
# What a source can come to

The calls that a source of credentials can make and the files that it can read, whatever it is
answered. Retrying adds nothing to the calls of a task (`within_perform`); roles add the calls by
which they are assumed; a token is read from one file at most (`within_findToken`).
-/

namespace AwsCredentials

/-! ## Retried calls -/

namespace RetryPolicy

variable {I : Interface} {α : Type} {calls : I.Op → Prop} {files : Path → Prop}
  {call : Task I (Except ApiError α)}

theorem within_giveUp (fs : List Failure) (e : ApiError) :
    (giveUp fs e : Task I (Attempted α)).Within calls files := by
  unfold giveUp
  cases gaveUp? (fs.length + 1) e with
  | none => trivial
  | some event => trivial

theorem within_attempt (p : RetryPolicy) (h : call.Within calls files) (left : Nat)
    (fs : List Failure) : (p.attempt call left fs).Within calls files := by
  induction left generalizing fs with
  | zero =>
    rw [attempt]
    refine Task.Within.bind h fun r => ?_
    cases r with
    | ok a => trivial
    | error e => exact within_giveUp fs e
  | succ left ih =>
    rw [attempt]
    refine Task.Within.bind h fun r => ?_
    cases r with
    | ok a => trivial
    | error e =>
      show Task.Within calls files (if _ then _ else _)
      split
      · exact ih _
      · exact within_giveUp fs e

/-- A call that is made again is the same call. -/
theorem within_perform (p : RetryPolicy) (h : call.Within calls files) :
    (p.perform call).Within calls files := by
  refine Task.Within.bind (p.within_attempt h _ _) fun attempted => ?_
  cases attempted.history? with
  | none => trivial
  | some event => trivial

end RetryPolicy

/-! ## Roles -/

variable {calls : Services.Op → Prop} {files : Path → Prop}

namespace RetryPolicy

variable (p : RetryPolicy)

theorem within_perform? {call : ServiceTask (Except ApiError IssuedCredentials)}
    (h : call.Within calls files) (arn name : String) :
    (p.perform? arn name call).run.Within calls files := by
  refine Attempt.within_bind (Attempt.within_ofTask (p.within_perform h)) fun r => ?_
  cases r with
  | ok issued => trivial
  | error e => trivial

theorem within_assumeRole (h : ∀ signer request, calls (.assumeRole signer request))
    (base : Credentials) (spec : RoleSpec) : (p.assumeRole base spec).run.Within calls files := by
  have hcall (request : RoleRequest) :
      (Services.assumeRole base request).Within calls files := ⟨h base request, fun _ => trivial⟩
  refine Attempt.within_bind (Attempt.within_ofTask fun _ => trivial) fun now => ?_
  refine Attempt.within_bind (Attempt.within_ofExcept (spec.request now)) fun request => ?_
  iterate 4 refine Attempt.within_bind (Attempt.within_note _) fun _ => ?_
  exact Attempt.within_bind (p.within_perform? (hcall request) _ _) fun issued => trivial

theorem within_assumeRoles (h : ∀ signer request, calls (.assumeRole signer request))
    (base : Credentials) (specs : List RoleSpec) :
    (p.assumeRoles base specs).run.Within calls files := by
  unfold assumeRoles
  induction specs generalizing base with
  | nil => trivial
  | cons spec specs ih =>
    rw [List.foldlM_cons]
    exact Attempt.within_bind (p.within_assumeRole h base spec) fun c => ih c

theorem within_assumeRoleWithWebIdentity
    (h : ∀ request, calls (.assumeRoleWithWebIdentity request)) (spec : WebRoleSpec)
    (token : String) : (p.assumeRoleWithWebIdentity spec token).run.Within calls files := by
  have hcall (request : WebRoleRequest) :
      (Services.assumeRoleWithWebIdentity request).Within calls files := ⟨h request, fun _ => trivial⟩
  refine Attempt.within_bind (Attempt.within_ofTask fun _ => trivial) fun now => ?_
  refine Attempt.within_bind (Attempt.within_ofExcept (spec.request token now)) fun request => ?_
  iterate 3 refine Attempt.within_bind (Attempt.within_note _) fun _ => ?_
  exact Attempt.within_bind (p.within_perform? (hcall request) _ _) fun issued => trivial

end RetryPolicy

/-! ## Tokens -/

namespace WebRoleSpec

/-- The file that the token of a role is read from, if it has to be read. -/
def tokenPath? (spec : WebRoleSpec) (env : Environment) : Option Path :=
  match spec.token.bind Text.nonBlank with
  | some _ => none
  | none => spec.tokenFile.map (·.expand env)

/-- The environment matters for the token only where it stands in the path of the token file. -/
theorem findToken_congr {I : Interface} {spec : WebRoleSpec} {env env' : Environment}
    (h : spec.tokenPath? env' = spec.tokenPath? env) :
    (spec.findToken env' : Attempt I String) = spec.findToken env := by
  revert h
  unfold findToken tokenPath?
  cases spec.token.bind Text.nonBlank with
  | some token => exact fun _ => rfl
  | none =>
    cases spec.tokenFile with
    | none => exact fun _ => rfl
    | some path =>
      exact fun h => congrArg spec.readToken (Option.some.inj h)

theorem within_readToken {I : Interface} {calls : I.Op → Prop} (spec : WebRoleSpec) {path : Path}
    (h : files path) : (spec.readToken path : Attempt I String).run.Within calls files := by
  refine Attempt.within_bind (Attempt.within_note _) fun _ => ?_
  refine Attempt.within_bind (Attempt.within_ofTask trivial) fun _ => ?_
  refine Attempt.within_bind (Attempt.within_ofTask ⟨h, fun _ => trivial⟩) fun r => ?_
  cases r with
  | error e => trivial
  | ok text =>
    show Task.Within calls files (match Text.nonBlank text with | some _ => _ | none => _)
    cases Text.nonBlank text with
    | none => trivial
    | some token => trivial

theorem within_findToken {I : Interface} {calls : I.Op → Prop} {spec : WebRoleSpec}
    {env : Environment} (h : ∀ path, spec.tokenPath? env = some path → files path) :
    (spec.findToken env : Attempt I String).run.Within calls files := by
  revert h
  unfold findToken tokenPath?
  cases spec.token.bind Text.nonBlank with
  | some token => exact fun _ => trivial
  | none =>
    cases spec.tokenFile with
    | none => exact fun _ => trivial
    | some path => exact fun h => spec.within_readToken (h _ rfl)

end WebRoleSpec

/-! ## Profiles -/

/-- Whether a base does not ask all outside sources, which come last in the chain. -/
def ProfileBase.Narrow : ProfileBase → Prop
  | .outside _ source => source ≠ .defaultChain
  | _ => True

/-- Whether the base of a chain that ends is narrow. -/
def ProfileStep.Narrow : ProfileStep → Prop
  | .ends base _ => base.Narrow
  | .follows _ _ => True

theorem exists_ok_of_bind {α β : Type} {x : Except Error α} {f : α → Except Error β} {b : β}
    (h : x >>= f = .ok b) : ∃ a, x = .ok a ∧ f a = .ok b := by
  cases x with
  | error e => cases h
  | ok a => exact ⟨a, rfl, h⟩

namespace Profile

variable {p : Profile} {step : ProfileStep}

theorem narrow_of_baseNamed {word : String} {base : ProfileBase} (h : p.baseNamed word = .ok base) :
    base.Narrow := by
  unfold baseNamed at h
  split at h
  · cases h; trivial
  · cases h; exact nofun
  · cases h; exact nofun
  · cases h

theorem narrow_of_stepWithRole {arn : String} (h : p.stepWithRole arn = .ok step) :
    step.Narrow := by
  unfold stepWithRole at h
  split at h
  · obtain ⟨spec, -, h⟩ := exists_ok_of_bind h
    cases h; trivial
  · obtain ⟨role, -, h⟩ := exists_ok_of_bind h
    obtain ⟨base, hbase, h⟩ := exists_ok_of_bind h
    cases h
    exact narrow_of_baseNamed hbase
  · obtain ⟨role, -, h⟩ := exists_ok_of_bind h
    split at h
    · obtain ⟨keys, -, h⟩ := exists_ok_of_bind h
      cases keys with
      | none => cases h
      | some c => cases h; trivial
    · cases h; trivial
  · obtain ⟨role, -, h⟩ := exists_ok_of_bind h
    cases h
  · cases h

theorem narrow_of_stepWithoutRole {isSource : Bool} (h : p.stepWithoutRole isSource = .ok step) :
    step.Narrow := by
  unfold stepWithoutRole at h
  dsimp only at h
  split at h
  · cases h
  split at h
  · cases h
  obtain ⟨keys, -, h⟩ := exists_ok_of_bind h
  cases keys with
  | some c => cases h; trivial
  | none =>
    cases isSource with
    | true => cases h
    | false => cases h; trivial

theorem narrow_of_step {isSource : Bool} (h : p.step isSource = .ok step) : step.Narrow := by
  unfold Profile.step at h
  split at h
  · exact narrow_of_stepWithRole h
  · exact narrow_of_stepWithoutRole h

end Profile

/-- However long a chain of profiles is, its base is what the profile at its end says. -/
theorem SharedFiles.base_of_follow {P : ProfileBase → Prop}
    (hstep : ∀ (p : Profile) isSource base role, p.step isSource = .ok (.ends base role) → P base)
    {f : SharedFiles} {start current : String} {left : Nat} {visited : List String}
    {plan : ProfilePlan} (h : f.follow start left visited current = .ok plan) : P plan.base := by
  induction left generalizing visited current plan with
  | zero =>
    unfold follow at h
    split at h
    · cases h
    · cases h
  | succ left ih =>
    unfold follow at h
    split at h
    · cases h
    cases hp : f.profile? current with
    | none => rw [hp] at h; cases h
    | some p =>
      rw [hp] at h
      obtain ⟨step, hends, h⟩ := exists_ok_of_bind h
      cases step with
      | ends base role => cases h; exact hstep p _ base role hends
      | follows source role =>
        obtain ⟨inner, hinner, h⟩ := exists_ok_of_bind h
        cases h
        have base := ih hinner
        exact base

theorem SharedFiles.narrow_of_plan {f : SharedFiles} {name : String} {plan : ProfilePlan}
    (h : f.plan name = .ok plan) : plan.base.Narrow := by
  refine base_of_follow (fun p isSource base role hends => ?_) h
  have narrow := Profile.narrow_of_step hends
  exact narrow

end AwsCredentials
