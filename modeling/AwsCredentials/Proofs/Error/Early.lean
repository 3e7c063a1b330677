import AwsCredentials.CredentialChain
import AwsCredentials.Session
import AwsCredentials.Proofs.Task.Calls

/-!
# Errors that are found without a call

An error is found early if it is one of the configuration errors (`Early`). What reads settings,
profiles, requests and tokens makes no call, and all its errors are early (`Attempt.Silent`): so it
is for a chain of profiles (`SharedFiles.early_plan`), for the settled configuration
(`Session.silent_settle`) and for a token (`WebRoleSpec.silent_findToken`).
-/

namespace AwsCredentials

open AwsCredentials.Task (Makes)

variable {I : Interface} {α β : Type}

/-- Whether an error, if there is one, is a configuration error. -/
def Early (r : Except Error α) : Prop := ∀ e, r = .error e → e.isConfiguration = true

theorem early_ok (a : α) : Early (.ok a : Except Error α) := nofun

theorem early_error {e : Error} (h : e.isConfiguration = true) :
    Early (.error e : Except Error α) := by
  rintro _ ⟨⟩
  exact h

theorem Early.bind {x : Except Error α} {f : α → Except Error β} (hx : Early x)
    (hf : ∀ a, Early (f a)) : Early (x >>= f) := by
  cases x with
  | ok a => exact hf a
  | error e => exact early_error (hx e rfl)

theorem Early.map {x : Except Error α} (f : α → β) (hx : Early x) : Early (x.map f) := by
  cases x with
  | ok a => exact early_ok _
  | error e => exact early_error (hx e rfl)

/-! ## Requests -/

theorem early_checkRoleArn (arn : String) : Early (checkRoleArn arn) := by
  unfold checkRoleArn
  split
  · exact early_error rfl
  · exact early_ok _

theorem early_sessionSeconds (arn : String) (given : Option Duration) :
    Early (sessionSeconds arn given) := by
  unfold sessionSeconds
  dsimp only
  split
  · exact early_ok _
  · exact early_error rfl

theorem RoleSpec.early_request (spec : RoleSpec) (now : Instant) : Early (spec.request now) :=
  (early_checkRoleArn _).bind fun _ => (early_sessionSeconds _ _).bind fun _ => early_ok _

theorem WebRoleSpec.early_request (spec : WebRoleSpec) (token : String) (now : Instant) :
    Early (spec.request token now) :=
  (early_checkRoleArn _).bind fun _ => (early_sessionSeconds _ _).bind fun _ => early_ok _

/-! ## Profiles -/

namespace Profile

variable (p : Profile)

theorem early_keys? : Early p.keys? := by
  unfold keys?
  split
  · exact early_ok _
  · exact early_ok _
  · exact early_error rfl

theorem early_duration? : Early p.duration? := by
  unfold duration?
  split
  · exact early_ok _
  · split
    · exact early_ok _
    · exact early_error rfl

theorem early_baseNamed (word : String) : Early (p.baseNamed word) := by
  unfold baseNamed
  split
  · exact early_ok _
  · exact early_ok _
  · exact early_ok _
  · exact early_error rfl

theorem early_stepWithoutRole (isSource : Bool) : Early (p.stepWithoutRole isSource) := by
  unfold stepWithoutRole
  dsimp only
  split
  · exact early_error rfl
  split
  · exact early_error rfl
  refine p.early_keys?.bind fun keys => ?_
  cases keys with
  | some c => exact early_ok _
  | none =>
    cases isSource with
    | true => exact early_error rfl
    | false => exact early_ok _

theorem early_stepWithRole (arn : String) : Early (p.stepWithRole arn) := by
  have early_role : Early (p.role arn) := p.early_duration?.map _
  unfold stepWithRole
  split
  · exact (p.early_duration?.map _).bind fun spec => early_ok _
  · exact early_role.bind fun role => (p.early_baseNamed _).bind fun base => early_ok _
  · refine early_role.bind fun role => ?_
    split
    · refine p.early_keys?.bind fun keys => ?_
      cases keys with
      | some c => exact early_ok _
      | none => exact early_error rfl
    · exact early_ok _
  · exact early_role.bind fun role => early_error rfl
  · exact early_error rfl

theorem early_step (isSource : Bool) : Early (p.step isSource) := by
  unfold Profile.step
  split
  · exact p.early_stepWithRole _
  · exact p.early_stepWithoutRole _

end Profile

theorem SharedFiles.early_follow (files : SharedFiles) (start : String) (left : Nat)
    (visited : List String) (current : String) :
    Early (files.follow start left visited current) := by
  induction left generalizing visited current with
  | zero =>
    unfold follow
    split
    · exact early_error rfl
    · exact early_error rfl
  | succ left ih =>
    unfold follow
    split
    · exact early_error rfl
    cases files.profile? current with
    | none => exact early_error rfl
    | some p =>
      refine (p.early_step _).bind fun step => ?_
      cases step with
      | ends base role => exact early_ok _
      | follows source role => exact (ih _ _).bind fun plan => early_ok _

theorem SharedFiles.early_plan (files : SharedFiles) (name : String) : Early (files.plan name) :=
  files.early_follow name _ _ name

/-! ## Settings -/

namespace Settings

theorem early_settle {given : Option α} {text : Option (String × String)}
    {read : String → String → Except Error α} {default : α}
    (h : ∀ name value, Early (read name value)) : Early (settle given text read default) := by
  unfold settle
  split
  · exact early_ok _
  · exact h _ _
  · exact early_ok _

theorem early_readFlag (name value : String) : Early (readFlag name value) := by
  unfold readFlag
  split
  · exact early_ok _
  · exact early_ok _
  · exact early_error rfl

theorem early_readAttempts (name value : String) : Early (readAttempts name value) := by
  unfold readAttempts
  split
  · exact early_ok _
  · exact early_error rfl

theorem early_staticKeys? (config : Config) : Early (staticKeys? config) := by
  unfold staticKeys?
  split
  · exact early_ok _
  · exact early_ok _
  · exact early_error rfl
  · exact early_error rfl

theorem early_checkProfile (files : SharedFiles) (name : Option String) :
    Early (checkProfile files name) := by
  unfold checkProfile
  split
  · split
    · exact early_ok _
    · exact early_error rfl
  · exact early_ok _

theorem early_ofParts (config : Config) (env : Environment) (files : SharedFiles) :
    Early (ofParts config env files) :=
  (early_checkProfile _ _).bind fun _ =>
  (early_staticKeys? _).bind fun _ =>
  (early_settle early_readAttempts).bind fun _ =>
  (early_settle early_readFlag).bind fun _ =>
  (early_settle early_readFlag).bind fun _ => early_ok _

end Settings

/-! ## Attempts without calls -/

namespace Attempt

/-- Whether an attempt makes no call and its errors are early. -/
def Silent (x : Attempt I α) : Prop := ∀ cs r, Makes x.run cs r → cs = [] ∧ Early r

theorem silent_ofExcept {y : Except Error α} (h : Early y) :
    (ofExcept y : Attempt I α).Silent := by
  intro cs r hr
  obtain ⟨rfl, rfl⟩ := Task.makes_done_iff.1 hr
  exact ⟨rfl, h⟩

theorem silent_pure (a : α) : (pure a : Attempt I α).Silent := silent_ofExcept (early_ok a)

theorem silent_throw {e : Error} (h : e.isConfiguration = true) :
    (throw e : Attempt I α).Silent :=
  silent_ofExcept (early_error h)

theorem silent_ofTask {t : Task I α} (h : t.Within (fun _ => False) fun _ => True) :
    (ofTask t).Silent := by
  intro cs r hr
  obtain ⟨cs₁, a, cs₂, h₁, h₂, rfl⟩ := Task.makes_bind_iff.1 hr
  obtain ⟨rfl, rfl⟩ := Task.makes_done_iff.1 h₂
  exact ⟨by rw [h₁.eq_nil h]; rfl, early_ok a⟩

theorem silent_note (e : Log.Event) : (note e : Attempt I Unit).Silent :=
  silent_ofTask (t := Task.note e) trivial

/-- What follows an attempt without calls makes all the calls. -/
theorem Silent.makes_bind {x : Attempt I α} {f : α → Attempt I β} {cs : List (Answered I)}
    {r : Except Error β} (hx : x.Silent) (h : Makes (x >>= f).run cs r) :
    (∃ a, Makes (f a).run cs r) ∨ cs = [] ∧ Early r := by
  obtain ⟨cs₁, a, cs₂, h₁, h₂, rfl⟩ | ⟨e, hfail, rfl⟩ := makes_bind_iff.1 h
  · obtain ⟨rfl, -⟩ := hx _ _ h₁
    exact .inl ⟨a, h₂⟩
  · obtain ⟨rfl, he⟩ := hx _ _ hfail
    exact .inr ⟨rfl, early_error (he e rfl)⟩

theorem Silent.bind {x : Attempt I α} {f : α → Attempt I β} (hx : x.Silent)
    (hf : ∀ a, (f a).Silent) : (x >>= f).Silent := by
  intro cs r h
  obtain ⟨a, h⟩ | h := hx.makes_bind h
  · exact hf a _ _ h
  · exact h

theorem silent_foldlM {γ : Type} {f : β → γ → Attempt I β} (h : ∀ b c, (f b c).Silent)
    (cs : List γ) (b : β) : (cs.foldlM f b).Silent := by
  induction cs generalizing b with
  | nil => exact silent_pure b
  | cons c cs ih =>
    rw [List.foldlM_cons]
    exact (h b c).bind fun b => ih b

end Attempt

open Attempt (silent_pure silent_throw silent_note silent_ofTask silent_ofExcept)

theorem silent_readFile (path : Path) : (Attempt.ofTask (Task.readFile path) :
    Attempt I (Except ReadError String)).Silent :=
  silent_ofTask ⟨trivial, fun _ => trivial⟩

/-! ## Tokens -/

theorem WebRoleSpec.silent_readToken (spec : WebRoleSpec) (path : Path) :
    (spec.readToken path : Attempt I String).Silent := by
  refine (silent_note _).bind fun _ => ?_
  refine (silent_ofTask (t := Task.yield) trivial).bind fun _ => ?_
  refine (silent_readFile path).bind fun r => ?_
  cases r with
  | error e => exact silent_throw rfl
  | ok text =>
    dsimp only
    cases Text.nonBlank text with
    | none => exact silent_throw rfl
    | some token => exact silent_pure token

theorem WebRoleSpec.silent_findToken (spec : WebRoleSpec) (env : Environment) :
    (spec.findToken env : Attempt I String).Silent := by
  unfold findToken
  split
  · exact silent_pure _
  · exact spec.silent_readToken _
  · exact silent_throw rfl

/-! ## The settled configuration -/

theorem SharedFiles.silent_loadFile (files : SharedFiles) (kind : FileKind) (path : Path) :
    (files.loadFile kind path : Attempt I SharedFiles).Silent := by
  refine (silent_readFile path).bind fun r => ?_
  cases r with
  | ok text =>
    dsimp only
    cases h : SharedFiles.mergeText _ kind path (withoutMark text) with
    | ok files => exact (silent_note _).bind fun _ => silent_pure _
    | error e =>
      refine silent_throw ?_
      unfold mergeText at h
      split at h
      · cases h
      · cases h; rfl
  | error e =>
    dsimp only
    split
    · exact (silent_note _).bind fun _ => silent_pure _
    · exact silent_throw rfl

theorem SharedFiles.silent_load (configFiles credentialsFiles : List Path) :
    (SharedFiles.load configFiles credentialsFiles : Attempt I SharedFiles).Silent :=
  (Attempt.silent_foldlM (fun files path => files.silent_loadFile .config path) _ _).bind fun _ =>
    Attempt.silent_foldlM (fun files path => files.silent_loadFile .credentials path) _ _

theorem Settings.silent_settled (config : Config) (env : Environment) (files : SharedFiles) :
    (Settings.settled config env files : Attempt I Settings).Silent := by
  have rest : (Attempt.ofExcept (Settings.ofParts config env files) >>= fun s =>
      Attempt.note s.summary >>= fun _ => pure s : Attempt I Settings).Silent :=
    (silent_ofExcept (early_ofParts config env files)).bind fun s =>
      (silent_note _).bind fun _ => silent_pure s
  unfold settled
  dsimp only
  split
  · exact (silent_note _).bind fun _ => rest
  · exact rest

theorem Settings.silent_resolve (config : Config) (env : Environment) :
    (Settings.resolve config env : Attempt I Settings).Silent :=
  (SharedFiles.silent_load _ _).bind fun files => silent_settled config env files

theorem early_forM_check (specs : List RoleSpec) : Early (specs.forM RoleSpec.check) := by
  induction specs with
  | nil => exact early_ok _
  | cons spec specs ih => exact (early_checkRoleArn _).bind fun _ => ih

theorem Session.silent_settle (config : Config) (env : Environment) :
    (Session.settle config env : Attempt I Settings).Silent :=
  (Settings.silent_resolve config env).bind fun s =>
    (silent_ofExcept (early_forM_check s.roles)).bind fun _ =>
      (silent_note _).bind fun _ => silent_pure s

end AwsCredentials
