import AwsCredentials.Proofs.Chain.Reach

/-!
# Which source decides

One source decides on the credentials, and it is known before anything is asked: the first one that
is configured, set, or there at all (`Settings.deciding`). What it says is the result.

* `quiet_evaluateProfile`: what a profile says, in terms of its plan;
* `quiet_of_webRole`, `quiet_of_staticKeys`, `quiet_of_keys`, `quiet_of_profile`,
  `quiet_of_nothing`: what the whole chain does, for each source that may decide;
* `within_baseCredentials`: the calls and the file that are left to the chain;
* `quiet_congr`: settings that agree on the sources down to the deciding one are alike;
* `baseCredentials_precedence`: the rule, and that nothing below the deciding source matters.
-/

namespace AwsCredentials

open Attempt (after)

/-- The kinds of sources. -/
inductive SourceKind where
  | webIdentity
  | static
  | environment
  | profile
  | defaultChain
  deriving DecidableEq, Repr

namespace SourceKind

/-- The place in the order, the first one first. -/
def rank : SourceKind → Nat
  | webIdentity => 0
  | static => 1
  | environment => 2
  | profile => 3
  | defaultChain => 4

/-- The calls that belong to a source. -/
def Calls : SourceKind → Services.Op → Prop
  | webIdentity, ServiceCall.assumeRoleWithWebIdentity _ => True
  | profile, ServiceCall.assumeRole _ _ => True
  | profile, ServiceCall.assumeRoleWithWebIdentity _ => True
  | profile, ServiceCall.outside source => source ≠ .defaultChain
  | defaultChain, ServiceCall.outside source => source = .defaultChain
  | _, _ => False

end SourceKind

namespace Settings

variable (s : Settings) (retry : RetryPolicy)

/-! ## The deciding source -/

/-- What the active profile says, if it is there and has credential settings: a plan, or why there
is none. -/
def profilePlan? : Option (Except Error ProfilePlan) :=
  if s.sharedFiles.contains s.profileName then
    match s.sharedFiles.plan s.profileName with
    | .ok ⟨.nothing, _⟩ => none
    | plan => some plan
  else none

/-- The source that decides. -/
def deciding : SourceKind :=
  if s.webRole.isSome then .webIdentity
  else if s.staticKeys.isSome then .static
  else if s.environment.keys?.isSome then .environment
  else if s.profilePlan?.isSome then .profile
  else .defaultChain

/-- The role whose token the deciding source has to find. -/
def tokenRole? : Option WebRoleSpec :=
  match s.deciding, s.profilePlan? with
  | .webIdentity, _ => s.webRole
  | .profile, some (.ok ⟨.webIdentity spec, _⟩) => some spec
  | _, _ => none

/-- The one file that is read, if one is. -/
def tokenFile? : Option Path := s.tokenRole?.bind (·.tokenPath? s.environment)

/-- Exchanges the token of a role. -/
def exchange (spec : WebRoleSpec) : ServiceAttempt Credentials := do
  Attempt.ofExcept spec.check
  retry.assumeRoleWithWebIdentity spec (← spec.findToken s.environment)

/-- Asks all outside sources, which are the last resort. -/
def askOutside : ServiceAttempt Credentials := do
  match ← Services.outside .defaultChain with
  | some c => return c
  | none => throw (.noSources none)

variable {s}

theorem deciding_of_webRole {spec : WebRoleSpec} (h : s.webRole = some spec) :
    s.deciding = .webIdentity := by
  simp [deciding, h]

theorem deciding_of_staticKeys {keys : StaticKeys} (hw : s.webRole = none)
    (h : s.staticKeys = some keys) : s.deciding = .static := by
  simp [deciding, hw, h]

theorem deciding_of_keys {c : Credentials} (hw : s.webRole = none) (hs : s.staticKeys = none)
    (h : s.environment.keys? = some c) : s.deciding = .environment := by
  simp [deciding, hw, hs, h]

theorem deciding_of_profile {plan : Except Error ProfilePlan} (hw : s.webRole = none)
    (hs : s.staticKeys = none) (he : s.environment.keys? = none) (h : s.profilePlan? = some plan) :
    s.deciding = .profile := by
  simp [deciding, hw, hs, he, h]

theorem deciding_of_nothing (hw : s.webRole = none) (hs : s.staticKeys = none)
    (he : s.environment.keys? = none) (h : s.profilePlan? = none) :
    s.deciding = .defaultChain := by
  simp [deciding, hw, hs, he, h]

theorem tokenRole?_of_webRole {spec : WebRoleSpec} (h : s.webRole = some spec) :
    s.tokenRole? = some spec := by
  simp [tokenRole?, deciding_of_webRole h, h]

theorem tokenRole?_of_plan {plan : ProfilePlan} {spec : WebRoleSpec} (hd : s.deciding = .profile)
    (hp : s.profilePlan? = some (.ok plan)) (hbase : plan.base = .webIdentity spec) :
    s.tokenRole? = some spec := by
  obtain ⟨base, roles⟩ := plan
  obtain rfl : base = .webIdentity spec := hbase
  simp [tokenRole?, hd, hp]

variable (s)

/-! ## The sources one after another -/

theorem quiet_firstOf_cons (source : CredentialSource) (rest : List CredentialSource) :
    (s.firstOf retry (source :: rest)).run.quiet =
      (s.evaluate retry source).run.quiet.bind (after fun
        | some c => .done (.ok c)
        | none => (s.firstOf retry rest).run.quiet) := by
  rw [firstOf]
  simp only [Attempt.quiet_bind, Attempt.quiet_note, Task.bind, Attempt.after_ok]
  congr 2
  funext c
  cases c <;> rfl

theorem quiet_findKeys {I : Interface} (env : Environment) :
    (env.findKeys : Task I (Option Credentials)).quiet = .done env.keys? := by
  unfold Environment.findKeys
  split <;> rfl

/-- The chain without a web identity role. -/
theorem quiet_baseCredentials (hw : s.webRole = none) :
    (s.baseCredentials retry).run.quiet =
      (s.firstOf retry (s.staticKeys.toList.map .static ++
        [.environment, .profile s.profileName s.sharedFiles.paths, .defaultChain])).run.quiet := by
  unfold baseCredentials sources
  rw [hw]
  rfl

/-- The chain after the keys of the configuration. -/
theorem quiet_firstOf_environment :
    (s.firstOf retry
      [.environment, .profile s.profileName s.sharedFiles.paths, .defaultChain]).run.quiet =
      match s.environment.keys? with
      | some c => .done (.ok c)
      | none => (s.evaluateProfile retry s.profileName).run.quiet.bind (after fun
        | some c => .done (.ok c)
        | none => askOutside.run.quiet) := by
  rw [quiet_firstOf_cons]
  simp only [evaluate, Attempt.quiet_ofTask, quiet_findKeys, Task.bind, Attempt.after_ok]
  split
  · rfl
  · rw [quiet_firstOf_cons]
    congr 2
    funext c
    cases c with
    | some c => rfl
    | none =>
      rw [quiet_firstOf_cons]
      simp only [evaluate, askOutside, Attempt.quiet_bind]
      congr 2
      funext c
      cases c <;> rfl

/-! ## Profiles -/

theorem plan_of_profilePlan? {plan : ProfilePlan} (h : s.profilePlan? = some (.ok plan)) :
    s.sharedFiles.plan s.profileName = .ok plan ∧ plan.base ≠ .nothing := by
  unfold profilePlan? at h
  split at h
  · split at h
    · cases h
    · next plan' hne =>
      rw [Option.some.inj h]
      refine ⟨rfl, fun hbase => hne plan.roles ?_⟩
      rw [Option.some.inj h, ← hbase]
  · cases h

/-- The credentials that a plan leads to, if it leads to any. -/
def evaluatePlan (plan : ProfilePlan) : ServiceAttempt (Option Credentials) := do
  match ← s.evaluateBase retry plan.base with
  | none => return none
  | some base => return some (← retry.assumeRoles base plan.roles)

/-- A profile says what its plan says. -/
theorem quiet_evaluateProfile :
    (s.evaluateProfile retry s.profileName).run.quiet =
      match s.profilePlan? with
      | none => .done (.ok none)
      | some (.error e) => .done (.error e)
      | some (.ok plan) => (s.evaluatePlan retry plan).run.quiet := by
  unfold evaluateProfile profilePlan?
  cases s.sharedFiles.contains s.profileName with
  | false => rfl
  | true =>
    simp only [Bool.not_true, Bool.false_eq_true, if_false, if_true]
    rw [Attempt.quiet_bind, Attempt.quiet_ofExcept]
    cases s.sharedFiles.plan s.profileName with
    | error e => rfl
    | ok plan =>
      have same : (do
          match ← s.evaluateBase retry plan.base with
          | none =>
            Attempt.note (.debug .chain ("Profile " ++ s.profileName ++ " has no credentials"))
            return none
          | some base => return some (← retry.assumeRoles base plan.roles) :
          ServiceAttempt (Option Credentials)).run.quiet = (s.evaluatePlan retry plan).run.quiet := by
        rw [evaluatePlan, Attempt.quiet_bind, Attempt.quiet_bind]
        congr 2
        funext base
        cases base <;> rfl
      refine same.trans ?_
      obtain ⟨base, roles⟩ := plan
      cases base <;> rfl

/-- Only a profile without credential settings has nothing to offer. -/
theorem gives_evaluateBase {base : ProfileBase} (h : base ≠ .nothing) :
    (s.evaluateBase retry base).run.Gives (· ≠ .ok none) := by
  have gives {x : ServiceAttempt (Option Credentials)} {e : Error} :
      (do match ← x with | some c => return some c | none => throw e :
        ServiceAttempt (Option Credentials)).run.Gives (· ≠ .ok none) :=
    Attempt.gives_bind (Task.gives_trivial _) (fun _ => nofun) fun c _ => by
      cases c with
      | some c => exact nofun
      | none => exact nofun
  cases base with
  | nothing => exact absurd rfl h
  | keys c => exact nofun
  | environment profile => exact gives
  | outside profile source => exact gives
  | webIdentity spec =>
    refine Attempt.gives_bind (Task.gives_trivial _) (fun _ => nofun) fun token _ => ?_
    exact Attempt.gives_bind (Task.gives_trivial _) (fun _ => nofun) fun c _ => nofun

theorem gives_evaluateProfile {plan : Except Error ProfilePlan} (h : s.profilePlan? = some plan) :
    (s.evaluateProfile retry s.profileName).run.quiet.Gives (· ≠ .ok none) := by
  rw [quiet_evaluateProfile, h]
  cases plan with
  | error e => exact nofun
  | ok plan =>
    have hbase := s.gives_evaluateBase retry (s.plan_of_profilePlan? h).2
    refine Task.gives_quiet_iff.2 (Attempt.gives_bind hbase (fun _ => nofun) fun base hne => ?_)
    cases base with
    | none => exact absurd rfl hne
    | some base => exact Attempt.gives_bind (Task.gives_trivial _) (fun _ => nofun) fun c _ => nofun

/-! ## What the chain does -/

variable {s}

theorem quiet_of_webRole {spec : WebRoleSpec} (hw : s.webRole = some spec) :
    (s.baseCredentials retry).run.quiet = (s.exchange retry spec).run.quiet := by
  have decides (token : String) (rest : List CredentialSource) :
      (s.firstOf retry (.webIdentity token :: rest)).run.quiet =
        (retry.assumeRoleWithWebIdentity spec token).run.quiet := by
    rw [quiet_firstOf_cons]
    simp only [evaluate, hw, Attempt.quiet_bind, Attempt.bind_after_assoc, Attempt.quiet_pure]
    exact Attempt.bind_after_done _
  unfold baseCredentials sources exchange
  rw [hw]
  simp only [Attempt.quiet_bind, Attempt.bind_after_assoc, Attempt.quiet_pure, Task.bind,
    Attempt.after_ok]
  simp only [List.cons_append, decides]

theorem quiet_of_staticKeys {keys : StaticKeys} (hw : s.webRole = none)
    (hs : s.staticKeys = some keys) : (s.baseCredentials retry).run.quiet =
      .done (.ok (.longLived keys.accessKey keys.secretKey keys.token .static)) := by
  rw [quiet_baseCredentials s retry hw, hs]
  exact quiet_firstOf_cons _ _ _ _

theorem quiet_of_keys {c : Credentials} (hw : s.webRole = none) (hs : s.staticKeys = none)
    (he : s.environment.keys? = some c) : (s.baseCredentials retry).run.quiet = .done (.ok c) := by
  rw [quiet_baseCredentials s retry hw, hs]
  refine (s.quiet_firstOf_environment retry).trans ?_
  rw [he]

theorem quiet_of_no_keys (hw : s.webRole = none) (hs : s.staticKeys = none)
    (he : s.environment.keys? = none) : (s.baseCredentials retry).run.quiet =
      (s.evaluateProfile retry s.profileName).run.quiet.bind (after fun
        | some c => .done (.ok c)
        | none => askOutside.run.quiet) := by
  rw [quiet_baseCredentials s retry hw, hs]
  refine (s.quiet_firstOf_environment retry).trans ?_
  rw [he]

theorem quiet_of_profile {plan : Except Error ProfilePlan} (hw : s.webRole = none)
    (hs : s.staticKeys = none) (he : s.environment.keys? = none)
    (hp : s.profilePlan? = some plan) :
    ((s.baseCredentials retry).run.quiet.bind fun r => .done (r.map some)) =
      (s.evaluateProfile retry s.profileName).run.quiet := by
  rw [quiet_of_no_keys retry hw hs he, Task.bind_assoc]
  refine ((s.gives_evaluateProfile retry hp).bind_congr fun r hr => ?_).trans (Task.bind_done _)
  cases r with
  | error e => rfl
  | ok c =>
    cases c with
    | none => exact absurd rfl hr
    | some c => rfl

theorem quiet_of_nothing (hw : s.webRole = none) (hs : s.staticKeys = none)
    (he : s.environment.keys? = none) (hp : s.profilePlan? = none) :
    (s.baseCredentials retry).run.quiet = askOutside.run.quiet := by
  rw [quiet_of_no_keys retry hw hs he, quiet_evaluateProfile, hp]
  rfl

/-- A source above the profile decides, or else the profile or a later one. -/
theorem decides (s : Settings) :
    (∃ spec, s.webRole = some spec) ∨
    (s.webRole = none ∧ ∃ keys, s.staticKeys = some keys) ∨
    (s.webRole = none ∧ s.staticKeys = none ∧ ∃ c, s.environment.keys? = some c) ∨
    (s.webRole = none ∧ s.staticKeys = none ∧ s.environment.keys? = none) := by
  cases s.webRole <;> cases s.staticKeys <;> cases s.environment.keys? <;> simp

/-! ## What is left to it -/

variable {files : Path → Prop}

theorem within_evaluateBase {base : ProfileBase} (hbase : base.Narrow)
    (ht : ∀ spec, base = .webIdentity spec → ∀ path,
      spec.tokenPath? s.environment = some path → files path) :
    (s.evaluateBase retry base).run.Within SourceKind.profile.Calls files := by
  cases base with
  | nothing => trivial
  | keys c => trivial
  | environment profile =>
    refine Attempt.within_bind (Attempt.within_ofTask ?_) fun c => ?_
    · rw [← Task.within_quiet_iff, quiet_findKeys]
      trivial
    · cases c <;> trivial
  | outside profile source =>
    refine Attempt.within_bind ⟨hbase, fun _ => trivial⟩ fun c => ?_
    cases c <;> trivial
  | webIdentity spec =>
    refine Attempt.within_bind (WebRoleSpec.within_findToken (ht spec rfl)) fun token => ?_
    exact Attempt.within_bind (retry.within_assumeRoleWithWebIdentity (fun _ => trivial) spec token)
      fun c => trivial

/-- The chain makes no call but those of the deciding source, and reads no file but its token. -/
theorem within_baseCredentials (s : Settings) : (s.baseCredentials retry).run.Within
    s.deciding.Calls (fun path => s.tokenFile? = some path) := by
  rw [← Task.within_quiet_iff]
  rcases s.decides with ⟨spec, hw⟩ | ⟨hw, keys, hs⟩ | ⟨hw, hs, c, he⟩ | ⟨hw, hs, he⟩
  · rw [quiet_of_webRole retry hw, Task.within_quiet_iff, deciding_of_webRole hw]
    refine Attempt.within_bind (Attempt.within_ofExcept _) fun _ => ?_
    refine Attempt.within_bind (WebRoleSpec.within_findToken fun path hpath => ?_) fun token => ?_
    · rw [tokenFile?, tokenRole?_of_webRole hw]
      exact hpath
    · exact retry.within_assumeRoleWithWebIdentity (fun _ => trivial) spec token
  · rw [quiet_of_staticKeys retry hw hs]
    trivial
  · rw [quiet_of_keys retry hw hs he]
    trivial
  cases hp : s.profilePlan? with
  | none =>
    rw [quiet_of_nothing retry hw hs he hp, Task.within_quiet_iff, deciding_of_nothing hw hs he hp]
    refine Attempt.within_bind ⟨rfl, fun _ => trivial⟩ fun c => ?_
    cases c <;> trivial
  | some plan =>
    have hd := deciding_of_profile hw hs he hp
    refine Task.Within.of_bind (f := fun r => .done (r.map some)) ?_
    rw [quiet_of_profile retry hw hs he hp, quiet_evaluateProfile, hp, hd]
    cases plan with
    | error e => trivial
    | ok plan =>
      have narrow := SharedFiles.narrow_of_plan (s.plan_of_profilePlan? hp).1
      rw [Task.within_quiet_iff]
      refine Attempt.within_bind (within_evaluateBase retry narrow fun spec hspec path hpath => ?_)
        fun base => ?_
      · rw [tokenFile?, tokenRole?_of_plan hd hp hspec]
        exact hpath
      · cases base with
        | none => trivial
        | some base =>
          exact Attempt.within_bind (retry.within_assumeRoles (fun _ _ => trivial) base plan.roles)
            fun c => trivial

/-! ## Settings that are alike -/

/-- Whether two settings say the same about a source. The last one lies outside of them. -/
def Same (s s' : Settings) : SourceKind → Prop
  | .webIdentity => s'.webRole = s.webRole
  | .static => s'.staticKeys = s.staticKeys
  | .environment => s'.environment.keys? = s.environment.keys?
  | .profile => s'.profilePlan? = s.profilePlan?
  | .defaultChain => True

/-- Whether two settings say the same about the sources down to the one that decides, and about
where its token is. -/
structure Alike (s s' : Settings) : Prop where
  sources : ∀ kind : SourceKind, kind.rank ≤ s.deciding.rank → s.Same s' kind
  token : ∀ spec, s.tokenRole? = some spec →
    spec.tokenPath? s'.environment = spec.tokenPath? s.environment

theorem quiet_evaluateBase_congr {s' : Settings} {base : ProfileBase}
    (he : s'.environment.keys? = s.environment.keys?)
    (ht : ∀ spec, base = .webIdentity spec →
      spec.tokenPath? s'.environment = spec.tokenPath? s.environment) :
    (s'.evaluateBase retry base).run.quiet = (s.evaluateBase retry base).run.quiet := by
  cases base with
  | nothing => rfl
  | keys c => rfl
  | environment profile =>
    simp only [evaluateBase, Attempt.quiet_bind, Attempt.quiet_ofTask, quiet_findKeys, he]
  | outside profile source => rfl
  | webIdentity spec => rw [evaluateBase, evaluateBase, WebRoleSpec.findToken_congr (ht spec rfl)]

/-- Settings that are alike lead to the same chain but for its reports. -/
theorem Alike.quiet_eq {s' : Settings} (h : s.Alike s') :
    (s'.baseCredentials retry).run.quiet = (s.baseCredentials retry).run.quiet := by
  obtain ⟨sources, token⟩ := h
  rcases s.decides with ⟨spec, hw⟩ | ⟨hw, keys, hs⟩ | ⟨hw, hs, c, he⟩ | ⟨hw, hs, he⟩
  · rw [deciding_of_webRole hw] at sources
    have hw' : s'.webRole = some spec := (sources .webIdentity (by decide)).trans hw
    rw [quiet_of_webRole retry hw, quiet_of_webRole retry hw', exchange, exchange,
      WebRoleSpec.findToken_congr (token spec (tokenRole?_of_webRole hw))]
  · rw [deciding_of_staticKeys hw hs] at sources
    have hw' := (sources .webIdentity (by decide)).trans hw
    have hs' := (sources .static (by decide)).trans hs
    rw [quiet_of_staticKeys retry hw hs, quiet_of_staticKeys retry hw' hs']
  · rw [deciding_of_keys hw hs he] at sources
    have hw' := (sources .webIdentity (by decide)).trans hw
    have hs' := (sources .static (by decide)).trans hs
    have he' := (sources .environment (by decide)).trans he
    rw [quiet_of_keys retry hw hs he, quiet_of_keys retry hw' hs' he']
  have hrank : SourceKind.profile.rank ≤ s.deciding.rank := by
    cases hp : s.profilePlan? with
    | none => simp [deciding_of_nothing hw hs he hp, SourceKind.rank]
    | some plan => simp [deciding_of_profile hw hs he hp]
  have hw' := (sources .webIdentity (Nat.le_trans (by decide) hrank)).trans hw
  have hs' := (sources .static (Nat.le_trans (by decide) hrank)).trans hs
  have same := sources .environment (Nat.le_trans (by decide) hrank)
  rw [quiet_of_no_keys retry hw hs he, quiet_of_no_keys retry hw' hs' (same.trans he),
    quiet_evaluateProfile, quiet_evaluateProfile, sources .profile hrank]
  congr 1
  cases hp : s.profilePlan? with
  | none => rfl
  | some plan =>
    cases plan with
    | error e => rfl
    | ok plan =>
      simp only [evaluatePlan, Attempt.quiet_bind]
      rw [quiet_evaluateBase_congr retry same fun spec hspec => token spec ?_]
      exact tokenRole?_of_plan (deciding_of_profile hw hs he hp) hp hspec

/-! ## The rule -/

theorem keys?_eq_some {env : Environment} {accessKey secretKey : String}
    (ha : env.get? "AWS_ACCESS_KEY_ID" = some accessKey)
    (hs : env.get? "AWS_SECRET_ACCESS_KEY" = some secretKey) :
    env.keys? = some (.longLived accessKey secretKey (env.get? "AWS_SESSION_TOKEN") .environment) := by
  rw [Environment.keys?, ha, hs]

theorem keys?_eq_none {env : Environment}
    (h : env.get? "AWS_ACCESS_KEY_ID" = none ∨ env.get? "AWS_SECRET_ACCESS_KEY" = none) :
    env.keys? = none := by
  unfold Environment.keys?
  rcases h with h | h
  · rw [h]
  · rw [h]
    cases env.get? "AWS_ACCESS_KEY_ID" <;> rfl

/-- The result of the chain is what the first source says that is configured, set or there; an
error of that source is the result as well. No call is made but those of the deciding source. What
the later sources say or would answer, and what other files hold, changes neither the result nor the
calls. -/
theorem baseCredentials_precedence (s : Settings) (retry : RetryPolicy) {σ : Type}
    (host : Host Services σ) (deadline : Option Nat) (w : World Services σ) :
    let found := (s.baseCredentials retry).run.outcome host deadline w
    (∀ spec, s.webRole = some spec →
      found = (s.exchange retry spec).run.outcome host deadline w) ∧
    (∀ keys, s.webRole = none → s.staticKeys = some keys →
      found = (some (.ok (.longLived keys.accessKey keys.secretKey keys.token .static)), w.mute)) ∧
    (∀ accessKey secretKey, s.webRole = none → s.staticKeys = none →
      s.environment.get? "AWS_ACCESS_KEY_ID" = some accessKey →
      s.environment.get? "AWS_SECRET_ACCESS_KEY" = some secretKey →
      found = (some (.ok (.longLived accessKey secretKey
        (s.environment.get? "AWS_SESSION_TOKEN") .environment)), w.mute)) ∧
    (s.webRole = none → s.staticKeys = none →
      s.environment.get? "AWS_ACCESS_KEY_ID" = none ∨
        s.environment.get? "AWS_SECRET_ACCESS_KEY" = none →
      (∀ plan, s.profilePlan? = some plan →
        (s.evaluateProfile retry s.profileName).run.outcome host deadline w =
          (found.1.map (·.map some), found.2) ∧
        ∀ e, plan = .error e → found = (some (.error e), w.mute)) ∧
      (s.profilePlan? = none → found = askOutside.run.outcome host deadline w)) ∧
    (∃ made : List (Made Services), found.2.calls.toList = w.calls.toList ++ made ∧
      ∀ m ∈ made, s.deciding.Calls m.op) ∧
    ∀ (s' : Settings) (host' : Host Services σ) (w' : World Services σ), s.Alike s' →
      (∀ op, s.deciding.Calls op → host'.answer op = host.answer op) →
      w.Agree (fun path => s.tokenFile? = some path) w' →
      let found' := (s'.baseCredentials retry).run.outcome host' deadline w'
      found'.1 = found.1 ∧ found'.2.calls = found.2.calls ∧ found'.2.state = found.2.state := by
  intro found
  have same {t : ServiceTask (Except Error Credentials)}
      (h : (s.baseCredentials retry).run.quiet = t.quiet) : found = t.outcome host deadline w :=
    Task.outcome_eq_of_quiet h host deadline w
  refine ⟨fun spec hw => same (quiet_of_webRole retry hw), fun keys hw hs => ?_,
    fun accessKey secretKey hw hs ha hk => ?_, fun hw hs hnone => ⟨fun plan hp => ⟨?_, ?_⟩, fun hp => ?_⟩,
    ?_, fun s' host' w' halike hhost hworld => ?_⟩
  · exact same (t := .done _) (quiet_of_staticKeys retry hw hs)
  · exact same (t := .done _) (quiet_of_keys retry hw hs (keys?_eq_some ha hk))
  · rw [← Task.outcome_map]
    refine Task.outcome_eq_of_quiet ?_ host deadline w
    rw [Task.quiet_bind]
    exact (quiet_of_profile retry hw hs (keys?_eq_none hnone) hp).symm
  · rintro e rfl
    refine same (t := .done _) ?_
    rw [quiet_of_no_keys retry hw hs (keys?_eq_none hnone), quiet_evaluateProfile, hp]
    rfl
  · exact same (quiet_of_nothing retry hw hs (keys?_eq_none hnone) hp)
  · exact Task.calls_of_within host deadline (within_baseCredentials retry s) w
  · intro found'
    obtain ⟨hresult, hagree⟩ := Task.run_congr (within_baseCredentials retry s) hhost hworld
    have hquiet := Task.outcome_eq_of_quiet (halike.quiet_eq retry) host' deadline w'
    refine ⟨?_, ?_, ?_⟩
    · rw [show found' = _ from hquiet]
      exact hresult
    · rw [show found' = _ from hquiet]
      exact hagree.calls
    · rw [show found' = _ from hquiet]
      exact hagree.state

/-- Services that refuse every call, beside outside sources that offer some credentials or none. -/
def offering (c : Option Credentials) : Host Services Unit where
  answer op _ _ :=
    let refused : ApiError := ⟨"", .timeout, none, "", none⟩
    let answer : ServiceCall.Answer op := match op with
      | .assumeRole _ _ => .error refused
      | .assumeRoleWithWebIdentity _ => .error refused
      | .getCallerIdentity _ => .error refused
      | .getUser _ => .error refused
      | .listRoles _ _ => .error refused
      | .outside _ => .ok c
    ⟨answer, some Duration.zero, ()⟩

/-- The keys of the configuration hide other keys in the environment, a profile that is built on
itself, and what the outside sources offer. -/
theorem staticKeys_hide_the_rest :
    let keys : StaticKeys := ⟨"AKIA", "secret", none⟩
    let s : Settings := { (default : Settings) with staticKeys := some keys }
    let s' : Settings := { s with
      environment := ⟨[("AWS_ACCESS_KEY_ID", "other"), ("AWS_SECRET_ACCESS_KEY", "other")], none⟩
      sharedFiles := ⟨[⟨"default", [("role_arn", "a"), ("source_profile", "b")]⟩,
        ⟨"b", [("role_arn", "b"), ("source_profile", "default")]⟩], []⟩ }
    let w : World Services Unit := .start () ⟨0⟩ fun _ => .ok ""
    let c : Credentials := .longLived "AKIB" "secret" none .environment
    let found := (s.baseCredentials (.ofAttempts 3)).run.outcome (offering none) none w
    let found' := (s'.baseCredentials (.ofAttempts 3)).run.outcome (offering (some c)) none w
    s'.profilePlan? = some (.error (.profile "default"
      "source_profile cycle: default -> b -> default")) ∧
    found = (some (.ok (.longLived "AKIA" "secret" none .static)), w.mute) ∧ found'.1 = found.1 := by
  intro keys s s' w c found found'
  have rule := baseCredentials_precedence s (.ofAttempts 3) (offering none) none w
  have alike : s.Alike s' := by
    refine ⟨fun kind hkind => ?_, fun spec hspec => nomatch hspec⟩
    cases kind with
    | webIdentity => rfl
    | static => rfl
    | environment => exact absurd hkind (by decide)
    | profile => exact absurd hkind (by decide)
    | defaultChain => trivial
  have answers (op : Services.Op) (h : s.deciding.Calls op) :
      (offering (some c)).answer op = (offering none).answer op := nomatch h
  refine ⟨rfl, rule.2.1 keys rfl rfl, ?_⟩
  exact (rule.2.2.2.2.2 s' (offering (some c)) w alike answers ⟨rfl, rfl, rfl, rfl, fun _ _ => rfl⟩).1

end Settings

end AwsCredentials
