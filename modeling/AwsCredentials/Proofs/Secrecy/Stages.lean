import AwsCredentials.Proofs.Secrecy.Settings
import AwsCredentials.Session

/-!
# Secrets on the way to a session

What is done for a session with settings that are twins, stage by stage. `secrecy` says which calls,
answers and files are alike, and under it each stage is a twin of the same stage with other secrets:

* `RetryPolicy.twin_perform`: a call that is made again;
* `RetryPolicy.twin_assumeRoles`: the roles;
* `Settings.Twin.fetch`: the credentials, from the sources to the last role;
* `RetryPolicy.twin_validate` and `RetryPolicy.twin_findAccount`: the owner and the account.
-/

namespace AwsCredentials

/-! ## What is alike -/

/-- Two issued credentials that differ at most in their secrets. -/
def IssuedCredentials.Twin (issued issued' : IssuedCredentials) : Prop :=
  ∃ secret token, issued' = { issued with secretAccessKey := secret, sessionToken := token }

namespace ServiceCall

/-- Two calls of the same operation, signed with credentials that are twins, with the same request but
for a web identity token. -/
inductive Twin : ServiceCall → ServiceCall → Prop
  | assumeRole {c c' : Credentials} (request : RoleRequest) : c.Twin c' →
    Twin (.assumeRole c request) (.assumeRole c' request)
  | assumeRoleWithWebIdentity (request : WebRoleRequest) (token : String) :
    Twin (.assumeRoleWithWebIdentity request) (.assumeRoleWithWebIdentity { request with token })
  | getCallerIdentity {c c' : Credentials} : c.Twin c' →
    Twin (.getCallerIdentity c) (.getCallerIdentity c')
  | getUser {c c' : Credentials} : c.Twin c' → Twin (.getUser c) (.getUser c')
  | listRoles {c c' : Credentials} (maxItems : Int) : c.Twin c' →
    Twin (.listRoles c maxItems) (.listRoles c' maxItems)
  | outside (source : OutsideSource) : Twin (.outside source) (.outside source)

/-- Two answers that differ at most in secrets. -/
def TwinAnswers : (call call' : ServiceCall) → call.Answer → call'.Answer → Prop
  | .assumeRole _ _, .assumeRole _ _, r, r' => SameEnd IssuedCredentials.Twin r r'
  | .assumeRoleWithWebIdentity _, .assumeRoleWithWebIdentity _, r, r' =>
    SameEnd IssuedCredentials.Twin r r'
  | .getCallerIdentity _, .getCallerIdentity _, r, r' => SameEnd Eq r r'
  | .getUser _, .getUser _, r, r' => SameEnd Eq r r'
  | .listRoles _ _, .listRoles _ _, r, r' => SameEnd Eq r r'
  | .outside _, .outside _, r, r' => SameEnd (Option.Rel Credentials.Twin) r r'
  | _, _, _, _ => False

end ServiceCall

/-- Calls, answers and files are alike if they differ at most in secrets. The paths that some shared
files tell ask for none. -/
def secrecy (shared : Path → Prop) : Likeness Services where
  calls := ServiceCall.Twin
  answers := ServiceCall.TwinAnswers
  content path r r' := SameEnd SharedFiles.TwinText r r' ∧
    (shared path → ∀ text, r = .ok text → SharedFiles.PlainText text)

/-! ## Retries -/

namespace RetryPolicy

variable {I : Interface} {L : Likeness I} {α : Type} {R : α → α → Prop}

/-- Two results that are related, after the same failures. -/
structure TwinAttempted (R : α → α → Prop) (a a' : Attempted α) : Prop where
  result : SameEnd R a.result a'.result
  failures : a'.failures = a.failures

theorem TwinAttempted.history? {a a' : Attempted α} (h : TwinAttempted R a a') :
    a'.history? = a.history? := by
  have hcount : a'.attemptCount = a.attemptCount := by
    obtain ⟨result, failures⟩ := a
    obtain ⟨result', failures'⟩ := a'
    obtain ⟨hresult, rfl⟩ := h
    cases hresult <;> rfl
  rw [Attempted.history?, Attempted.history?, h.failures, hcount]

theorem twin_giveUp (failures : List Failure) (e : ApiError) :
    Task.Twin L (TwinAttempted R) (giveUp failures e) (giveUp failures e) :=
  (Task.twin_forM_note _).bind fun _ _ _ => .done ⟨.error e, rfl⟩

theorem twin_attempt (p : RetryPolicy) {call call' : Task I (Except ApiError α)}
    (h : Task.Twin L (SameEnd R) call call') (left : Nat) (failures : List Failure) :
    Task.Twin L (TwinAttempted R) (p.attempt call left failures)
      (p.attempt call' left failures) := by
  induction left generalizing failures with
  | zero =>
    unfold attempt
    refine Task.Twin.bind h fun r r' hr => ?_
    cases hr with
    | ok hab => exact .done ⟨.ok hab, rfl⟩
    | error e => exact twin_giveUp failures e
  | succ left ih =>
    unfold attempt
    refine Task.Twin.bind h fun r r' hr => ?_
    cases hr with
    | ok hab => exact .done ⟨.ok hab, rfl⟩
    | error e =>
      dsimp only
      split
      · exact .log _ (.wait _ (ih _))
      · exact twin_giveUp failures e

/-- Calls that are twins are made equally often and with the same reports. -/
theorem twin_perform (p : RetryPolicy) {call call' : Task I (Except ApiError α)}
    (h : Task.Twin L (SameEnd R) call call') :
    Task.Twin L (SameEnd R) (p.perform call) (p.perform call') := by
  refine Task.Twin.bind (p.twin_attempt h _ []) fun a a' ha => ?_
  rw [ha.history?]
  exact (Task.twin_forM_note _).bind fun _ _ _ => .done ha.result

end RetryPolicy

/-! ## Sources and roles -/

/-- Two sources of credentials that differ at most in their secrets. -/
inductive CredentialSource.Twin : CredentialSource → CredentialSource → Prop
  | static {keys keys' : StaticKeys} : keys.Twin keys' → Twin (.static keys) (.static keys')
  | environment : Twin .environment .environment
  | profile (name : String) (files : List Path) : Twin (.profile name files) (.profile name files)
  | webIdentity (token token' : String) : Twin (.webIdentity token) (.webIdentity token')
  | defaultChain : Twin .defaultChain .defaultChain

variable {shared : Path → Prop} {c c' : Credentials} {retry : RetryPolicy}

theorem WebRoleSpec.Twin.request {spec spec' : WebRoleSpec} (h : spec.Twin spec')
    (token token' : String) (now : Instant) :
    SameEnd (fun request request' => ∃ token, request' = { request with token := token })
      (spec.request token now) (spec'.request token' now) := by
  obtain ⟨_, rfl, -⟩ := h
  unfold WebRoleSpec.request
  refine (SameEnd.same _).bind fun _ _ _ => ?_
  exact (SameEnd.same _).bind fun seconds _ heq => heq ▸ .ok ⟨token', rfl⟩

namespace RetryPolicy

theorem twin_perform? (retry : RetryPolicy) (arn call : String)
    {task task' : ServiceTask (Except ApiError IssuedCredentials)}
    (h : Task.Twin (secrecy shared) (SameEnd IssuedCredentials.Twin) task task') :
    Attempt.Twin (secrecy shared) IssuedCredentials.Twin (retry.perform? arn call task)
      (retry.perform? arn call task') := by
  refine (Attempt.twin_ofTask (retry.twin_perform h)).bind fun r r' hr => ?_
  cases hr with
  | ok hissued => exact Attempt.twin_pure hissued
  | error e => exact Attempt.twin_throw _

theorem twin_credentials {issued issued' : IssuedCredentials} (h : issued.Twin issued')
    (origin : Origin) : (issued.credentials origin).Twin (issued'.credentials origin) := by
  obtain ⟨secret, token, rfl⟩ := h
  exact ⟨secret, some token, rfl⟩

theorem twin_assumeRole (retry : RetryPolicy) (h : c.Twin c') (spec : RoleSpec) :
    Attempt.Twin (secrecy shared) Credentials.Twin (retry.assumeRole c spec)
      (retry.assumeRole c' spec) := by
  unfold assumeRole
  refine Attempt.twin_now fun now => ?_
  refine (Attempt.twin_ofExcept (.same _)).bind fun request _ heq => heq ▸ ?_
  refine .noted (.noted (.noted ?_))
  rw [h.origin]
  refine .noted ((retry.twin_perform? _ _ ?_).bind fun issued issued' hissued => ?_)
  · exact .call (.assumeRole request h) fun r r' hr => .done hr
  · exact .noted (Attempt.twin_pure (twin_credentials hissued _))

/-- Roles that are assumed one after another with credentials that are twins. -/
theorem twin_assumeRoles (retry : RetryPolicy) (h : c.Twin c') (specs : List RoleSpec) :
    Attempt.Twin (secrecy shared) Credentials.Twin (retry.assumeRoles c specs)
      (retry.assumeRoles c' specs) :=
  Attempt.twin_foldlM (fun spec _ _ _ hc => retry.twin_assumeRole hc spec) h

/-- Roles that are assumed with web identities, whatever the tokens. -/
theorem twin_assumeRoleWithWebIdentity (retry : RetryPolicy) {spec spec' : WebRoleSpec}
    (h : spec.Twin spec') (token token' : String) :
    Attempt.Twin (secrecy shared) Credentials.Twin (retry.assumeRoleWithWebIdentity spec token)
      (retry.assumeRoleWithWebIdentity spec' token') := by
  unfold assumeRoleWithWebIdentity
  refine Attempt.twin_now fun now => ?_
  refine (Attempt.twin_ofExcept (h.request token token' now)).bind fun request request' heq => ?_
  obtain ⟨token, rfl⟩ := heq
  refine .noted (.noted (.noted ((retry.twin_perform? _ _ ?_).bind fun issued issued' hissued => ?_)))
  · exact .call (.assumeRoleWithWebIdentity request token) fun r r' hr => .done hr
  · exact .noted (Attempt.twin_pure (twin_credentials hissued _))

end RetryPolicy

/-! ## Sources of credentials -/

theorem WebRoleSpec.twin_readToken (spec : WebRoleSpec) (token : Option String) (path : Path) :
    Attempt.Twin (secrecy shared) (fun _ _ => True) (spec.readToken path)
      ({ spec with token }.readToken path) := by
  unfold WebRoleSpec.readToken
  refine .noted (.yielded (Attempt.twin_readFile fun r r' hr => ?_))
  cases hr.1 with
  | error e => exact Attempt.twin_throw _
  | @ok text text' ht =>
    have hset : (Text.nonBlank text').isSome = (Text.nonBlank text).isSome := by
      rw [Text.isSome_nonBlank, Text.isSome_nonBlank, ht.blank]
    dsimp only
    revert hset
    cases Text.nonBlank text <;> cases Text.nonBlank text' <;> intro hset
    · exact Attempt.twin_throw _
    · cases hset
    · cases hset
    · exact Attempt.twin_pure trivial

/-- A token is found or missing in both. -/
theorem WebRoleSpec.Twin.findToken {spec spec' : WebRoleSpec} (h : spec.Twin spec')
    (hplain : ∀ path, spec.tokenFile = some path → path.Plain) {env env' : Environment}
    (henv : env.Twin env') : Attempt.Twin (secrecy shared) (fun _ _ => True)
      (spec.findToken env) (spec'.findToken env') := by
  obtain ⟨token, rfl, htoken⟩ := h
  unfold WebRoleSpec.findToken
  dsimp only
  revert htoken
  cases spec.token.bind Text.nonBlank <;> cases token.bind Text.nonBlank <;> intro htoken
  · cases hpath : spec.tokenFile with
    | none => exact Attempt.twin_throw _
    | some path =>
      dsimp only
      rw [Path.expand_of_plain (hplain path hpath) henv]
      exact spec.twin_readToken token _
  · cases htoken
  · cases htoken
  · exact Attempt.twin_pure trivial

namespace Settings

variable {s s' : Settings}

theorem twin_map_static {keys keys' : Option StaticKeys} (h : Option.Rel StaticKeys.Twin keys keys') :
    List.Forall₂ CredentialSource.Twin (keys.toList.map .static) (keys'.toList.map .static) := by
  cases h with
  | none => exact .nil
  | some hkeys => exact .cons (.static hkeys) .nil

/-- The same sources are tried. -/
theorem Twin.sources (h : s.Twin s') : Attempt.Twin (secrecy shared)
    (List.Forall₂ CredentialSource.Twin) s.sources s'.sources := by
  have hname : s'.profileName = s.profileName := h.eq_of_rest profileName fun _ _ _ _ => rfl
  have hrest (token token' : List CredentialSource)
      (htoken : List.Forall₂ CredentialSource.Twin token token') : List.Forall₂ CredentialSource.Twin
      (token ++ s.staticKeys.toList.map .static ++
        [.environment, .profile s.profileName s.sharedFiles.paths, .defaultChain])
      (token' ++ s'.staticKeys.toList.map .static ++
        [.environment, .profile s'.profileName s'.sharedFiles.paths, .defaultChain]) := by
    rw [hname, h.sharedFiles.paths]
    exact List.rel_append (List.rel_append htoken (twin_map_static h.staticKeys))
      (.cons .environment (.cons (.profile _ _) (.cons .defaultChain .nil)))
  have hweb := h.webRole
  have hplain := h.plain
  unfold Settings.sources
  revert hplain
  generalize s.webRole = web at hweb ⊢
  generalize s'.webRole = web' at hweb ⊢
  intro hplain
  cases hweb with
  | none => exact Attempt.twin_pure (hrest [] [] .nil)
  | @some spec spec' hspec =>
    have harn : spec'.check = spec.check := by
      obtain ⟨token, rfl, -⟩ := hspec
      rfl
    dsimp only
    rw [harn]
    refine (Attempt.twin_ofExcept (.same _)).bind fun _ _ _ => ?_
    refine (hspec.findToken (hplain spec rfl) h.environment).bind fun token token' _ => ?_
    exact Attempt.twin_pure (hrest _ _ (.cons (.webIdentity token token') .nil))

theorem Twin.evaluateBase (h : s.Twin s') {base base' : ProfileBase} (hbase : base.Twin base') :
    Attempt.Twin (secrecy shared) (Option.Rel Credentials.Twin) (s.evaluateBase retry base)
      (s'.evaluateBase retry base') := by
  cases hbase with
  | keys hc => exact Attempt.twin_pure (.some hc)
  | nothing => exact Attempt.twin_pure .none
  | environment profile =>
    refine (Attempt.twin_ofTask h.environment.findKeys).bind fun c c' hc => ?_
    cases hc with
    | none => exact Attempt.twin_throw _
    | some hc => exact Attempt.twin_pure (.some hc)
  | outside profile source =>
    have houtside : Attempt.Twin (secrecy shared) (Option.Rel Credentials.Twin)
        (Services.outside source) (Services.outside source) :=
      .call (.outside source) fun r r' hr => .done hr
    refine houtside.bind fun c c' hc => ?_
    cases hc with
    | none => exact Attempt.twin_throw _
    | some hc => exact Attempt.twin_pure (.some hc)
  | @webIdentity spec hplain =>
    have hspec : spec.Twin spec := ⟨spec.token, rfl, rfl⟩
    refine (hspec.findToken hplain h.environment).bind fun token token' _ => ?_
    exact (retry.twin_assumeRoleWithWebIdentity hspec token token').bind fun c c' hc =>
      Attempt.twin_pure (.some hc)

theorem Twin.evaluateProfile (h : s.Twin s') (name : String) :
    Attempt.Twin (secrecy shared) (Option.Rel Credentials.Twin) (s.evaluateProfile retry name)
      (s'.evaluateProfile retry name) := by
  unfold Settings.evaluateProfile
  rw [h.sharedFiles.contains]
  split
  · exact .noted (Attempt.twin_pure .none)
  refine (Attempt.twin_ofExcept (h.sharedFiles.plan name)).bind fun plan plan' hplan => ?_
  refine (h.evaluateBase hplan.base).bind fun base base' hbase => ?_
  cases hbase with
  | none => exact .noted (Attempt.twin_pure .none)
  | some hbase =>
    rw [hplan.roles]
    exact (retry.twin_assumeRoles hbase _).bind fun c c' hc => Attempt.twin_pure (.some hc)

theorem Twin.evaluate (h : s.Twin s') {source source' : CredentialSource}
    (hsource : source.Twin source') : Attempt.Twin (secrecy shared) (Option.Rel Credentials.Twin)
      (s.evaluate retry source) (s'.evaluate retry source') := by
  cases hsource with
  | static hkeys =>
    obtain ⟨secret, token, rfl⟩ := hkeys
    exact Attempt.twin_pure (.some ⟨secret, token, rfl⟩)
  | environment => exact Attempt.twin_ofTask h.environment.findKeys
  | profile name files => exact h.evaluateProfile name
  | defaultChain => exact .call (.outside .defaultChain) fun r r' hr => .done hr
  | webIdentity token token' =>
    have hweb := h.webRole
    unfold Settings.evaluate
    dsimp only
    generalize s.webRole = web at hweb ⊢
    generalize s'.webRole = web' at hweb ⊢
    cases hweb with
    | none => exact Attempt.twin_pure .none
    | some hspec =>
      exact (retry.twin_assumeRoleWithWebIdentity hspec token token').bind fun c c' hc =>
        Attempt.twin_pure (.some hc)

theorem Twin.firstOf (h : s.Twin s') {sources sources' : List CredentialSource}
    (hsources : List.Forall₂ CredentialSource.Twin sources sources') :
    Attempt.Twin (secrecy shared) Credentials.Twin (s.firstOf retry sources)
      (s'.firstOf retry sources') := by
  induction hsources with
  | nil => exact Attempt.twin_throw _
  | @cons source source' _ _ hsource _ ih =>
    have hname : source'.name = source.name := by cases hsource <;> rfl
    unfold Settings.firstOf
    rw [hname]
    refine .noted ((h.evaluate hsource).bind fun c c' hc => ?_)
    cases hc with
    | none => exact ih
    | some hc =>
      obtain ⟨secret, token, rfl⟩ := hc
      exact .noted (Attempt.twin_pure ⟨secret, token, rfl⟩)

/-- The credentials that are fetched. -/
theorem Twin.fetch (h : s.Twin s') :
    Attempt.Twin (secrecy shared) Credentials.Twin (s.fetch retry) (s'.fetch retry) := by
  unfold Settings.fetch
  rw [h.eq_of_rest Settings.roles fun _ _ _ _ => rfl]
  refine Attempt.Twin.bind ?_ fun c c' hc => retry.twin_assumeRoles hc _
  exact h.sources.bind fun _ _ hsources => h.firstOf hsources

end Settings

/-! ## The owner and the account -/

namespace RetryPolicy

theorem twin_validate (h : c.Twin c') : Attempt.Twin (secrecy shared) Eq (retry.validate c)
    (retry.validate c') := by
  unfold validate
  have hperform : Task.Twin (secrecy shared) (SameEnd Eq)
      (retry.perform (Services.getCallerIdentity c))
      (retry.perform (Services.getCallerIdentity c')) :=
    retry.twin_perform (.call (.getCallerIdentity h) fun r r' hr => .done hr)
  refine .noted ((Attempt.twin_ofTask hperform).bind fun r r' hr => ?_)
  cases hr with
  | error e => exact Attempt.twin_throw _
  | ok hcaller => exact hcaller ▸ .noted (Attempt.twin_pure rfl)

theorem twin_accountOfUser (h : c.Twin c') : Task.Twin (secrecy shared) Eq (retry.accountOfUser c)
    (retry.accountOfUser c') := by
  have hperform : Task.Twin (secrecy shared) (SameEnd Eq) (retry.perform (Services.getUser c))
      (retry.perform (Services.getUser c')) :=
    retry.twin_perform (.call (.getUser h) fun r r' hr => .done hr)
  refine .noted (Task.Twin.bind hperform fun r r' hr => ?_)
  cases hr with
  | error e =>
    dsimp only
    split
    · exact .log _ (.done rfl)
    · exact .log _ (.done rfl)
  | @ok arn arn' harn =>
    cases harn
    dsimp only
    cases Account.ofArn? arn with
    | none => exact .log _ (.done rfl)
    | some account => exact .done rfl

theorem twin_accountOfRoles (h : c.Twin c') : Task.Twin (secrecy shared) Eq (retry.accountOfRoles c)
    (retry.accountOfRoles c') := by
  have hperform : Task.Twin (secrecy shared) (SameEnd Eq) (retry.perform (Services.listRoles c 1))
      (retry.perform (Services.listRoles c' 1)) :=
    retry.twin_perform (.call (.listRoles 1 h) fun r r' hr => .done hr)
  refine .noted (Task.Twin.bind hperform fun r r' hr => ?_)
  cases hr with
  | error e => exact .log _ (.done rfl)
  | ok harns => exact harns ▸ .done rfl

theorem twin_askForAccount (h : c.Twin c') : Task.Twin (secrecy shared) Eq (retry.askForAccount c)
    (retry.askForAccount c') := by
  refine Task.Twin.bind (twin_accountOfUser h) fun r _ heq => heq ▸ ?_
  obtain ⟨_ | account, errors⟩ := r
  · refine Task.Twin.bind (twin_accountOfRoles h) fun r _ heq => heq ▸ ?_
    obtain ⟨_ | account, more⟩ := r
    · exact .log _ (.done rfl)
    · exact .done rfl
  · exact .done rfl

theorem twin_found (account : Account) :
    Task.Twin (secrecy shared) Eq (found account) (found account) :=
  .log _ (.done rfl)

theorem twin_accountOfPrincipal (h : c.Twin c') (region : String) (errors : Option (List ApiError)) :
    Task.Twin (secrecy shared) Eq (accountOfPrincipal c region errors)
      (accountOfPrincipal c' region errors) := by
  obtain ⟨secret, token, rfl⟩ := h
  unfold accountOfPrincipal
  dsimp only
  cases c.principalArn.bind Account.ofArn? with
  | some account => exact twin_found account
  | none => cases errors <;> exact .log _ (.done rfl)

/-- The account is looked for alike. -/
theorem twin_findAccount (h : c.Twin c') (region : String) (caller : Option CallerIdentity)
    (skip : Bool) : Task.Twin (secrecy shared) Eq (retry.findAccount c region caller skip)
      (retry.findAccount c' region caller skip) := by
  unfold findAccount
  cases caller.bind fun caller => Account.ofArn? caller.arn with
  | some account => exact twin_found account
  | none =>
    dsimp only
    split
    · exact twin_accountOfPrincipal h region none
    refine Task.Twin.bind (twin_askForAccount h) fun r _ heq => heq ▸ ?_
    obtain ⟨_ | account, errors⟩ := r
    · exact twin_accountOfPrincipal h region (some errors)
    · exact twin_found account

end RetryPolicy

end AwsCredentials
