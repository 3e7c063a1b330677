import AwsCredentials.Proofs.Session.Threading
import AwsCredentials.Proofs.SharedFiles.Load

/-!
# Roles that cannot be assumed

A role without an ARN cannot be assumed, and neither can a web identity role without a token. Both
are found out before anything leaves the process, wherever such a role stands and whatever else is
configured (`resolve_refuses_unfit_role`): the settings do not settle, or the sources of the base
cannot be listed. `Attempt.Ends` says that an attempt comes to an end with nothing but reports.
-/

namespace AwsCredentials

variable {I : Interface} {α β : Type} {content : Path → Except ReadError String}

namespace Attempt

/-- Whether an attempt comes to `r` wherever the files have some content, whoever answers the calls,
unless a deadline cuts it off. It makes no call: it leaves reports and nothing else. -/
structure Ends (content : Path → Except ReadError String) (x : Attempt I α)
    (r : Except Error α) : Prop where
  run : ∀ {σ : Type} (host : Host I σ) (deadline : Option Nat) (w : World I σ),
    w.files = content → ∃ out events, x.run.run host deadline w = (out, { w with events }) ∧
      (out = some r ∨ out = none ∧ deadline ≠ none)

variable {x : Attempt I α} {f : α → Attempt I β}

theorem ComesTo.ends {r : Except Error α} (h : ComesTo content x r) : Ends content x r :=
  ⟨fun host deadline w hw =>
    let ⟨events, hrun⟩ := h.run host deadline w hw
    ⟨some r, events, hrun, .inl rfl⟩⟩

theorem Ends.bind {a : α} {r : Except Error β} (hx : Ends content x (.ok a))
    (hf : Ends content (f a) r) : Ends content (x >>= f) r := by
  refine ⟨fun host deadline w hw => ?_⟩
  have hbind : (x >>= f).run.run host deadline w = (x.run.bind _).run host deadline w := rfl
  obtain ⟨out, events, hrun, rfl | ⟨rfl, hlate⟩⟩ := hx.run host deadline w hw
  · obtain ⟨out, events', hrun', hout⟩ := hf.run host deadline { w with events } hw
    refine ⟨out, events', ?_, hout⟩
    rw [hbind, Task.run_bind, hrun]
    exact hrun'
  · refine ⟨none, events, ?_, .inr ⟨rfl, hlate⟩⟩
    rw [hbind, Task.run_bind, hrun]

theorem Ends.bind_error {e : Error} (hx : Ends content x (.error e)) :
    Ends content (x >>= f) (.error e) := by
  refine ⟨fun host deadline w hw => ?_⟩
  have hbind : (x >>= f).run.run host deadline w = (x.run.bind _).run host deadline w := rfl
  obtain ⟨out, events, hrun, rfl | ⟨rfl, hlate⟩⟩ := hx.run host deadline w hw
  · refine ⟨some (.error e), events, ?_, .inl rfl⟩
    rw [hbind, Task.run_bind, hrun]
    rfl
  · refine ⟨none, events, ?_, .inr ⟨rfl, hlate⟩⟩
    rw [hbind, Task.run_bind, hrun]

theorem ends_yield : Ends content (ofTask Task.yield : Attempt I Unit) (.ok ()) := by
  refine ⟨fun host deadline w hw => ?_⟩
  have hpause : (ofTask Task.yield : Attempt I Unit).run.run host deadline w =
      if w.late deadline then (none, w) else (some (.ok ()), w) := rfl
  cases deadline with
  | none => exact ⟨some (.ok ()), w.events, rfl, .inl rfl⟩
  | some t =>
    rw [hpause]
    split
    · exact ⟨none, w.events, rfl, .inr ⟨rfl, nofun⟩⟩
    · exact ⟨some (.ok ()), w.events, rfl, .inl rfl⟩

theorem comesTo_ofExcept (r : Except Error α) : ComesTo content (ofExcept r : Attempt I α) r :=
  ⟨fun _ _ w _ => ⟨w.events, rfl⟩⟩

end Attempt

open Attempt

/-! ## Tokens -/

/-- Whether a role has no token: none that says something is given, and the token file, if there is
one, cannot be read as text or says nothing. -/
def WebRoleSpec.Tokenless (spec : WebRoleSpec) (env : Environment)
    (content : Path → Except ReadError String) : Prop :=
  (∀ token ∈ spec.token, Text.blank token = true) ∧
  ∀ path ∈ spec.tokenFile, ∀ text, content (path.expand env) = .ok text → Text.blank text = true

theorem Text.nonBlank_of_blank {s : String} (h : Text.blank s = true) : Text.nonBlank s = none :=
  if_pos h

/-- A blank file and one that is no text are refused alike. -/
theorem WebRoleSpec.exists_ends_readToken (spec : WebRoleSpec) {path : Path}
    (h : ∀ text, content path = .ok text → Text.blank text = true) :
    ∃ e, e.isConfiguration = true ∧
      Ends content (spec.readToken path : Attempt I String) (.error e) := by
  have read {rest : Except ReadError String → Attempt I String} {e : Error}
      (hrest : ComesTo content (rest (content path)) (.error e)) :
      Ends content (do
        note (.debug .roles ("Reading web identity token from " ++ path))
        ofTask Task.yield
        rest (← ofTask (Task.readFile path))) (.error e) :=
    (comesTo_note _).ends.bind (ends_yield.bind ((comesTo_readFile path).bind hrest).ends)
  cases hread : content path with
  | error e =>
    refine ⟨
      spec.tokenFileError ("reading web identity token file " ++ path ++ ": " ++ e.message), rfl,
      read ?_⟩
    rw [hread]
    exact comesTo_throw _
  | ok text =>
    refine ⟨spec.tokenFileError ("web identity token file " ++ path ++ " is empty"), rfl, read ?_⟩
    rw [hread]
    dsimp only
    rw [Text.nonBlank_of_blank (h text hread)]
    exact comesTo_throw _

theorem WebRoleSpec.Tokenless.exists_ends_findToken {spec : WebRoleSpec} {env : Environment}
    (h : spec.Tokenless env content) : ∃ e, e.isConfiguration = true ∧
      Ends content (spec.findToken env : Attempt I String) (.error e) := by
  have hgiven : spec.token.bind Text.nonBlank = none :=
    Option.bind_eq_none_iff.2 fun token htoken => Text.nonBlank_of_blank (h.1 token htoken)
  unfold findToken
  rw [hgiven]
  cases hfile : spec.tokenFile with
  | none => exact ⟨_, rfl, (comesTo_throw _).ends⟩
  | some path => exact spec.exists_ends_readToken (h.2 path hfile)

/-! ## Sources -/

/-- Whether a web identity role has no ARN or no token. -/
def WebRoleSpec.Unfit (spec : WebRoleSpec) (env : Environment)
    (content : Path → Except ReadError String) : Prop :=
  Text.blank spec.arn = true ∨ spec.Tokenless env content

/-- With an unfit web identity role there is no base, and nothing is asked for one. -/
theorem Settings.exists_ends_fetch {s : Settings} (retry : RetryPolicy) {spec : WebRoleSpec}
    (hweb : s.webRole = some spec) (h : spec.Unfit s.environment content) :
    ∃ e, e.isConfiguration = true ∧ Ends content (s.fetch retry) (.error e) := by
  have sources : ∃ e, e.isConfiguration = true ∧
      Ends content (s.sources : ServiceAttempt (List CredentialSource)) (.error e) := by
    unfold Settings.sources
    rw [hweb]
    cases hcheck : checkRoleArn spec.arn with
    | error e =>
      refine ⟨e, early_checkRoleArn _ e hcheck, Ends.bind_error ?_⟩
      rw [WebRoleSpec.check, hcheck]
      exact (comesTo_ofExcept _).ends
    | ok _ =>
      obtain hblank | htoken := h
      · cases hcheck.symm.trans (checkRoleArn_of_blank hblank)
      obtain ⟨e, he, hends⟩ := htoken.exists_ends_findToken (I := Services)
      have hchecked : Ends content (Attempt.ofExcept spec.check : ServiceAttempt Unit) (.ok ()) := by
        rw [WebRoleSpec.check, hcheck]
        exact (comesTo_ofExcept _).ends
      exact ⟨e, he, hchecked.bind hends.bind_error⟩
  obtain ⟨e, he, hends⟩ := sources
  exact ⟨e, he, Ends.bind_error hends.bind_error⟩

/-! ## Settings -/

theorem Settings.roles_of_ofParts {config : Config} {env : Environment} {files : SharedFiles}
    {s : Settings} (h : ofParts config env files = .ok s) :
    s.roles = config.roles ∧ s.webRole = config.webRole ∧ s.environment = env := by
  obtain ⟨keys, attempts, useFips, useDualStack, -, rfl⟩ := exists_withFound_of_ofParts _ _ _ h
  exact ⟨rfl, rfl, rfl⟩

theorem Settings.comesTo_settled (config : Config) (env : Environment) (files : SharedFiles) :
    ComesTo content (settled config env files : Attempt I Settings) (ofParts config env files) := by
  have rest : ComesTo content (do
      let s ← Attempt.ofExcept (ofParts config env files)
      note s.summary
      return s : Attempt I Settings) (ofParts config env files) := by
    cases h : ofParts config env files with
    | error e => exact (comesTo_ofExcept _).bind_error
    | ok s => exact (comesTo_ofExcept _).bind ((comesTo_note _).bind (comesTo_pure s))
  unfold settled
  dsimp only
  split
  · exact (comesTo_note _).bind rest
  · exact rest

theorem SharedFiles.early_loaded (files : List (FileKind × Path)) :
    Early (loaded content files) := by
  unfold loaded
  split
  · next e h =>
    obtain ⟨file, -, hfile⟩ := List.exists_of_findSome?_eq_some h
    unfold error? at hfile
    split at hfile
    · cases hfile
    · cases hfile
      exact early_error rfl
  · exact early_ok _

/-- Settled settings keep the roles and the environment. -/
theorem Settings.exists_comesTo_resolve (content : Path → Except ReadError String) (config : Config)
    (env : Environment) : ∃ r, ComesTo content (resolve config env : Attempt I Settings) r ∧
      Early r ∧ ∀ s, r = .ok s →
        s.roles = config.roles ∧ s.webRole = config.webRole ∧ s.environment = env := by
  obtain ⟨configFiles, credentialsFiles, hparts⟩ : ∃ configFiles credentialsFiles,
      (resolve config env : Attempt I Settings) =
        SharedFiles.load configFiles credentialsFiles >>= settled config env := ⟨_, _, rfl⟩
  rw [hparts]
  have hload := @SharedFiles.comesTo_load I content configFiles credentialsFiles
  have early := @SharedFiles.early_loaded content
    (SharedFiles.ordered configFiles credentialsFiles)
  cases hfiles : SharedFiles.loaded content (SharedFiles.ordered configFiles credentialsFiles) with
  | error e =>
    rw [hfiles] at hload early
    exact ⟨.error e, hload.bind_error, early_error (early e rfl), fun s hs => by cases hs⟩
  | ok files =>
    rw [hfiles] at hload
    exact ⟨_, hload.bind (comesTo_settled config env files), early_ofParts config env files,
      fun s hs => roles_of_ofParts hs⟩

/-- What settling a configuration comes to: settings with its roles, all of which have an ARN, or a
configuration error. -/
theorem Session.exists_comesTo_settle (content : Path → Except ReadError String) (config : Config)
    (env : Environment) : ∃ r, ComesTo content (settle config env : Attempt I Settings) r ∧
      Early r ∧ ∀ s, r = .ok s →
        s.roles = config.roles ∧ s.webRole = config.webRole ∧ s.environment = env ∧
          ∀ spec ∈ s.roles, spec.check = .ok () := by
  obtain ⟨r, hresolve, early, hok⟩ := Settings.exists_comesTo_resolve (I := I) content config env
  cases r with
  | error e =>
    exact ⟨.error e, hresolve.bind_error, early_error (early e rfl), fun s hs => by cases hs⟩
  | ok s =>
    cases hchecks : s.roles.forM RoleSpec.check with
    | error e =>
      have hfails : ComesTo content
          (Attempt.ofExcept (s.roles.forM RoleSpec.check) : Attempt I Unit) (.error e) := by
        rw [hchecks]
        exact comesTo_ofExcept _
      exact ⟨.error e, hresolve.bind hfails.bind_error,
        early_error (early_forM_check s.roles e hchecks), fun s' hs' => by cases hs'⟩
    | ok _ =>
      have hpasses : ComesTo content
          (Attempt.ofExcept (s.roles.forM RoleSpec.check) : Attempt I Unit) (.ok ()) := by
        rw [hchecks]
        exact comesTo_ofExcept _
      refine ⟨.ok s, hresolve.bind (hpasses.bind ((comesTo_note _).bind (comesTo_pure s))),
        early_ok s, ?_⟩
      rintro _ ⟨⟩
      obtain ⟨hroles, hwebRole, henv⟩ := hok s rfl
      exact ⟨hroles, hwebRole, henv, check_of_forM hchecks⟩

/-! ## Resolutions -/

/-- Whether a configuration has a role that cannot be assumed. -/
def Config.HasUnfitRole (config : Config) (env : Environment)
    (content : Path → Except ReadError String) : Prop :=
  (∃ spec ∈ config.roles, Text.blank spec.arn = true) ∨
    ∃ spec, config.webRole = some spec ∧ spec.Unfit env content

namespace Session

/-- A configuration with a role that cannot be assumed, wherever it stands, fails with a
configuration error. The error is the same whoever answers the calls, since none is made: the world is
left as it was but for the reports. -/
theorem resolve_refuses_unfit_role (config : Config) (env : Environment)
    (given : Option RetryPolicy) (content : Path → Except ReadError String)
    (h : config.HasUnfitRole env content) :
    ∃ e : Error, e.isConfiguration = true ∧
      ∀ {σ : Type} (host : Host Services σ) (deadline : Option Nat) (w : World Services σ),
        w.files = content → ∃ out events,
          (resolve config env given).run.run host deadline w = (out, { w with events }) ∧
          (out = some (.error e) ∨ out = none ∧ deadline ≠ none) := by
  obtain ⟨r, hsettle, early, hok⟩ := exists_comesTo_settle (I := Services) content config env
  have fails : ∃ e, e.isConfiguration = true ∧
      Ends content (resolve config env given) (.error e) := by
    cases r with
    | error e => exact ⟨e, early e rfl, hsettle.ends.bind_error⟩
    | ok s =>
      obtain ⟨hroles, hwebRole, henv, hchecked⟩ := hok s rfl
      obtain ⟨spec, hspec, hblank⟩ | ⟨spec, hspec, hunfit⟩ := h
      · rw [← hroles] at hspec
        cases (hchecked spec hspec).symm.trans (checkRoleArn_of_blank hblank)
      · obtain ⟨e, he, hends⟩ := Settings.exists_ends_fetch (retryPolicy given s)
          (hwebRole.trans hspec) (henv.symm ▸ hunfit)
        exact ⟨e, he, hsettle.ends.bind hends.bind_error⟩
  obtain ⟨e, he, hends⟩ := fails
  exact ⟨e, he, hends.run⟩

/-- A token file that is there and blank is no token, although there are keys that would do. -/
theorem blank_token_file_refused :
    let spec : WebRoleSpec :=
      { arn := "arn:aws:iam::111111111111:role/A", token := some " ", tokenFile := some "$DIR/token" }
    let config : Config :=
      { accessKey := some "AKIA", secretKey := some "secret", webRole := some spec }
    let env : Environment := ⟨[("DIR", "tokens")], none⟩
    let content : Path → Except ReadError String := fun path =>
      if path = "tokens/token" then .ok "\n" else .error .notFound
    let w : World Services Unit := .start () ⟨0⟩ content
    content (Path.expand "$DIR/token" env) = .ok "\n" ∧ config.HasUnfitRole env content ∧
      ∃ e events, e.isConfiguration = true ∧
        (resolve config env none).run.run issuing none w = (some (.error e), { w with events }) := by
  intro spec config env content w
  have tokenless : spec.Tokenless env content := by
    refine ⟨by decide, fun path _ text htext => ?_⟩
    dsimp only [content] at htext
    split at htext
    · rw [← Except.ok.inj htext]
      decide
    · cases htext
  have unfit : config.HasUnfitRole env content := .inr ⟨spec, rfl, .inr tokenless⟩
  obtain ⟨e, he, hrun⟩ := resolve_refuses_unfit_role config env none content unfit
  obtain ⟨out, events, hout, rfl | ⟨-, hlate⟩⟩ := hrun issuing none w rfl
  · exact ⟨by decide +kernel, unfit, e, events, he, hout⟩
  · exact absurd rfl hlate

end Session

end AwsCredentials
