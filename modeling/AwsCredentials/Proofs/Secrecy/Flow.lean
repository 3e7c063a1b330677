import AwsCredentials.Proofs.Secrecy.Session

/-!
# Secrets do not flow

A session that is resolved and then used, in two runs whose inputs differ at most in secrets:
`Session.secrets_do_not_flow` says that nothing else differs afterwards. What can be told apart is
written with nothing in the place of the secrets (`withoutSecrets`).
-/

namespace AwsCredentials

/-! ## What can be told apart -/

/-- Credentials without their secrets. -/
def Credentials.withoutSecrets (c : Credentials) : Credentials :=
  { c with secretAccessKey := "", sessionToken := none }

/-- A call without the secrets of its signer and without a web identity token. -/
def ServiceCall.withoutSecrets : ServiceCall → ServiceCall
  | .assumeRole signer request => .assumeRole signer.withoutSecrets request
  | .assumeRoleWithWebIdentity request => .assumeRoleWithWebIdentity { request with token := "" }
  | .getCallerIdentity signer => .getCallerIdentity signer.withoutSecrets
  | .getUser signer => .getUser signer.withoutSecrets
  | .listRoles signer maxItems => .listRoles signer.withoutSecrets maxItems
  | .outside source => .outside source

/-- The calls of a world without their secrets, with the times at which they were made. -/
def World.callsWithoutSecrets {σ : Type} (w : World Services σ) : List (ServiceCall × Nat) :=
  w.calls.toList.map fun made => (ServiceCall.withoutSecrets made.op, made.time)

/-- What a session tells of itself: its region, its account, where its credentials came from, their
owner, and why the account is not known. -/
def Session.told (s : Session) : String × Account × Origin × Option CallerIdentity × Option Error :=
  (s.region, s.account, s.origin, s.caller, s.accountError)

theorem Credentials.Twin.withoutSecrets {c c' : Credentials} (h : c.Twin c') :
    c'.withoutSecrets = c.withoutSecrets := by
  obtain ⟨secret, token, rfl⟩ := h
  rfl

theorem ServiceCall.Twin.withoutSecrets {call call' : ServiceCall} (h : call.Twin call') :
    call'.withoutSecrets = call.withoutSecrets := by
  cases h with
  | assumeRole request hc => simp only [ServiceCall.withoutSecrets, hc.withoutSecrets]
  | assumeRoleWithWebIdentity request token => rfl
  | getCallerIdentity hc => simp only [ServiceCall.withoutSecrets, hc.withoutSecrets]
  | getUser hc => simp only [ServiceCall.withoutSecrets, hc.withoutSecrets]
  | listRoles maxItems hc => simp only [ServiceCall.withoutSecrets, hc.withoutSecrets]
  | outside source => rfl

theorem Session.Twin.told {s s' : Session} (h : s.Twin s') : s'.told = s.told := by
  have hregion : s'.region = s.region :=
    h.settings.eq_of_rest Settings.region fun _ _ _ _ => rfl
  obtain ⟨settings, cache, rfl⟩ := h.same
  unfold Session.told
  rw [hregion]

theorem World.Twin.callsWithoutSecrets {σ : Type} {S : σ → σ → Prop} {shared : Path → Prop}
    {w w' : World Services σ} (h : World.Twin (secrecy shared) S w w') :
    w'.callsWithoutSecrets = w.callsWithoutSecrets := by
  have hcalls := h.calls
  unfold World.callsWithoutSecrets
  generalize w.calls.toList = calls at hcalls ⊢
  generalize w'.calls.toList = calls' at hcalls ⊢
  induction hcalls with
  | nil => rfl
  | cons hmade _ ih =>
    obtain ⟨hop, htime⟩ := hmade
    rw [List.map_cons, List.map_cons, ih, ServiceCall.Twin.withoutSecrets hop, htime]

theorem SameEnd.map_eq {ε α β : Type} {R : α → α → Prop} {f : α → β} {x y : Except ε α}
    (h : SameEnd R x y) (hf : ∀ a b, R a b → f b = f a) : y.map f = x.map f := by
  cases h with
  | error e => rfl
  | ok hab => exact congrArg Except.ok (hf _ _ hab)

/-! ## Sessions in use -/

/-- What is done with a session. -/
inductive SessionMove where
  /-- Its credentials are asked for, until a deadline comes if there is one. -/
  | credentials (deadline : Option Nat)
  /-- The clock is set. -/
  | clock (now : Instant)

namespace Session

variable {σ : Type}

/-- Uses a session: the answers to those who ask for credentials, where they come, and the world
afterwards. -/
def use (host : Host Services σ) :
    List SessionMove → Session → World Services σ →
      List (Option (Except Error Credentials)) × World Services σ
  | [], _, w => ([], w)
  | .clock now :: rest, s, w => use host rest s { w with clock := now }
  | .credentials deadline :: rest, s, w =>
    match s.credentials.run host deadline w with
    | (some (s, answer), w) =>
      let (answers, w) := use host rest s w
      (answer :: answers, w)
    | (none, w) =>
      let (answers, w) := use host rest s w
      (none :: answers, w)

/-- What a resolution and the use of its session come to. -/
structure Used (σ : Type) where
  /-- The session or the error, if it comes. -/
  result : Option (Except Error Session)
  answers : List (Option (Except Error Credentials))
  world : World Services σ

/-- Resolves a session and uses it. -/
def resolveAndUse (host : Host Services σ) (deadline : Option Nat) (config : Config)
    (env : Environment) (retry : Option RetryPolicy) (moves : List SessionMove)
    (w : World Services σ) : Used σ :=
  match (resolve config env retry).run.run host deadline w with
  | (some (.ok s), w) =>
    let (answers, w) := s.use host moves w
    ⟨some (.ok s), answers, w⟩
  | (r, w) => ⟨r, [], w⟩

variable {S : σ → σ → Prop} {shared : Path → Prop} {host host' : Host Services σ}
  {w w' : World Services σ}

/-- Whatever is done with them, twins answer alike. -/
theorem Twin.use (hhost : Host.Twin (secrecy shared) S host host') (moves : List SessionMove)
    {s s' : Session} (h : s.Twin s') (hw : World.Twin (secrecy shared) S w w') :
    List.Forall₂ (Option.Rel (SameEnd Credentials.Twin)) (s.use host moves w).1
        (s'.use host' moves w').1 ∧
      World.Twin (secrecy shared) S (s.use host moves w).2 (s'.use host' moves w').2 := by
  induction moves generalizing s s' w w' with
  | nil => exact ⟨.nil, hw⟩
  | cons move rest ih =>
    cases move with
    | clock now => exact ih h { hw with clock := rfl }
    | credentials deadline =>
      obtain ⟨hanswer, hw⟩ := h.credentials.run hhost deadline hw
      unfold Session.use
      generalize s.credentials.run host deadline w = r at hanswer hw ⊢
      generalize s'.credentials.run host' deadline w' = r' at hanswer hw ⊢
      obtain ⟨r, v⟩ := r
      obtain ⟨r', v'⟩ := r'
      dsimp only at hanswer hw
      cases hanswer with
      | none =>
        obtain ⟨hanswers, hw⟩ := ih h hw
        exact ⟨.cons .none hanswers, hw⟩
      | some hr =>
        obtain ⟨hs, hanswer⟩ := hr
        obtain ⟨hanswers, hw⟩ := ih hs hw
        exact ⟨.cons hanswer hanswers, hw⟩

/-- Nothing but secrets depends on secrets. Let two configurations and environments differ at most in
their secrets, with no path among them that asks for one, and likewise the texts of the shared files.
Let services answer alike what is alike. Then a resolution and whatever is done with its session
report the same events, make the same calls at the same times, signed with the same keys, and end
with the same error or with sessions and credentials that differ in secrets only. -/
theorem secrets_do_not_flow {config config' : Config} {env env' : Environment}
    (hconfig : config.Twin config') (henv : env.Twin env') (hplain : config.PlainPaths env)
    (hhost : Host.Twin (secrecy (config.Shares env)) S host host')
    (hw : World.Twin (secrecy (config.Shares env)) S w w') (retry : Option RetryPolicy)
    (deadline : Option Nat) (moves : List SessionMove) :
    let used := resolveAndUse host deadline config env retry moves w
    let used' := resolveAndUse host' deadline config' env' retry moves w'
    used'.world.events = used.world.events ∧
      used'.world.callsWithoutSecrets = used.world.callsWithoutSecrets ∧
      used'.result.map (Except.map told) = used.result.map (Except.map told) ∧
      used'.answers.map (Option.map (Except.map Credentials.withoutSecrets)) =
        used.answers.map (Option.map (Except.map Credentials.withoutSecrets)) := by
  intro used used'
  suffices h : Option.Rel (SameEnd Twin) used.result used'.result ∧
      List.Forall₂ (Option.Rel (SameEnd Credentials.Twin)) used.answers used'.answers ∧
      World.Twin (secrecy (config.Shares env)) S used.world used'.world by
    obtain ⟨hresult, hanswers, hworld⟩ := h
    refine ⟨hworld.events, hworld.callsWithoutSecrets, ?_, ?_⟩
    · generalize used.result = r at hresult ⊢
      generalize used'.result = r' at hresult ⊢
      cases hresult with
      | none => rfl
      | some hr => exact congrArg some (hr.map_eq fun _ _ hs => hs.told)
    · generalize used.answers = r at hanswers ⊢
      generalize used'.answers = r' at hanswers ⊢
      induction hanswers with
      | nil => rfl
      | cons hanswer _ ih =>
        rw [List.map_cons, List.map_cons, ih]
        cases hanswer with
        | none => rfl
        | some hr =>
          simp only [Option.map_some, hr.map_eq fun _ _ hc => hc.withoutSecrets]
  obtain ⟨hresult, hw⟩ := (twin_resolve hconfig henv hplain retry).run hhost deadline hw
  subst used used'
  unfold resolveAndUse
  generalize (resolve config env retry).run.run host deadline w = r at hresult hw ⊢
  generalize (resolve config' env' retry).run.run host' deadline w' = r' at hresult hw ⊢
  obtain ⟨r, v⟩ := r
  obtain ⟨r', v'⟩ := r'
  dsimp only at hresult hw
  cases hresult with
  | none => exact ⟨.none, .nil, hw⟩
  | some hr =>
    cases hr with
    | error e => exact ⟨.some (.error e), .nil, hw⟩
    | ok hs =>
      obtain ⟨hanswers, hw⟩ := hs.use hhost moves hw
      exact ⟨.some (.ok hs), hanswers, hw⟩

/-- Services that put a secret into all credentials. Those that they issue have expired. -/
def confiding (secret : String) : Host Services Unit where
  answer op _ _ :=
    let issued (roleArn : String) : IssuedCredentials := ⟨roleArn, secret, secret, ⟨0⟩, none⟩
    let answer : ServiceCall.Answer op := match op with
      | .assumeRole _ request => .ok (issued request.roleArn)
      | .assumeRoleWithWebIdentity request => .ok (issued request.roleArn)
      | .getCallerIdentity _ => .ok ⟨"123456789012", "arn:aws:iam::123456789012:user/u", "u"⟩
      | .getUser _ => .ok "arn:aws:iam::123456789012:user/u"
      | .listRoles _ _ => .ok []
      | .outside _ => .ok (some (.longLived "AKIA" secret (some secret) .defaultChain))
    ⟨answer, some Duration.zero, ()⟩

theorem twin_confiding (shared : Path → Prop) (secret secret' : String) :
    Host.Twin (secrecy shared) (fun _ _ => True) (confiding secret) (confiding secret') := by
  intro op op' now s s' hop _
  cases hop with
  | assumeRole request hc => exact ⟨.ok ⟨_, _, rfl⟩, rfl, trivial⟩
  | assumeRoleWithWebIdentity request token => exact ⟨.ok ⟨_, _, rfl⟩, rfl, trivial⟩
  | getCallerIdentity hc => exact ⟨.ok rfl, rfl, trivial⟩
  | getUser hc => exact ⟨.ok rfl, rfl, trivial⟩
  | listRoles maxItems hc => exact ⟨.ok rfl, rfl, trivial⟩
  | outside source => exact ⟨.ok (.some ⟨_, _, rfl⟩), rfl, trivial⟩

/-- A secret in the configuration, in the environment, in a shared file and in all answers: a role is
assumed and once more when its credentials have expired, and all that differs is the secret. -/
theorem refresh_hides_secrets :
    let config (secret : String) : Config :=
      { token := some secret, credentialsFiles := ["keys"], roles := [{ arn := "a" }] }
    let env (secret : String) : Environment := ⟨[("AWS_SESSION_TOKEN", secret)], none⟩
    let text (secret : String) :=
      "[default]\naws_access_key_id=AKIA\naws_secret_access_key=" ++ secret ++ "\n"
    let used (secret : String) := resolveAndUse (confiding secret) none (config secret) (env secret)
      none [.clock ⟨5⟩, .credentials none] (.start () ⟨0⟩ fun _ => .ok (text secret))
    (used "one").world.calls.size = 3 ∧ (used "two").world.events = (used "one").world.events ∧
      (used "two").world.callsWithoutSecrets = (used "one").world.callsWithoutSecrets := by
  intro config env text used
  have hconfig : (config "one").Twin (config "two") := ⟨none, some "two", none, rfl, rfl, .none⟩
  have henv : (env "one").Twin (env "two") := by
    have other (secret : String) {key : String} (hkey : key ≠ "AWS_SESSION_TOKEN") :
        (env secret).get? key = none := by
      simp [env, Environment.get?, List.lookup_cons, beq_eq_false_iff_ne.2 hkey]
    refine ⟨rfl, fun key hkey => ?_, fun key => ?_⟩
    · have hne : key ≠ "AWS_SESSION_TOKEN" := by
        rintro rfl
        exact hkey (by decide)
      rw [other "one" hne, other "two" hne]
    · obtain rfl | hne := eq_or_ne key "AWS_SESSION_TOKEN"
      · decide +kernel
      · rw [other "one" hne, other "two" hne]
  have hplain : (config "one").PlainPaths (env "one") := by
    have plain : Path.Plain "keys" := Path.plain_of_not_infix (by decide +kernel)
    exact ⟨fun path hpath => List.mem_singleton.1 hpath ▸ plain, nofun⟩
  have hread (secret : String) (h : secret = "one" ∨ secret = "two") :
      Ini.Document.read (SharedFiles.withoutMark (text secret)) = .ok [⟨none, []⟩, ⟨some "default",
        [("aws_access_key_id", "AKIA"), ("aws_secret_access_key", secret)]⟩] := by
    obtain rfl | rfl := h
    · decide +kernel
    · decide +kernel
  have hw : World.Twin (secrecy ((config "one").Shares (env "one"))) (fun _ _ => True)
      (World.start () ⟨0⟩ fun _ => .ok (text "one"))
      (World.start () ⟨0⟩ fun _ => .ok (text "two")) := by
    refine ⟨trivial, rfl, fun path => ⟨.ok ⟨by decide +kernel, ?_⟩, fun _ content hcontent => ?_⟩,
      rfl, rfl, .nil⟩
    · rw [hread "one" (.inl rfl), hread "two" (.inr rfl)]
      refine .ok (.cons (.refl _) (.cons ⟨rfl, ?_⟩ .nil))
      refine .cons (.refl _) (.cons ⟨rfl, fun hkey => ?_, by decide +kernel⟩ .nil)
      exact absurd (by decide) hkey
    · obtain rfl := Except.ok.inj hcontent
      intro document hdocument
      cases (hread "one" (.inl rfl)).symm.trans hdocument
      have other : ∀ s ∈ [⟨none, []⟩, (⟨some "default", [("aws_access_key_id", "AKIA"),
          ("aws_secret_access_key", "one")]⟩ : Ini.Section)],
          ∀ e ∈ s.entries, Text.trim e.1 ≠ "web_identity_token_file" := by decide +kernel
      exact fun s hs e he hkey => absurd hkey (other s hs e he)
  obtain ⟨hevents, hcalls, -, -⟩ := secrets_do_not_flow hconfig henv hplain
    (twin_confiding _ "one" "two") hw none none [.clock ⟨5⟩, .credentials none]
  exact ⟨by decide +kernel, hevents, hcalls⟩

end Session

end AwsCredentials
