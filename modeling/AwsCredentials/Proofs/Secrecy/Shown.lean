import AwsCredentials.Proofs.Secrecy.Profiles
import AwsCredentials.Proofs.Text.Shown
import AwsCredentials.Wire.Client

/-!
# Secrets in what is shown

What is shown of settings, and of everything that credentials are fetched with, holds the shared files,
whose profiles are shown with all of their values. `Settings.shown_eq_iff` says what that comes to:
secrets of the configuration and of the environment are never shown, but settings that differ in a
secret of a profile are shown differently.
-/

namespace AwsCredentials

open Text Shown

/-! ## Without secrets -/

/-- The key pair without its secret. -/
def StaticKeys.withoutSecrets (keys : StaticKeys) : StaticKeys :=
  { keys with secretKey := "", token := none }

/-- The environment with nothing in the place of its secrets. -/
def Environment.withoutSecrets (env : Environment) : Environment :=
  { env with bindings := env.bindings.map fun b => if b.1 ∈ secretNames then (b.1, "") else b }

/-- The role with nothing in the place of its token. -/
def WebRoleSpec.withoutSecrets (spec : WebRoleSpec) : WebRoleSpec :=
  { spec with token := spec.token.map fun _ => "" }

/-- The profile with nothing in the place of its secrets. -/
def Profile.withoutSecrets (p : Profile) : Profile :=
  { p with values := p.values.map fun e => if e.1 ∈ secretKeys then (e.1, "") else e }

/-- The shared files with nothing in the place of their secrets. -/
def SharedFiles.withoutSecrets (files : SharedFiles) : SharedFiles :=
  { files with profiles := files.profiles.map Profile.withoutSecrets }

/-- The settings with nothing in the place of their secrets. -/
def Settings.withoutSecrets (s : Settings) : Settings :=
  { s with
    staticKeys := s.staticKeys.map StaticKeys.withoutSecrets
    environment := s.environment.withoutSecrets
    sharedFiles := s.sharedFiles.withoutSecrets
    webRole := s.webRole.map WebRoleSpec.withoutSecrets }

/-! ## What is not shown -/

theorem StaticKeys.shown_withoutSecrets (keys : StaticKeys) :
    keys.withoutSecrets.shown = keys.shown :=
  rfl

theorem Environment.shown_withoutSecrets (env : Environment) :
    env.withoutSecrets.shown = env.shown := by
  have hkeys : env.withoutSecrets.keys = env.keys := by
    have hnames : env.withoutSecrets.bindings.map Prod.fst = env.bindings.map Prod.fst := by
      unfold withoutSecrets
      rw [List.map_map]
      refine List.map_congr_left fun b _ => ?_
      rw [Function.comp_apply]
      split <;> rfl
    rw [keys, keys, hnames]
  rw [shown, shown, hkeys]
  rfl

theorem WebRoleSpec.shown_withoutSecrets (spec : WebRoleSpec) :
    spec.withoutSecrets.shown = spec.shown := by
  have htoken : secret spec.withoutSecrets.token = secret spec.token := by
    unfold withoutSecrets
    cases spec.token <;> rfl
  rw [shown, shown, htoken]
  rfl

theorem option_map {α : Type} {f : α → α} {shown : α → String} (h : ∀ a, shown (f a) = shown a)
    (value : Option α) : option shown (value.map f) = option shown value := by
  cases value with
  | none => rfl
  | some a => simp only [Option.map_some, option, h]

/-! ## What is shown -/

theorem forall₂_of_map_eq {α β : Type} {f : α → β} {as bs : List α} (h : bs.map f = as.map f) :
    List.Forall₂ (fun a b => f b = f a) as bs := by
  have hmap : List.Forall₂ (fun x y => y = x) (as.map f) (bs.map f) := by
    rw [h]
    exact List.forall₂_same.2 fun _ _ => rfl
  rwa [List.forall₂_map_left_iff, List.forall₂_map_right_iff] at hmap

/-- What is shown of a profile tells all of its values. -/
theorem Profile.legible_shown :
    Legible (fun p q : Profile => q.withoutSecrets = p.withoutSecrets) Profile.shown := by
  intro p q u v hsame heq
  obtain ⟨name, values⟩ := p
  obtain ⟨name', values'⟩ := q
  obtain ⟨rfl, hvalues⟩ := Profile.mk.inj hsame
  obtain ⟨before, after, h⟩ := exists_record_eq "Profile" "properties" [("name", quoted name')] []
  have hshown (values : List (String × String)) :
      Profile.shown ⟨name', values⟩ = before ++ (entries quoted values ++ after) :=
    h (entries quoted values)
  rw [hshown, hshown] at heq
  simp only [String.append_assoc, String.append_right_inj] at heq
  have hkeys : List.Forall₂ (fun e e' : String × String => e'.1 = e.1 ∧ True) values values' := by
    refine (forall₂_of_map_eq hvalues).imp fun e e' he => ⟨?_, trivial⟩
    have hname := congrArg Prod.fst he
    split at hname <;> split at hname <;> exact hname
  obtain ⟨rfl, hafter⟩ := legible_entries (legible_quoted fun _ _ => True) _ _ _ _ hkeys heq
  exact ⟨rfl, (String.append_right_inj _).1 hafter⟩

/-- What is shown of shared files tells all of their values. -/
theorem SharedFiles.shown_inj {files files' : SharedFiles}
    (hsame : files'.withoutSecrets = files.withoutSecrets) :
    files'.shown = files.shown ↔ files' = files := by
  refine ⟨fun heq => ?_, fun heq => congrArg _ heq⟩
  obtain ⟨profiles, paths⟩ := files
  obtain ⟨profiles', paths'⟩ := files'
  obtain ⟨hprofiles, rfl⟩ := SharedFiles.mk.inj hsame
  obtain ⟨before, after, h⟩ :=
    exists_record_eq "SharedFiles" "profiles" [] [("paths", list quoted paths')]
  have hshown (profiles : List Profile) : SharedFiles.shown ⟨profiles, paths'⟩ =
      before ++ (entries Profile.shown (profiles.map fun p => (p.name, p)) ++ after) :=
    h _
  rw [hshown, hshown, String.append_right_inj] at heq
  have hentries : List.Forall₂ (fun p q : String × Profile => q.1 = p.1 ∧
        q.2.withoutSecrets = p.2.withoutSecrets)
      (profiles'.map fun p => (p.name, p)) (profiles.map fun p => (p.name, p)) := by
    rw [List.forall₂_map_left_iff, List.forall₂_map_right_iff]
    refine (forall₂_of_map_eq hprofiles.symm).imp fun p q hq => ⟨?_, hq⟩
    exact (congrArg Profile.name hq : q.withoutSecrets.name = p.withoutSecrets.name)
  obtain ⟨hprofiles, -⟩ := legible_entries Profile.legible_shown _ _ _ _ hentries heq
  have hsnd (profiles : List Profile) :
      (profiles.map fun p => (p.name, p)).map Prod.snd = profiles := by
    rw [List.map_map]
    exact List.map_id profiles
  rw [← hsnd profiles', hprofiles, hsnd]

namespace Settings

/-- Of the secrets, only those of the shared files are shown. -/
theorem exists_shown_eq (bare : Settings) :
    ∃ u v, ∀ s : Settings, s.withoutSecrets = bare → s.shown = u ++ (s.sharedFiles.shown ++ v) := by
  obtain ⟨u, v, h⟩ := exists_record_eq "ResolvedConfig" "shared_files"
    [("static_keys", option StaticKeys.shown bare.staticKeys), ("env", bare.environment.shown),
     ("profile", option quoted bare.profile)]
    [("region", quoted bare.region), ("assume_role", list RoleSpec.shown bare.roles),
     ("assume_role_with_web_identity", option WebRoleSpec.shown bare.webRole),
     ("skip_credentials_validation", flag bare.skipValidation),
     ("skip_requesting_account_id", flag bare.skipAccountLookup),
     ("max_attempts", toString bare.maxAttempts), ("endpoints", bare.endpoints.shown),
     ("use_fips_endpoint", flag bare.useFips), ("use_dual_stack_endpoint", flag bare.useDualStack),
     ("trace_http", flag bare.traceHttp)]
  refine ⟨u, v, fun s hs => ?_⟩
  subst hs
  rw [← h, Settings.shown]
  simp only [withoutSecrets, option_map StaticKeys.shown_withoutSecrets,
    option_map WebRoleSpec.shown_withoutSecrets, Environment.shown_withoutSecrets, List.cons_append,
    List.nil_append]

variable {s s' : Settings}

theorem shown_inj (hsame : s'.withoutSecrets = s.withoutSecrets) :
    s'.shown = s.shown ↔ s'.sharedFiles.shown = s.sharedFiles.shown := by
  obtain ⟨u, v, h⟩ := exists_shown_eq s.withoutSecrets
  rw [h s rfl, h s' hsame, String.append_right_inj, String.append_left_inj]

/-- A provider shows its settings, and else what holds no secrets. -/
theorem providerShown_inj (hsame : s'.withoutSecrets = s.withoutSecrets) (session : Session)
    (container : Container) :
    { session with settings := s' }.providerShown container =
      { session with settings := s }.providerShown container ↔ s'.shown = s.shown := by
  have hclient : (Client.mk s' container).shown = (Client.mk s container).shown :=
    show (Client.mk s'.withoutSecrets container).shown =
        (Client.mk s.withoutSecrets container).shown by
      rw [hsame]
  have hregion : s'.region = s.region :=
    show s'.withoutSecrets.region = s.withoutSecrets.region by rw [hsame]
  obtain ⟨u, v, hcache⟩ := exists_partialRecord_eq "CachedProvider" "inner" [] []
  obtain ⟨u', v', hpipeline⟩ := exists_record_eq "CredentialPipeline" "config" []
    [("authenticator", record "Authenticator"
       [("sts", (Client.mk s container).shown), ("retry", session.retry.shown),
        ("time", "SystemTimeSource")]),
     ("delegate", record "SdkDelegate" [("region", quoted s.region)])]
  have hshown (t : Settings) (hclient : (Client.mk t container).shown = (Client.mk s container).shown)
      (hregion : t.region = s.region) : { session with settings := t }.providerShown container =
        u ++ (u' ++ (t.shown ++ v') ++ v) := by
    rw [← hcache, ← hpipeline]
    simp only [Session.providerShown, Cache.shown, Session.client, Session.region, hclient, hregion,
      List.nil_append]
  rw [hshown s rfl rfl, hshown s' hclient hregion, String.append_right_inj, String.append_left_inj,
    String.append_right_inj, String.append_left_inj]

/-- Let two settings differ at most in their secrets. Their shared files are shown alike only if they
are the same, and so are the settings themselves and the providers that fetch with them. -/
theorem shown_eq_iff (hsame : s'.withoutSecrets = s.withoutSecrets) :
    (s'.sharedFiles.shown = s.sharedFiles.shown ↔ s'.sharedFiles = s.sharedFiles) ∧
    (s'.shown = s.shown ↔ s'.sharedFiles = s.sharedFiles) ∧
    ∀ (session : Session) (container : Container),
      { session with settings := s' }.providerShown container =
        { session with settings := s }.providerShown container ↔ s'.sharedFiles = s.sharedFiles := by
  have hfiles : s'.sharedFiles.shown = s.sharedFiles.shown ↔ s'.sharedFiles = s.sharedFiles :=
    SharedFiles.shown_inj (congrArg Settings.sharedFiles hsame)
  refine ⟨hfiles, (shown_inj hsame).trans hfiles, fun session container => ?_⟩
  exact ((providerShown_inj hsame session container).trans (shown_inj hsame)).trans hfiles

/-- The secrets of a configuration and of an environment are not shown. -/
theorem configured_secrets_are_hidden :
    let s (secret : String) : Settings := { (default : Settings) with
      staticKeys := some ⟨"AKIA", secret, some secret⟩
      environment := ⟨[("AWS_SECRET_ACCESS_KEY", secret)], none⟩
      webRole := some { arn := "a", token := some secret } }
    (s "two").withoutSecrets = (s "one").withoutSecrets ∧ (s "two").shown = (s "one").shown := by
  intro s
  have hsame : (s "two").withoutSecrets = (s "one").withoutSecrets := by decide +kernel
  exact ⟨hsame, (shown_eq_iff hsame).2.1.2 rfl⟩

/-- The secret of a profile is shown by the shared files, by the settings and by a provider. -/
theorem profile_secret_is_shown :
    let s (secret : String) : Settings := { (default : Settings) with
      sharedFiles := ⟨[⟨"default", [("aws_secret_access_key", secret)]⟩], []⟩ }
    let session (secret : String) : Session := {
      settings := s secret, retry := .ofAttempts 1, cache := .holding none, origin := .sharedProfile
      account := ⟨"", "aws"⟩, caller := none, accountError := none }
    (s "two").withoutSecrets = (s "one").withoutSecrets ∧
      (s "one").sharedFiles.shown = "SharedFiles \x7b profiles: \x7b\"default\": Profile \x7b name: " ++
        "\"default\", properties: \x7b\"aws_secret_access_key\": \"one\"\x7d \x7d\x7d, paths: [] \x7d" ∧
      (s "two").sharedFiles.shown ≠ (s "one").sharedFiles.shown ∧
      (s "two").shown ≠ (s "one").shown ∧
      (session "two").providerShown .unset ≠ (session "one").providerShown .unset := by
  intro s session
  refine ⟨?_, ?_, ?_, ?_, ?_⟩ <;> decide +kernel

end Settings

end AwsCredentials
