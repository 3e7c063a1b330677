import AwsCredentials.Proofs.Secrecy.Profiles

/-!
# Secrets of the settings

Configurations that differ at most in their secrets are settled alike, together with environments and
shared files that do (`Settings.twin_ofParts`): no setting but the secrets themselves depends on one.
-/

namespace AwsCredentials

/-- Two key pairs that differ at most in their secrets. -/
def StaticKeys.Twin (keys keys' : StaticKeys) : Prop :=
  ∃ secret token, keys' = { keys with secretKey := secret, token := token }

/-- Two web identity roles that differ at most in a token that both have or none. -/
def WebRoleSpec.Twin (spec spec' : WebRoleSpec) : Prop :=
  ∃ token, spec' = { spec with token := token } ∧
    (token.bind Text.nonBlank).isSome = (spec.token.bind Text.nonBlank).isSome

/-- Two configurations that differ at most in their secrets. -/
def Config.Twin (config config' : Config) : Prop :=
  ∃ secret token web, config' = { config with secretKey := secret, token := token, webRole := web } ∧
    secret.isSome = config.secretKey.isSome ∧ Option.Rel WebRoleSpec.Twin config.webRole web

/-- Whether the path of a web identity token does not ask for a secret. -/
def PlainTokenFile (web : Option WebRoleSpec) : Prop :=
  ∀ spec, web = some spec → ∀ path, spec.tokenFile = some path → path.Plain

namespace Settings

/-- Two settings that differ at most in their secrets. -/
structure Twin (s s' : Settings) : Prop where
  same : ∃ keys env files web, s' = { s with
    staticKeys := keys, environment := env, sharedFiles := files, webRole := web }
  staticKeys : Option.Rel StaticKeys.Twin s.staticKeys s'.staticKeys
  environment : s.environment.Twin s'.environment
  sharedFiles : s.sharedFiles.Twin s'.sharedFiles
  webRole : Option.Rel WebRoleSpec.Twin s.webRole s'.webRole
  plain : PlainTokenFile s.webRole

/-- What is read off the other settings is the same. -/
theorem Twin.eq_of_rest {β : Type} {s s' : Settings} (h : s.Twin s') (f : Settings → β)
    (hf : ∀ keys env files web, f { s with
      staticKeys := keys, environment := env, sharedFiles := files, webRole := web } = f s) :
    f s' = f s := by
  obtain ⟨keys, env, files, web, rfl⟩ := h.same
  exact hf keys env files web

variable {config config' : Config} {env env' : Environment} {files files' : SharedFiles}
  {profile profile' : Option Profile}

theorem bind_get?_of_twin (h : Option.Rel Profile.Twin profile profile') {key : String}
    (hkey : key ∉ Profile.secretKeys) :
    profile'.bind (·.get? key) = profile.bind (·.get? key) := by
  cases h with
  | none => rfl
  | some hp => exact hp.get? key hkey

theorem twin_staticKeys? (h : config.Twin config') :
    SameEnd (Option.Rel StaticKeys.Twin) (staticKeys? config) (staticKeys? config') := by
  obtain ⟨secret, token, web, rfl, hsecret, -⟩ := h
  unfold staticKeys?
  dsimp only
  revert hsecret
  cases config.accessKey <;> cases config.secretKey <;> cases secret <;> intro hsecret
  · exact .ok .none
  · cases hsecret
  · cases hsecret
  · exact .error _
  · exact .error _
  · cases hsecret
  · cases hsecret
  · exact .ok (.some ⟨_, _, rfl⟩)

theorem profileNamed?_of_twin (h : config.Twin config') (henv : env.Twin env') :
    profileNamed? config' env' = profileNamed? config env := by
  obtain ⟨secret, token, web, rfl, -, -⟩ := h
  unfold profileNamed?
  rw [henv.first? (by decide)]

theorem checkProfile_of_twin (h : files.Twin files') (name : Option String) :
    checkProfile files' name = checkProfile files name := by
  cases name with
  | none => rfl
  | some name =>
    unfold checkProfile
    simp only [h.contains, h.paths]

theorem region?_of_twin (h : config.Twin config') (henv : env.Twin env')
    (hprofile : Option.Rel Profile.Twin profile profile') :
    region? config' env' profile' = region? config env profile := by
  obtain ⟨secret, token, web, rfl, -, -⟩ := h
  unfold region?
  rw [henv.first? (by decide), bind_get?_of_twin hprofile (by decide)]

theorem find?_of_twin (henv : env.Twin env') (hprofile : Option.Rel Profile.Twin profile profile')
    {envKey key : String} (henvKey : envKey ∉ Environment.secretNames)
    (hkey : key ∉ Profile.secretKeys) :
    find? env' profile' envKey key = find? env profile envKey key := by
  unfold find?
  rw [henv.get? _ henvKey, bind_get?_of_twin hprofile hkey]

theorem endpoint?_of_twin (henv : env.Twin env')
    (hprofile : Option.Rel Profile.Twin profile profile') (given : Option String) {envKey : String}
    (henvKey : envKey ∉ Environment.secretNames) :
    endpoint? given env' envKey profile' = endpoint? given env envKey profile := by
  unfold endpoint?
  rw [henv.first? (by simp [henvKey]; decide), bind_get?_of_twin hprofile (by decide)]

/-- No setting but the secrets depends on a secret. -/
theorem twin_ofParts (hconfig : config.Twin config') (henv : env.Twin env')
    (hfiles : files.Twin files') (hplain : PlainTokenFile config.webRole) :
    SameEnd Twin (ofParts config env files) (ofParts config' env' files') := by
  have hkeys := twin_staticKeys? hconfig
  have hname := profileNamed?_of_twin hconfig henv
  have hprofile := hfiles.profile? ((profileNamed? config env).getD defaultProfile)
  have hregion := region?_of_twin hconfig henv hprofile
  obtain ⟨secret, token, web, rfl, hsecret, hweb⟩ := hconfig
  unfold ofParts
  dsimp only
  rw [hname, checkProfile_of_twin hfiles, hregion,
    find?_of_twin henv hprofile (by decide) (by decide),
    find?_of_twin henv hprofile (by decide) (by decide),
    find?_of_twin henv hprofile (by decide) (by decide),
    endpoint?_of_twin henv hprofile _ (by decide), endpoint?_of_twin henv hprofile _ (by decide)]
  refine (SameEnd.same _).bind fun _ _ _ => ?_
  refine hkeys.bind fun keys keys' hkeys => ?_
  refine (SameEnd.same _).bind fun maxAttempts _ heq => heq ▸ ?_
  refine (SameEnd.same _).bind fun useFips _ heq => heq ▸ ?_
  refine (SameEnd.same _).bind fun useDualStack _ heq => heq ▸ ?_
  exact .ok ⟨⟨_, _, _, _, rfl⟩, hkeys, henv, hfiles, hweb, hplain⟩

/-- It does not depend on a secret either whether the default region is used. -/
theorem fallsBackToDefaultRegion_of_twin (hconfig : config.Twin config') (henv : env.Twin env')
    (hfiles : files.Twin files') : fallsBackToDefaultRegion config' env' files' =
      fallsBackToDefaultRegion config env files := by
  unfold fallsBackToDefaultRegion
  dsimp only
  rw [profileNamed?_of_twin hconfig henv, checkProfile_of_twin hfiles,
    (twin_staticKeys? hconfig).isOk_eq, region?_of_twin hconfig henv (hfiles.profile? _)]

end Settings

end AwsCredentials
