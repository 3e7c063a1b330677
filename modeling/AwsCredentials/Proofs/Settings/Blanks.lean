import AwsCredentials.Proofs.Roles.Turns
import AwsCredentials.Proofs.Settings.Layers

/-!
# Blank values of a configuration

A blank variable counts as not set, and so do a blank value of a profile and a blank name of one. The
other texts that a configuration gives are taken as they are, so a blank one hides what stands in the
layers below.

* `Config.withoutBlanks`: a configuration where blank texts count as not given;
* `orElse_keepNonBlank_iff`: only a blank text differs from one that is not given;
* `BlanksMatter`: when a configuration settles differently without its blank texts;
* `BlankAsGiven`: what is blank in settled settings;
* `ofParts_blanks`: both, for every configuration.
-/

namespace AwsCredentials

open Text (blank nonBlank)

/-! ## Texts that may be blank -/

theorem keepNonBlank_none : keepNonBlank none = none := rfl

theorem keepNonBlank_some (s : String) :
    keepNonBlank (some s) = if blank s then none else some s := by
  cases h : blank s <;> simp [keepNonBlank, Option.filter, h]

theorem keepNonBlank_eq_self_iff {given : Option String} :
    keepNonBlank given = given ↔ given.any blank = false := by
  cases given with
  | none => exact iff_of_true rfl rfl
  | some s => cases h : blank s <;> simp [keepNonBlank_some, h]

theorem any_blank_keepNonBlank (given : Option String) :
    (keepNonBlank given).any blank = false := by
  cases given with
  | none => rfl
  | some s => cases h : blank s <;> simp [keepNonBlank_some, h]

@[simp]
theorem keepNonBlank_keepNonBlank (given : Option String) :
    keepNonBlank (keepNonBlank given) = keepNonBlank given :=
  keepNonBlank_eq_self_iff.2 (any_blank_keepNonBlank given)

theorem any_blank_orElse {given rest : Option String} (hrest : rest.any blank = false) :
    (given <|> rest).any blank = given.any blank := by
  cases given with
  | none => exact hrest
  | some s => rfl

/-- Above layers without blanks, only a blank text differs from one that is not given. -/
theorem orElse_keepNonBlank_iff {given rest : Option String} (hrest : rest.any blank = false) :
    (keepNonBlank given <|> rest) = (given <|> rest) ↔ given.any blank = false := by
  constructor
  · intro h
    rw [← any_blank_orElse hrest, ← h, any_blank_orElse hrest, any_blank_keepNonBlank]
  · intro h
    rw [keepNonBlank_eq_self_iff.2 h]

theorem any_blank_bind_nonBlank (given : Option String) :
    (given.bind nonBlank).any blank = false := by
  cases given with
  | none => rfl
  | some s =>
    show (nonBlank s).any blank = false
    unfold nonBlank
    cases h : blank s with
    | true => rfl
    | false =>
      rw [if_neg Bool.false_ne_true, Option.any_some, Text.blank_trim]
      exact h

theorem Environment.any_blank_first? (env : Environment) (keys : List String) :
    (env.first? keys).any blank = false := by
  unfold Environment.first?
  induction keys with
  | nil => rfl
  | cons key keys ih =>
    rw [List.findSome?_cons]
    have hget : (env.get? key).any blank = false := any_blank_bind_nonBlank _
    cases h : env.get? key with
    | none => exact ih
    | some value => rwa [h] at hget

theorem any_blank_profile (active : Option Profile) (key : String) :
    (active.bind (·.get? key)).any blank = false := by
  cases active with
  | none => rfl
  | some profile => exact any_blank_bind_nonBlank _

/-- What the environment or a profile says is not blank. -/
theorem any_blank_lower (env : Environment) (keys : List String) (active : Option Profile)
    (key : String) : (env.first? keys <|> active.bind (·.get? key)).any blank = false := by
  rw [any_blank_orElse (any_blank_profile active key), Environment.any_blank_first?]

/-- The configuration where blank texts count as not given. -/
def Config.withoutBlanks (config : Config) : Config :=
  { config with
    accessKey := keepNonBlank config.accessKey
    secretKey := keepNonBlank config.secretKey
    token := keepNonBlank config.token
    profile := keepNonBlank config.profile
    region := keepNonBlank config.region
    stsEndpoint := keepNonBlank config.stsEndpoint
    iamEndpoint := keepNonBlank config.iamEndpoint }

namespace Settings

variable (config : Config) (env : Environment) (files : SharedFiles)

/-! ## What blanks do not change -/

@[simp]
theorem named?_withoutBlanks : named? config.withoutBlanks env = named? config env := by
  have hprofile : nameLayers config.withoutBlanks env = nameLayers config env :=
    congrArg (· :: _) (keepNonBlank_keepNonBlank config.profile)
  rw [named?, hprofile, named?]

@[simp]
theorem active?_withoutBlanks :
    active? config.withoutBlanks env files = active? config env files := by
  rw [active?, named?_withoutBlanks, active?]

/-- The settings that may have to be read. -/
def read? : Except Error (Nat × Bool × Bool) := do
  let attempts ← attempts? config env files
  let useFips ← switch? config env files .fips "AWS_USE_FIPS_ENDPOINT"
  let useDualStack ← switch? config env files .dualStack "AWS_USE_DUALSTACK_ENDPOINT"
  return (attempts, useFips, useDualStack)

/-- The settings with a key pair and with what was read. -/
def withRead (keys : Option StaticKeys) (found : Nat × Bool × Bool) : Settings :=
  withFound config env files keys found.1 found.2.1 found.2.2

theorem ofParts_eq_read : ofParts config env files = do
    checkProfile files (named? config env)
    let keys ← staticKeys? config
    let found ← read? config env files
    return withRead config env files keys found := by
  rw [ofParts_eq, read?]
  simp only [bind_assoc, pure_bind]
  rfl

theorem read?_withoutBlanks : read? config.withoutBlanks env files = read? config env files := by
  unfold read? attempts? switch?
  rw [active?_withoutBlanks]
  rfl

/-! ## Errors -/

/-- Whether an error is about a value that cannot be read. -/
def IsInvalid (e : Error) : Prop := ∃ name value hint, e = invalid name value hint

theorem readAttempts_isInvalid {name text : String} {e : Error}
    (h : readAttempts name text = .error e) : IsInvalid e := by
  unfold readAttempts at h
  split at h
  · cases h
  · exact ⟨_, _, _, (Except.error.inj h).symm⟩

theorem readFlag_isInvalid {name text : String} {e : Error}
    (h : readFlag name text = .error e) : IsInvalid e := by
  unfold readFlag at h
  split at h
  · cases h
  · cases h
  · exact ⟨_, _, _, (Except.error.inj h).symm⟩

theorem settle_isInvalid {α : Type} {given : Option α} {text : Option (String × String)}
    {read : String → String → Except Error α} {default : α} {e : Error}
    (hread : ∀ {name text}, read name text = .error e → IsInvalid e)
    (h : settle given text read default = .error e) : IsInvalid e := by
  unfold settle at h
  split at h
  · cases h
  · exact hread h
  · cases h

variable {config env files}

theorem read?_isInvalid {e : Error} (h : read? config env files = .error e) : IsInvalid e := by
  obtain h | ⟨n, -, h⟩ := error_of_bind h
  · exact settle_isInvalid readAttempts_isInvalid h
  obtain h | ⟨f, -, h⟩ := error_of_bind h
  · exact settle_isInvalid readFlag_isInvalid h
  obtain h | ⟨d, -, h⟩ := error_of_bind h
  · exact settle_isInvalid readFlag_isInvalid h
  · cases h

/-- What is said of half a key pair is not said of a value that cannot be read. -/
theorem staticKeys?_error {e : Error} (h : staticKeys? config = .error e) : ¬IsInvalid e := by
  -- the texts of the two differ in their first character
  have hfirst (name value hint : String) :
      ("invalid value for " ++ name ++ ": " ++ Text.quoted value ++ hint).toList.head? =
        some 'i' := by
    simp only [String.toList_append]
    rfl
  rintro ⟨name, value, hint, rfl⟩
  have hfirst := hfirst name value hint
  unfold staticKeys? invalid at h
  split at h
  · cases h
  · cases h
  · rw [← Error.setting.inj (Except.error.inj h)] at hfirst
    exact absurd hfirst (by decide)
  · rw [← Error.setting.inj (Except.error.inj h)] at hfirst
    exact absurd hfirst (by decide)

/-! ## Key pairs -/

/-- Whether a key pair that is given, or its token, is blank. -/
def BlankKeys (config : Config) : Prop :=
  config.accessKey.any blank = true ∨
    config.accessKey.isSome = true ∧ config.token.any blank = true

/-- One half of the pair is blank and the other is not, or the pair is refused with its blanks and
without them, or it is the same but for blanks. -/
theorem staticKeys?_withoutBlanks_cases (config : Config) :
    (config.accessKey.any blank ≠ config.secretKey.any blank ∧
      ((∃ e keys, staticKeys? config.withoutBlanks = .error e ∧ staticKeys? config = .ok keys) ∨
        ∃ keys e, staticKeys? config.withoutBlanks = .ok keys ∧ staticKeys? config = .error e)) ∨
    (config.accessKey.any blank = config.secretKey.any blank ∧
      ∃ e, staticKeys? config.withoutBlanks = .error e ∧ staticKeys? config = .error e) ∨
    (config.accessKey.any blank = config.secretKey.any blank ∧
      ∃ keys' keys, staticKeys? config.withoutBlanks = .ok keys' ∧ staticKeys? config = .ok keys ∧
        (keys' = keys ↔ ¬BlankKeys config)) := by
  unfold BlankKeys staticKeys? Config.withoutBlanks
  cases config.accessKey with
  | none =>
    cases config.secretKey with
    | none => simp [keepNonBlank_none]
    | some s => cases hs : blank s <;> simp [keepNonBlank_none, keepNonBlank_some, hs]
  | some a =>
    cases ha : blank a <;> cases config.secretKey with
    | none => simp [keepNonBlank_none, keepNonBlank_some, ha]
    | some s =>
      cases hs : blank s <;>
        simp [keepNonBlank_some, keepNonBlank_eq_self_iff, ha, hs]

/-! ## Settings -/

/-- Whether an address or the region that is given is blank. -/
def BlankPlace (config : Config) : Prop :=
  config.region.any blank = true ∨ config.stsEndpoint.any blank = true ∨
    config.iamEndpoint.any blank = true

theorem some_region (keys : Option StaticKeys) (found : Nat × Bool × Bool) :
    some (withRead config env files keys found).region = (config.region <|>
      ((env.first? ["AWS_REGION", "AWS_DEFAULT_REGION"] <|>
        (active? config env files).bind (·.get? "region")) <|> some defaultRegion)) := by
  show some ((config.region <|> _).getD defaultRegion) = _
  cases config.region with
  | some r => rfl
  | none =>
    show some (Option.getD (_ <|> _) defaultRegion) = (_ <|> some defaultRegion)
    cases (env.first? ["AWS_REGION", "AWS_DEFAULT_REGION"] <|>
      (active? config env files).bind (·.get? "region")) <;> rfl

theorem any_blank_lower_region (env : Environment) (active : Option Profile) :
    ((env.first? ["AWS_REGION", "AWS_DEFAULT_REGION"] <|> active.bind (·.get? "region")) <|>
      some defaultRegion).any blank = false := by
  rw [any_blank_orElse (by decide), any_blank_lower]

theorem withRead_withoutBlanks_eq_iff {keys' keys : Option StaticKeys}
    {found : Nat × Bool × Bool} :
    withRead config.withoutBlanks env files keys' found = withRead config env files keys found ↔
      keys' = keys ∧ ¬BlankPlace config := by
  have hregion : (withRead config.withoutBlanks env files keys' found).region =
      (withRead config env files keys found).region ↔ config.region.any blank = false := by
    rw [← Option.some_inj, some_region, some_region, active?_withoutBlanks]
    exact orElse_keepNonBlank_iff (any_blank_lower_region env _)
  have hendpoint (given : Option String) (envKey : String) (active : Option Profile) :
      endpoint? (keepNonBlank given) env envKey active = endpoint? given env envKey active ↔
        given.any blank = false :=
    orElse_keepNonBlank_iff (any_blank_lower env _ active _)
  rw [BlankPlace, not_or, not_or, Bool.not_eq_true, Bool.not_eq_true, Bool.not_eq_true, ← hregion,
    ← hendpoint config.stsEndpoint "AWS_ENDPOINT_URL_STS" (active? config env files),
    ← hendpoint config.iamEndpoint "AWS_ENDPOINT_URL_IAM" (active? config env files)]
  unfold withRead withFound
  rw [named?_withoutBlanks, active?_withoutBlanks]
  simp [Config.withoutBlanks]

/-- Whether a configuration settles differently without its blank texts: its profile is not missing
and only half of its key pair is blank, or it settles and a text that is taken as it is is blank. -/
def BlanksMatter (config : Config) (env : Environment) (files : SharedFiles) : Prop :=
  NameKnown config env files ∧
    (config.accessKey.any blank ≠ config.secretKey.any blank ∨
      ¬Unreadable config env files ∧ (BlankKeys config ∨ BlankPlace config))

theorem not_nameKnown {name : String} (hname : named? config env = some name)
    (hmissing : files.contains name = false) : ¬NameKnown config env files := by
  intro known
  cases hmissing.symm.trans (known name hname)

theorem exists_ofParts_ok_iff (config : Config) (env : Environment) (files : SharedFiles) :
    (∃ s, ofParts config env files = .ok s) ↔
      NameKnown config env files ∧ ¬Unreadable config env files := by
  have cases := ofParts_cases config env files
  generalize ofParts config env files = result at cases ⊢
  obtain ⟨name, hname, hmissing, rfl⟩ | ⟨known, unreadable, detail, rfl⟩ |
    ⟨known, readable, s, rfl, -⟩ := cases
  · exact iff_of_false (fun ⟨_, h⟩ => nomatch h) fun known => not_nameKnown hname hmissing known.1
  · exact iff_of_false (fun ⟨_, h⟩ => nomatch h) fun hok => hok.2 unreadable
  · exact iff_of_true ⟨s, rfl⟩ ⟨known, readable⟩

theorem ofParts_of_known (known : NameKnown config env files) : ofParts config env files = do
    let keys ← staticKeys? config
    let found ← read? config env files
    return withRead config env files keys found := by
  rw [ofParts_eq_read]
  obtain ⟨-, hcheck⟩ | ⟨name, hname, hmissing, -⟩ := checkProfile_cases config env files
  · rw [hcheck]
    rfl
  · exact absurd known (not_nameKnown hname hmissing)

/-- What is read does not fail with what is said of half a key pair. -/
theorem read?_ne_half {config' : Config} {e : Error} (h : staticKeys? config' = .error e)
    (finish : Nat × Bool × Bool → Settings) :
    (do return finish (← read? config env files)) ≠ Except.error e := by
  intro hread
  obtain hread | ⟨found, -, hfound⟩ := error_of_bind hread
  · exact staticKeys?_error h (read?_isInvalid hread)
  · cases hfound

theorem ofParts_withoutBlanks_eq_iff :
    ofParts config.withoutBlanks env files = ofParts config env files ↔
      ¬BlanksMatter config env files := by
  obtain ⟨known, -⟩ | ⟨name, hname, hmissing, hcheck⟩ := checkProfile_cases config env files
  case inr =>
    rw [ofParts_eq_read, ofParts_eq_read, named?_withoutBlanks, hcheck]
    exact iff_of_true rfl fun matter => not_nameKnown hname hmissing matter.1
  have known' : NameKnown config.withoutBlanks env files := by
    rwa [NameKnown, named?_withoutBlanks]
  have hok := exists_ofParts_ok_iff config env files
  rw [and_iff_right known] at hok
  rw [BlanksMatter, and_iff_right known, ← hok, ofParts_of_known known', ofParts_of_known known,
    read?_withoutBlanks]
  obtain ⟨hhalf, ⟨e, keys, hkeys', hkeys⟩ | ⟨keys', e, hkeys', hkeys⟩⟩ |
    ⟨hsame, e, hkeys', hkeys⟩ | ⟨hsame, keys', keys, hkeys', hkeys, hblank⟩ :=
    staticKeys?_withoutBlanks_cases config
  -- half a key pair is refused before anything is read, so on one side only
  · refine iff_of_false (fun h => ?_) (not_not_intro (.inl hhalf))
    rw [hkeys', hkeys] at h
    exact read?_ne_half hkeys' _ h.symm
  · refine iff_of_false (fun h => ?_) (not_not_intro (.inl hhalf))
    rw [hkeys', hkeys] at h
    exact read?_ne_half hkeys _ h
  · rw [hkeys', hkeys]
    refine iff_of_true rfl ?_
    rintro (hhalf | ⟨⟨s, hs⟩, -⟩)
    · exact hhalf hsame
    · cases hs
  -- the key pair is in order on both sides, and what cannot be read is the same error on both
  · rw [hkeys', hkeys]
    cases read? config env files with
    | error e =>
      refine iff_of_true rfl ?_
      rintro (hhalf | ⟨⟨s, hs⟩, -⟩)
      · exact hhalf hsame
      · cases hs
    | ok found =>
      have hsettles : ∃ s, (.ok (withRead config env files keys found) : Except Error Settings) =
          .ok s := ⟨_, rfl⟩
      show Except.ok _ = Except.ok _ ↔ ¬(_ ∨ (∃ s, Except.ok _ = Except.ok s) ∧ _)
      rw [Except.ok.injEq, withRead_withoutBlanks_eq_iff, hblank, or_iff_right (not_not_intro hsame),
        and_iff_right hsettles, not_or]

/-! ## Blank settings -/

/-- Whether blank settings are those that were given blank. -/
structure BlankAsGiven (config : Config) (s : Settings) : Prop where
  profile : s.profile.any blank = false
  region : blank s.region = config.region.any blank
  sts : s.endpoints.sts.any blank = config.stsEndpoint.any blank
  iam : s.endpoints.iam.any blank = config.iamEndpoint.any blank
  accessKey : ∀ keys ∈ s.staticKeys, blank keys.accessKey = config.accessKey.any blank
  secretKey : ∀ keys ∈ s.staticKeys, blank keys.secretKey = config.secretKey.any blank
  token : ∀ keys ∈ s.staticKeys, keys.token.any blank = config.token.any blank

theorem any_blank_named? : (named? config env).any blank = false := by
  rw [← profileNamed?_eq, profileNamed?]
  exact (any_blank_orElse (Environment.any_blank_first? env _)).trans (any_blank_keepNonBlank _)

theorem staticKeys?_ok {keys : StaticKeys} (h : staticKeys? config = .ok (some keys)) :
    config.accessKey = some keys.accessKey ∧ config.secretKey = some keys.secretKey ∧
      config.token = keys.token := by
  unfold staticKeys? at h
  split at h
  · next access secret haccess hsecret =>
    obtain rfl := Option.some.inj (Except.ok.inj h)
    exact ⟨haccess, hsecret, rfl⟩
  all_goals cases h

theorem blankAsGiven_of_ofParts {s : Settings} (h : ofParts config env files = .ok s) :
    BlankAsGiven config s := by
  obtain ⟨keys, n, f, d, hkeys, rfl⟩ := exists_withFound_of_ofParts config env files h
  have hregion : blank (withRead config env files keys (n, f, d)).region =
      config.region.any blank := by
    rw [← any_blank_orElse (any_blank_lower_region env (active? config env files)), ← some_region]
    rfl
  have hpair (k : StaticKeys) (hk : k ∈ keys) := staticKeys?_ok (hkeys.trans (congrArg _ hk))
  exact {
    profile := any_blank_named?
    region := hregion
    sts := any_blank_orElse (any_blank_lower env _ _ _)
    iam := any_blank_orElse (any_blank_lower env _ _ _)
    accessKey := fun k hk => by rw [(hpair k hk).1]; rfl
    secretKey := fun k hk => by rw [(hpair k hk).2.1]; rfl
    token := fun k hk => by rw [(hpair k hk).2.2] }

/-- A configuration settles differently without its blank texts exactly if one of them matters, and
what is blank in settled settings was given so. -/
theorem ofParts_blanks (config : Config) (env : Environment) (files : SharedFiles) :
    (ofParts config.withoutBlanks env files = ofParts config env files ↔
      ¬BlanksMatter config env files) ∧
    ∀ s, ofParts config env files = .ok s → BlankAsGiven config s :=
  ⟨ofParts_withoutBlanks_eq_iff, fun _ => blankAsGiven_of_ofParts⟩

/-- A blank name of a profile and a blank token without keys do not matter. -/
theorem harmless_blanks :
    let config : Config := { profile := some " ", token := some "\t", region := some "eu-west-1" }
    let env : Environment := ⟨[("AWS_REGION", "us-west-2")], none⟩
    let files : SharedFiles := ⟨[], []⟩
    ofParts config.withoutBlanks env files = ofParts config env files ∧
      ∃ s, ofParts config env files = .ok s ∧ blank s.region = false ∧ s.staticKeys = none := by
  intro config env files
  obtain ⟨hsame, hgiven⟩ := ofParts_blanks config env files
  have hsettled : ofParts config env files =
      .ok (withRead config env files none (3, false, false)) := rfl
  have hregion : config.region.any blank = false := by decide
  refine ⟨hsame.2 ?_, _, hsettled, (hgiven _ hsettled).region.trans hregion, rfl⟩
  · rintro ⟨-, hhalf | ⟨-, (hkey | ⟨hkey, -⟩) | hregion' | haddress | haddress⟩⟩
    · exact hhalf rfl
    · cases hkey
    · cases hkey
    · cases hregion'.symm.trans hregion
    · cases haddress
    · cases haddress

/-- An empty region is taken as the region, and hides the default one. -/
theorem empty_region_is_taken :
    let config : Config := { region := some "" }
    let env : Environment := ⟨[], none⟩
    let files : SharedFiles := ⟨[], []⟩
    (ofParts config env files).map Settings.region = .ok "" ∧
      (ofParts config.withoutBlanks env files).map Settings.region = .ok "us-east-1" ∧
      ofParts config.withoutBlanks env files ≠ ofParts config env files := by
  intro config env files
  have htaken : (ofParts config env files).map Settings.region = .ok "" := rfl
  have hdefault : (ofParts config.withoutBlanks env files).map Settings.region = .ok "us-east-1" :=
    rfl
  refine ⟨htaken, hdefault, fun h => ?_⟩
  rw [h, htaken] at hdefault
  exact absurd (Except.ok.inj hdefault) (by decide)

end Settings
end AwsCredentials
