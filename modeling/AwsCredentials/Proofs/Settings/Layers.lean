import AwsCredentials.Proofs.Chain.Reach
import AwsCredentials.Settings
import Mathlib.Data.List.Basic

/-!
# Where a setting is found

A setting is looked for in layers: what the configuration gives, some variables one after another,
the active profile. The first layer that has it decides, and a default where none has it.

* `Setting.layers`: the layers of a setting, and `Setting.Settles` what they come to;
* `settle_cases`: a setting comes to a value, or the text that was found first cannot be read;
* `SameToFirst`: layers that differ at most below the deciding one;
* `ofParts_by_layers`: the settled settings, when there are none, and that nothing below a deciding
  layer matters.
-/

namespace AwsCredentials

/-- What stands in a layer: a value, or a text under a name. -/
inductive Layer (α : Type) where
  | value (a : α)
  | text (name text : String)
  deriving DecidableEq, Repr

/-- What a setting is called in each of its layers, and what its texts stand for. -/
structure Setting (α : Type) where
  given : Config → Option α
  /-- The variables, the first one first. -/
  envKeys : List String
  /-- The key of a profile. -/
  key : String
  Reads : String → α → Prop
  default : α

namespace Setting

variable {α : Type}

/-- What stands in the layers, from the first one to the last. -/
def layers (x : Setting α) (config : Config) (env : Environment) (profile : Option Profile) :
    List (Option (Layer α)) :=
  (x.given config).map .value :: x.envKeys.map (fun v => (env.get? v).map (.text v)) ++
    [(profile.bind (·.get? x.key)).map (.text x.key)]

/-- What the setting is, if this was found first. -/
def Means (x : Setting α) : Option (Layer α) → α → Prop
  | some (.value v), a => a = v
  | some (.text _ text), a => x.Reads text a
  | none, a => a = x.default

/-- Whether the first layer that has the setting says so, or the default where none has it. -/
def Settles (x : Setting α) (config : Config) (env : Environment) (profile : Option Profile)
    (a : α) : Prop :=
  x.Means ((x.layers config env profile).findSome? id) a

/-- Whether a text is a number of 32 bits: digits, after a plus sign or not. -/
def IsNumber (text : String) (n : Nat) : Prop :=
  ∃ digits : List Char, (text.toList = digits ∨ text.toList = '+' :: digits) ∧ digits ≠ [] ∧
    (∀ c ∈ digits, c.isDigit = true) ∧ Text.digitsValue digits = n ∧ n ≤ Text.max32

/-- Whether a text is the word for a truth value, in capitals or not. -/
def IsFlag (text : String) (b : Bool) : Prop := Text.asciiLower text = Text.Shown.flag b

def region : Setting String where
  given := Config.region
  envKeys := ["AWS_REGION", "AWS_DEFAULT_REGION"]
  key := "region"
  Reads text r := r = text
  default := defaultRegion

def attempts : Setting Nat where
  given := Config.maxAttempts
  envKeys := ["AWS_MAX_ATTEMPTS"]
  key := "max_attempts"
  Reads := IsNumber
  default := defaultAttempts

/-- An address in place of the usual one of a service, which has a variable of its own. -/
def endpoint (given : Config → Option String) (envKey : String) : Setting (Option String) where
  given config := (given config).map some
  envKeys := [envKey, "AWS_ENDPOINT_URL"]
  key := "endpoint_url"
  Reads text e := e = some text
  default := none

def stsEndpoint : Setting (Option String) := endpoint Config.stsEndpoint "AWS_ENDPOINT_URL_STS"

def iamEndpoint : Setting (Option String) := endpoint Config.iamEndpoint "AWS_ENDPOINT_URL_IAM"

/-- A truth value, which is false unless it is set. -/
def switch (given : Config → Option Bool) (envKey key : String) : Setting Bool where
  given
  envKeys := [envKey]
  key
  Reads := IsFlag
  default := false

def fips : Setting Bool := switch Config.useFips "AWS_USE_FIPS_ENDPOINT" "use_fips_endpoint"

def dualStack : Setting Bool :=
  switch Config.useDualStack "AWS_USE_DUALSTACK_ENDPOINT" "use_dualstack_endpoint"

end Setting

/-- Whether two lists of layers are the same down to the first one that holds something. -/
inductive SameToFirst {β : Type} : List (Option β) → List (Option β) → Prop
  | nil : SameToFirst [] []
  | found {b : β} {below below' : List (Option β)} :
    SameToFirst (some b :: below) (some b :: below')
  | next {l l' : List (Option β)} : SameToFirst l l' → SameToFirst (none :: l) (none :: l')

theorem SameToFirst.findSome?_eq {β : Type} {l l' : List (Option β)} (h : SameToFirst l l') :
    l.findSome? id = l'.findSome? id := by
  induction h with
  | nil => rfl
  | found => rfl
  | next _ ih => exact ih

/-! ## Texts -/

namespace Settings

theorem isDigit_plus : '+'.isDigit = false := by decide

theorem readNat_eq_some_iff {text : String} {n : Nat} :
    Text.readNat Text.max32 text = some n ↔ Setting.IsNumber text n := by
  have read (digits : List Char) :
      (if digits.isEmpty || !digits.all Char.isDigit then none
        else if Text.digitsValue digits ≤ Text.max32 then some (Text.digitsValue digits) else none) =
        some n ↔
      digits ≠ [] ∧ (∀ c ∈ digits, c.isDigit = true) ∧ Text.digitsValue digits = n ∧
        n ≤ Text.max32 := by
    grind
  unfold Text.readNat Setting.IsNumber
  dsimp only
  split
  · next rest htext =>
    refine (read rest).trans ⟨fun h => ⟨rest, .inr htext, h⟩, ?_⟩
    rintro ⟨digits, hdigits | hdigits, h⟩
    · -- a plus sign is no digit, so it cannot be the first one
      have hplus := h.2.1 '+' (by rw [← hdigits, htext]; exact List.mem_cons_self)
      rw [isDigit_plus] at hplus
      cases hplus
    · obtain rfl := (List.cons.inj (htext.symm.trans hdigits)).2
      exact h
  · next hplus =>
    refine (read text.toList).trans ⟨fun h => ⟨_, .inl rfl, h⟩, ?_⟩
    rintro ⟨digits, rfl | hdigits, h⟩
    · exact h
    · exact absurd hdigits (hplus digits)

theorem readAttempts_eq_ok_iff {name text : String} {n : Nat} :
    readAttempts name text = .ok n ↔ Setting.attempts.Reads text n := by
  refine Iff.trans ?_ readNat_eq_some_iff
  unfold readAttempts
  split <;> simp [*]

theorem readFlag_eq_ok_iff {name text : String} {b : Bool} :
    readFlag name text = .ok b ↔ Setting.IsFlag text b := by
  unfold readFlag Setting.IsFlag
  split
  · next h => cases b <;> simp [h, Text.Shown.flag]
  · next h => cases b <;> simp [h, Text.Shown.flag]
  · next htrue hfalse =>
    cases b with
    | true => simpa [Text.Shown.flag] using htrue
    | false => simpa [Text.Shown.flag] using hfalse

theorem readAttempts_error {name text : String} {e : Error}
    (h : readAttempts name text = .error e) : ∃ detail, e = .setting detail := by
  unfold readAttempts at h
  split at h
  · cases h
  · cases h; exact ⟨_, rfl⟩

theorem readFlag_error {name text : String} {e : Error} (h : readFlag name text = .error e) :
    ∃ detail, e = .setting detail := by
  unfold readFlag at h
  split at h
  · cases h
  · cases h
  · cases h; exact ⟨_, rfl⟩

/-! ## One setting -/

variable {α : Type} {config : Config} {env : Environment} {active : Option Profile}

/-- What is made of a setting, given what was found first. -/
def made (x : Setting α) (read : String → String → Except Error α) :
    Option (Layer α) → Except Error α
  | some (.value v) => .ok v
  | some (.text name text) => read name text
  | none => .ok x.default

theorem settle_eq_made (x : Setting α) {envKey : String} (hx : x.envKeys = [envKey])
    (read : String → String → Except Error α) :
    settle (x.given config) (find? env active envKey x.key) read x.default =
      made x read ((x.layers config env active).findSome? id) := by
  unfold settle find? Setting.layers
  rw [hx]
  cases x.given config with
  | some v => rfl
  | none =>
    cases henv : env.get? envKey with
    | some text => simp [henv, made]
    | none =>
      cases active.bind (·.get? x.key) <;> simp [henv, made]

/-- A setting comes to what is found first, or that cannot be read. -/
theorem settle_cases (x : Setting α) {envKey : String} (hx : x.envKeys = [envKey])
    {read : String → String → Except Error α}
    (hread : ∀ {name text a}, read name text = .ok a ↔ x.Reads text a)
    (herror : ∀ {name text e}, read name text = .error e → ∃ detail, e = .setting detail) :
    (∃ a, settle (x.given config) (find? env active envKey x.key) read x.default = .ok a ∧
      x.Settles config env active a) ∨
    ((∃ detail, settle (x.given config) (find? env active envKey x.key) read x.default =
      .error (.setting detail)) ∧ ∀ a, ¬x.Settles config env active a) := by
  rw [settle_eq_made x hx]
  unfold Setting.Settles
  generalize (x.layers config env active).findSome? id = found
  match found with
  | some (.value v) => exact .inl ⟨v, rfl, rfl⟩
  | none => exact .inl ⟨x.default, rfl, rfl⟩
  | some (.text name text) =>
    cases h : read name text with
    | ok a => exact .inl ⟨a, h, hread.1 h⟩
    | error e =>
      obtain ⟨detail, rfl⟩ := herror h
      refine .inr ⟨⟨detail, h⟩, fun a ha => ?_⟩
      cases h.symm.trans (hread.2 ha)

theorem settle_congr {config' : Config} {env' : Environment} {active' : Option Profile}
    (x : Setting α) {envKey : String} (hx : x.envKeys = [envKey])
    (read : String → String → Except Error α)
    (h : SameToFirst (x.layers config env active) (x.layers config' env' active')) :
    settle (x.given config') (find? env' active' envKey x.key) read x.default =
      settle (x.given config) (find? env active envKey x.key) read x.default := by
  rw [settle_eq_made x hx, settle_eq_made x hx, h.findSome?_eq]

/-- What was found, where every text is taken as it is. -/
def asWritten (value : α → Option String) : Option (Layer α) → Option String
  | some (.value v) => value v
  | some (.text _ text) => some text
  | none => none

theorem asWritten_found (x : Setting α) (value : α → Option String)
    (hvalue : ∀ v ∈ x.given config, (value v).isSome) :
    asWritten value ((x.layers config env active).findSome? id) =
      ((x.given config).bind value <|> env.first? x.envKeys <|> active.bind (·.get? x.key)) := by
  unfold Setting.layers
  cases hgiven : x.given config with
  | some v =>
    obtain ⟨text, htext⟩ := Option.isSome_iff_exists.1 (hvalue v hgiven)
    simp [asWritten, htext]
  | none =>
    -- on the variables; each of them is either set, or passed over on both sides
    induction x.envKeys with
    | nil => cases active.bind (·.get? x.key) <;> simp [asWritten, Environment.first?]
    | cons v vs ih =>
      cases hv : env.get? v with
      | some text => simp [hv, asWritten, Environment.first?]
      | none => simpa [hv, Environment.first?] using ih

theorem region?_eq : region? config env active =
    asWritten some ((Setting.region.layers config env active).findSome? id) := by
  rw [asWritten_found _ _ fun _ _ => rfl]
  cases h : config.region <;> simp [region?, Setting.region, h]

theorem settles_region :
    Setting.region.Settles config env active ((region? config env active).getD defaultRegion) := by
  rw [region?_eq, Setting.Settles]
  generalize (Setting.region.layers config env active).findSome? id = found
  match found with
  | some (.value v) => rfl
  | some (.text _ text) => rfl
  | none => rfl

variable {given : Config → Option String} {envKey : String}

theorem endpoint?_eq : endpoint? (given config) env envKey active =
    asWritten id (((Setting.endpoint given envKey).layers config env active).findSome? id) := by
  rw [asWritten_found]
  · cases h : given config <;> simp [endpoint?, Setting.endpoint, h]
  · intro v hv
    obtain ⟨e, -, rfl⟩ := Option.map_eq_some_iff.1 hv
    rfl

theorem settles_endpoint : (Setting.endpoint given envKey).Settles config env active
    (endpoint? (given config) env envKey active) := by
  rw [endpoint?_eq, Setting.Settles]
  generalize ((Setting.endpoint given envKey).layers config env active).findSome? id = found
  match found with
  | some (.value v) => rfl
  | some (.text _ text) => rfl
  | none => rfl

/-! ## All settings -/

/-- Where the name of the profile is looked for. A blank name is none. -/
def nameLayers (config : Config) (env : Environment) : List (Option String) :=
  config.profile.filter (fun name => !Text.blank name) ::
    ["AWS_PROFILE", "AWS_DEFAULT_PROFILE"].map env.get?

/-- The profile that is named, if one is. -/
def named? (config : Config) (env : Environment) : Option String :=
  (nameLayers config env).findSome? id

/-- The profile that holds the settings: the one that is named, or else the default one. -/
def active? (config : Config) (env : Environment) (files : SharedFiles) : Option Profile :=
  files.profile? ((named? config env).getD defaultProfile)

/-- Whether the profile that is named, if one is, exists. -/
def NameKnown (config : Config) (env : Environment) (files : SharedFiles) : Prop :=
  ∀ name, named? config env = some name → files.contains name = true

/-- Whether settings are those that are found first. -/
structure FoundFirst (config : Config) (env : Environment) (files : SharedFiles) (s : Settings) :
    Prop where
  profile : s.profile = named? config env
  region : Setting.region.Settles config env (active? config env files) s.region
  attempts : Setting.attempts.Settles config env (active? config env files) s.maxAttempts
  stsEndpoint : Setting.stsEndpoint.Settles config env (active? config env files) s.endpoints.sts
  iamEndpoint : Setting.iamEndpoint.Settles config env (active? config env files) s.endpoints.iam
  fips : Setting.fips.Settles config env (active? config env files) s.useFips
  dualStack : Setting.dualStack.Settles config env (active? config env files) s.useDualStack

/-- Whether half of the key pair is missing, or the deciding text of a setting cannot be read. -/
def Unreadable (config : Config) (env : Environment) (files : SharedFiles) : Prop :=
  config.accessKey.isSome ≠ config.secretKey.isSome ∨
  (∀ n, ¬Setting.attempts.Settles config env (active? config env files) n) ∨
  (∀ b, ¬Setting.fips.Settles config env (active? config env files) b) ∨
  ∀ b, ¬Setting.dualStack.Settles config env (active? config env files) b

theorem profileNamed?_eq (config : Config) (env : Environment) :
    profileNamed? config env = named? config env := by
  unfold profileNamed? named? nameLayers Environment.first?
  cases config.profile.filter fun name => !Text.blank name <;>
    cases h₁ : env.get? "AWS_PROFILE" <;> cases h₂ : env.get? "AWS_DEFAULT_PROFILE" <;>
    simp [h₁, h₂]

theorem staticKeys?_cases (config : Config) :
    (config.accessKey.isSome = config.secretKey.isSome ∧ ∃ keys, staticKeys? config = .ok keys) ∨
    (config.accessKey.isSome ≠ config.secretKey.isSome ∧
      ∃ detail, staticKeys? config = .error (.setting detail)) := by
  unfold staticKeys?
  cases config.accessKey <;> cases config.secretKey <;> simp

theorem checkProfile_cases (config : Config) (env : Environment) (files : SharedFiles) :
    (NameKnown config env files ∧ checkProfile files (named? config env) = .ok ()) ∨
    ∃ name, named? config env = some name ∧ files.contains name = false ∧
      checkProfile files (named? config env) = .error (.unknownProfile name files.paths) := by
  unfold NameKnown checkProfile
  cases named? config env with
  | none => exact .inl ⟨nofun, rfl⟩
  | some name =>
    cases h : files.contains name with
    | true => exact .inl ⟨fun _ heq => Option.some.inj heq ▸ h, by simp [h]⟩
    | false => exact .inr ⟨name, rfl, h, by simp [h]⟩

section

variable (config : Config) (env : Environment) (files : SharedFiles)

/-- The attempts of a call. -/
def attempts? : Except Error Nat :=
  settle (Setting.attempts.given config) (find? env (active? config env files) "AWS_MAX_ATTEMPTS"
    Setting.attempts.key) readAttempts Setting.attempts.default

/-- A truth value that has one variable. -/
def switch? (x : Setting Bool) (envKey : String) : Except Error Bool :=
  settle (x.given config) (find? env (active? config env files) envKey x.key) readFlag x.default

/-- The settings with the values that may be missing. -/
def withFound (keys : Option StaticKeys) (attempts : Nat) (useFips useDualStack : Bool) : Settings where
  staticKeys := keys
  environment := env
  profile := named? config env
  sharedFiles := files
  region := (region? config env (active? config env files)).getD defaultRegion
  roles := config.roles
  webRole := config.webRole
  skipValidation := config.skipValidation
  skipAccountLookup := config.skipAccountLookup
  maxAttempts := attempts
  endpoints := ⟨endpoint? config.stsEndpoint env "AWS_ENDPOINT_URL_STS" (active? config env files),
    endpoint? config.iamEndpoint env "AWS_ENDPOINT_URL_IAM" (active? config env files)⟩
  useFips
  useDualStack
  traceHttp := config.traceHttp

/-- What may be missing is looked for one after another. -/
theorem ofParts_eq : ofParts config env files = do
    checkProfile files (named? config env)
    let keys ← staticKeys? config
    let attempts ← attempts? config env files
    let useFips ← switch? config env files .fips "AWS_USE_FIPS_ENDPOINT"
    let useDualStack ← switch? config env files .dualStack "AWS_USE_DUALSTACK_ENDPOINT"
    return withFound config env files keys attempts useFips useDualStack := by
  unfold ofParts
  rw [profileNamed?_eq]
  rfl

/-- Settled settings are those with what may be missing. -/
theorem exists_withFound_of_ofParts {s : Settings} (h : ofParts config env files = .ok s) :
    ∃ keys attempts useFips useDualStack, staticKeys? config = .ok keys ∧
      s = withFound config env files keys attempts useFips useDualStack := by
  rw [ofParts_eq] at h
  obtain ⟨-, -, h⟩ := exists_ok_of_bind h
  obtain ⟨keys, hkeys, h⟩ := exists_ok_of_bind h
  obtain ⟨attempts, -, h⟩ := exists_ok_of_bind h
  obtain ⟨useFips, -, h⟩ := exists_ok_of_bind h
  obtain ⟨useDualStack, -, h⟩ := exists_ok_of_bind h
  exact ⟨keys, attempts, useFips, useDualStack, hkeys, (Except.ok.inj h).symm⟩

theorem attempts?_cases :
    (∃ n, attempts? config env files = .ok n ∧
      Setting.attempts.Settles config env (active? config env files) n) ∨
    ((∃ detail, attempts? config env files = .error (.setting detail)) ∧
      ∀ n, ¬Setting.attempts.Settles config env (active? config env files) n) :=
  settle_cases .attempts rfl readAttempts_eq_ok_iff readAttempts_error

theorem switch?_cases {x : Setting Bool} {envKey : String} (hx : x.envKeys = [envKey])
    (hreads : x.Reads = Setting.IsFlag) :
    (∃ b, switch? config env files x envKey = .ok b ∧
      x.Settles config env (active? config env files) b) ∨
    ((∃ detail, switch? config env files x envKey = .error (.setting detail)) ∧
      ∀ b, ¬x.Settles config env (active? config env files) b) :=
  settle_cases x hx (by rw [hreads]; exact readFlag_eq_ok_iff) readFlag_error

/-- A missing profile, else something unreadable, else settings that are found first. -/
theorem ofParts_cases :
    (∃ name, named? config env = some name ∧ files.contains name = false ∧
      ofParts config env files = .error (.unknownProfile name files.paths)) ∨
    (NameKnown config env files ∧ Unreadable config env files ∧
      ∃ detail, ofParts config env files = .error (.setting detail)) ∨
    (NameKnown config env files ∧ ¬Unreadable config env files ∧
      ∃ s, ofParts config env files = .ok s ∧ FoundFirst config env files s) := by
  rw [ofParts_eq]
  obtain ⟨known, hcheck⟩ | ⟨name, hname, hmissing, hcheck⟩ := checkProfile_cases config env files
  case inr => exact .inl ⟨name, hname, hmissing, by rw [hcheck]; rfl⟩
  refine .inr ?_
  rw [hcheck]
  obtain ⟨hpair, keys, hkeys⟩ | ⟨hhalf, detail, hkeys⟩ := staticKeys?_cases config
  case inr => exact .inl ⟨known, .inl hhalf, detail, by rw [hkeys]; rfl⟩
  rw [hkeys]
  obtain ⟨n, hn, settles⟩ | ⟨⟨detail, hn⟩, none⟩ := attempts?_cases config env files
  case inr => exact .inl ⟨known, .inr (.inl none), detail, by rw [hn]; rfl⟩
  rw [hn]
  obtain ⟨f, hf, settlesFips⟩ | ⟨⟨detail, hf⟩, none⟩ :=
    switch?_cases config env files (x := .fips) rfl rfl
  case inr => exact .inl ⟨known, .inr (.inr (.inl none)), detail, by rw [hf]; rfl⟩
  rw [hf]
  obtain ⟨d, hd, settlesDual⟩ | ⟨⟨detail, hd⟩, none⟩ :=
    switch?_cases config env files (x := .dualStack) rfl rfl
  case inr => exact .inl ⟨known, .inr (.inr (.inr none)), detail, by rw [hd]; rfl⟩
  rw [hd]
  refine .inr ⟨known, ?_, withFound config env files keys n f d, rfl,
    ⟨rfl, settles_region, settles, settles_endpoint, settles_endpoint, settlesFips, settlesDual⟩⟩
  rintro (hhalf | none | none | none)
  · exact hhalf hpair
  · exact none n settles
  · exact none f settlesFips
  · exact none d settlesDual

end

/-! ## Below the deciding layers -/

/-- What the layers decide. -/
def values (s : Settings) : Option String × String × Nat × Endpoints × Bool × Bool :=
  (s.profile, s.region, s.maxAttempts, s.endpoints, s.useFips, s.useDualStack)

variable {config config' : Config} {env env' : Environment} {files files' : SharedFiles}

/-- Whether the layers of a setting are the same down to the deciding one. -/
def SameSetting (config config' : Config) (env env' : Environment) (files files' : SharedFiles)
    (x : Setting α) : Prop :=
  SameToFirst (x.layers config env (active? config env files))
    (x.layers config' env' (active? config' env' files'))

/-- Whether all layers are the same down to the deciding ones, and the rest is of the same shape. -/
structure SameAbove (config config' : Config) (env env' : Environment) (files files' : SharedFiles) :
    Prop where
  accessKey : config'.accessKey.isSome = config.accessKey.isSome
  secretKey : config'.secretKey.isSome = config.secretKey.isSome
  paths : files'.paths = files.paths
  known : ∀ name, named? config env = some name → files'.contains name = files.contains name
  name : SameToFirst (nameLayers config env) (nameLayers config' env')
  region : SameSetting config config' env env' files files' .region
  attempts : SameSetting config config' env env' files files' .attempts
  stsEndpoint : SameSetting config config' env env' files files' .stsEndpoint
  iamEndpoint : SameSetting config config' env env' files files' .iamEndpoint
  fips : SameSetting config config' env env' files files' .fips
  dualStack : SameSetting config config' env env' files files' .dualStack

theorem endpoint?_congr
    (h : SameSetting config config' env env' files files' (.endpoint given envKey)) :
    endpoint? (given config') env' envKey (active? config' env' files') =
      endpoint? (given config) env envKey (active? config env files) := by
  rw [endpoint?_eq, endpoint?_eq, SameToFirst.findSome?_eq h]

namespace SameAbove

variable (h : SameAbove config config' env env' files files')
include h

theorem named?_eq : named? config' env' = named? config env := h.name.findSome?_eq.symm

theorem checkProfile_eq :
    checkProfile files' (named? config' env') = checkProfile files (named? config env) := by
  rw [h.named?_eq]
  unfold checkProfile
  cases hname : named? config env with
  | none => rfl
  | some name => simp only [h.known name hname, h.paths]

theorem staticKeys?_eq :
    (staticKeys? config').map (fun _ => ()) = (staticKeys? config).map fun _ => () := by
  have ha := h.accessKey
  have hs := h.secretKey
  unfold staticKeys?
  revert ha hs
  cases config'.accessKey <;> cases config.accessKey <;> cases config'.secretKey <;>
    cases config.secretKey <;> simp [Except.map]

theorem attempts?_eq : attempts? config' env' files' = attempts? config env files :=
  settle_congr .attempts rfl readAttempts h.attempts

theorem region?_eq : region? config' env' (active? config' env' files') =
    region? config env (active? config env files) := by
  rw [Settings.region?_eq, Settings.region?_eq, SameToFirst.findSome?_eq h.region]

theorem values_withFound (keys keys' : Option StaticKeys) (n : Nat) (f d : Bool) :
    values (withFound config' env' files' keys' n f d) =
      values (withFound config env files keys n f d) := by
  have sts : endpoint? config'.stsEndpoint env' _ _ = endpoint? config.stsEndpoint env _ _ :=
    endpoint?_congr h.stsEndpoint
  have iam : endpoint? config'.iamEndpoint env' _ _ = endpoint? config.iamEndpoint env _ _ :=
    endpoint?_congr h.iamEndpoint
  simp only [values, withFound, h.named?_eq, h.region?_eq, sts, iam]

/-- Nothing below the deciding layers changes a settled value or an error. -/
theorem ofParts_eq :
    (ofParts config' env' files').map values = (ofParts config env files).map values := by
  have hkeys := h.staticKeys?_eq
  have hfips : switch? config' env' files' .fips _ = switch? config env files .fips _ :=
    settle_congr .fips rfl readFlag h.fips
  have hdual : switch? config' env' files' .dualStack _ = switch? config env files .dualStack _ :=
    settle_congr .dualStack rfl readFlag h.dualStack
  rw [Settings.ofParts_eq, Settings.ofParts_eq, h.checkProfile_eq, h.attempts?_eq, hfips, hdual]
  cases checkProfile files (named? config env) with
  | error e => rfl
  | ok _ =>
  revert hkeys
  cases staticKeys? config' <;> cases staticKeys? config <;> intro hkeys
  · obtain rfl := Except.error.inj hkeys
    rfl
  · cases hkeys
  · cases hkeys
  next keys' keys =>
  cases attempts? config env files with
  | error e => rfl
  | ok n =>
  cases switch? config env files .fips "AWS_USE_FIPS_ENDPOINT" with
  | error e => rfl
  | ok f =>
  cases switch? config env files .dualStack "AWS_USE_DUALSTACK_ENDPOINT" with
  | error e => rfl
  | ok d => exact congrArg Except.ok (h.values_withFound keys keys' n f d)

end SameAbove

/-! ## The rule -/

/-- A profile that is named but does not exist is an error, whatever else is set, and the only reason
for that error. Otherwise every setting is what its first layer says, or its default, unless half of
the key pair is missing or the deciding text of a setting cannot be read, which are the only reasons
for another error. What stands below the deciding layers does not matter. -/
theorem ofParts_by_layers (config : Config) (env : Environment) (files : SharedFiles) :
    (∀ name, named? config env = some name → files.contains name = false →
      ofParts config env files = .error (.unknownProfile name files.paths)) ∧
    (∀ name paths, ofParts config env files = .error (.unknownProfile name paths) →
      named? config env = some name ∧ files.contains name = false ∧ paths = files.paths) ∧
    ((∃ detail, ofParts config env files = .error (.setting detail)) ↔
      NameKnown config env files ∧ Unreadable config env files) ∧
    ((∃ s, ofParts config env files = .ok s) ↔
      NameKnown config env files ∧ ¬Unreadable config env files) ∧
    (∀ s, ofParts config env files = .ok s → FoundFirst config env files s) ∧
    ∀ config' env' files', SameAbove config config' env env' files files' →
      (ofParts config' env' files').map values = (ofParts config env files).map values := by
  have cases := ofParts_cases config env files
  have same := fun config' env' files' (h : SameAbove config config' env env' files files') =>
    h.ofParts_eq
  generalize ofParts config env files = result at cases same ⊢
  obtain ⟨name, hname, hmissing, rfl⟩ | ⟨known, unreadable, detail, rfl⟩ |
    ⟨known, readable, s, rfl, found⟩ := cases
  · have unknown : ¬NameKnown config env files := fun known => by
      cases hmissing.symm.trans (known name hname)
    refine ⟨fun name' hname' _ => ?_, fun name' paths h => ?_, ?_, ?_, fun s h => ?_, same⟩
    · rw [Option.some.inj (hname.symm.trans hname')]
    · cases h
      exact ⟨hname, hmissing, rfl⟩
    · simp [unknown]
    · simp [unknown]
    · cases h
  · refine ⟨fun name hname hmissing => ?_, fun name paths h => ?_, ?_, ?_, fun s h => ?_, same⟩
    · cases hmissing.symm.trans (known name hname)
    · cases h
    · simp [known, unreadable]
    · simp [unreadable]
    · cases h
  · refine ⟨fun name hname hmissing => ?_, fun name paths h => ?_, ?_, ?_, fun s' h => ?_, same⟩
    · cases hmissing.symm.trans (known name hname)
    · cases h
    · simp [readable]
    · simp [known, readable]
    · cases h
      exact found

/-- A region and a truth value that are set hide others below them, and numbers that cannot be read
there do no harm. A profile that does not exist is found before half of a key pair. -/
theorem set_values_hide_lower_layers :
    let config : Config := { region := some "eu-west-1", maxAttempts := some 5 }
    let env : Environment := ⟨[("AWS_USE_FIPS_ENDPOINT", " TRUE ")], none⟩
    let files : SharedFiles := ⟨[⟨"default", []⟩], []⟩
    let env' : Environment := { env with
      bindings := ("AWS_REGION", "us-west-2") :: ("AWS_MAX_ATTEMPTS", "many") :: env.bindings }
    let files' : SharedFiles := ⟨[⟨"default", [("use_fips_endpoint", "maybe")]⟩], []⟩
    SameAbove config config env env' files files' ∧
    (ofParts config env' files').map values =
      .ok (none, "eu-west-1", 5, ⟨none, none⟩, true, false) ∧
    ofParts { profile := some "gone", accessKey := some "AKIA" } env files =
      .error (.unknownProfile "gone" []) := by
  intro config env files env' files'
  have above : SameAbove config config env env' files files' := by
    have nothing {β : Type} : SameToFirst [none, none, none, (none : Option β)]
        [none, none, none, none] := .next (.next (.next (.next .nil)))
    refine ⟨rfl, rfl, rfl, nofun, .next (.next (.next .nil)), .found, .found, nothing, nothing,
      .next .found, .next (.next (.next .nil))⟩
  refine ⟨above, ?_, ?_⟩
  · rw [(ofParts_by_layers config env files).2.2.2.2.2 config env' files' above]
    decide +kernel
  · exact (ofParts_by_layers _ env files).1 "gone" (by decide +kernel) (by decide +kernel)

end Settings
end AwsCredentials
