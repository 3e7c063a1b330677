import AwsCredentials.Proofs.Secrecy.Environment

/-!
# Secrets of the shared files

Files whose texts differ at most in the values of secret keys hold profiles that are twins
(`SharedFiles.twin_mergeText`), and profiles that are twins say the same but for their secrets: the
chains that they begin follow the same profiles and assume the same roles (`SharedFiles.Twin.plan`).
-/

namespace AwsCredentials

/-! ## Profiles -/

namespace Profile

/-- The keys whose values are secret. -/
def secretKeys : List String := ["aws_secret_access_key", "aws_session_token"]

/-- Two profiles that differ at most in their secrets. A secret that is set in one of them is set in
the other one, and no path that they tell asks for a secret. -/
structure Twin (p p' : Profile) : Prop where
  name : p'.name = p.name
  get? : ∀ key, key ∉ secretKeys → p'.get? key = p.get? key
  isSome : ∀ key, (p'.get? key).isSome = (p.get? key).isSome
  plain : ∀ path, p.get? "web_identity_token_file" = some path → Path.Plain path

end Profile

/-- Two beginnings of a chain that differ at most in their secrets. -/
inductive ProfileBase.Twin : ProfileBase → ProfileBase → Prop
  | keys {c c' : Credentials} : c.Twin c' → Twin (.keys c) (.keys c')
  | environment (profile : String) : Twin (.environment profile) (.environment profile)
  | outside (profile : String) (source : OutsideSource) :
    Twin (.outside profile source) (.outside profile source)
  | webIdentity {spec : WebRoleSpec} : (∀ path, spec.tokenFile = some path → path.Plain) →
    Twin (.webIdentity spec) (.webIdentity spec)
  | nothing : Twin .nothing .nothing

/-- Two profiles that say the same but for secrets. -/
inductive ProfileStep.Twin : ProfileStep → ProfileStep → Prop
  | ends {base base' : ProfileBase} (role : Option RoleSpec) : base.Twin base' →
    Twin (.ends base role) (.ends base' role)
  | follows (source : String) (role : RoleSpec) : Twin (.follows source role) (.follows source role)

/-- Two chains that differ at most in their secrets. -/
structure ProfilePlan.Twin (plan plan' : ProfilePlan) : Prop where
  base : plan.base.Twin plan'.base
  roles : plan'.roles = plan.roles

namespace Profile.Twin

variable {p p' : Profile}

theorem keys? (h : p.Twin p') : SameEnd (Option.Rel Credentials.Twin) p.keys? p'.keys? := by
  unfold Profile.keys?
  rw [h.get? "aws_access_key_id" (by decide), h.name]
  have hsecret := h.isSome "aws_secret_access_key"
  revert hsecret
  cases p.get? "aws_access_key_id" <;> cases p.get? "aws_secret_access_key" <;>
    cases p'.get? "aws_secret_access_key" <;> intro hsecret
  · exact .ok .none
  · cases hsecret
  · cases hsecret
  · exact .error _
  · exact .error _
  · cases hsecret
  · cases hsecret
  · exact .ok (.some ⟨_, _, rfl⟩)

theorem duration? (h : p.Twin p') : p'.duration? = p.duration? := by
  rw [Profile.duration?, Profile.duration?, h.get? _ (by decide), h.name]

theorem role (h : p.Twin p') (arn : String) : p'.role arn = p.role arn := by
  rw [Profile.role, Profile.role, h.duration?, h.get? "role_session_name" (by decide),
    h.get? "external_id" (by decide)]

theorem webRole (h : p.Twin p') (arn : String) (tokenFile : Path) :
    SameEnd (fun spec spec' => spec' = spec ∧ spec.tokenFile = some tokenFile)
      (p.webRole arn tokenFile) (p'.webRole arn tokenFile) := by
  rw [Profile.webRole, Profile.webRole, h.duration?, h.get? "role_session_name" (by decide)]
  cases p.duration? with
  | error e => exact .error e
  | ok duration => exact .ok ⟨rfl, rfl⟩

theorem baseNamed (h : p.Twin p') (word : String) :
    SameEnd ProfileBase.Twin (p.baseNamed word) (p'.baseNamed word) := by
  unfold Profile.baseNamed
  rw [h.name]
  split
  · exact .ok (.environment _)
  · exact .ok (.outside _ _)
  · exact .ok (.outside _ _)
  · exact .error _

theorem stepWithoutRole (h : p.Twin p') (isSource : Bool) :
    SameEnd ProfileStep.Twin (p.stepWithoutRole isSource) (p'.stepWithoutRole isSource) := by
  unfold Profile.stepWithoutRole
  rw [h.get? "source_profile" (by decide), h.get? "credential_source" (by decide),
    h.get? "web_identity_token_file" (by decide), h.name]
  dsimp only
  split
  · exact .error _
  split
  · exact .error _
  refine h.keys?.bind fun c c' hc => ?_
  cases hc with
  | some hc => exact .ok (.ends none (.keys hc))
  | none =>
    cases isSource
    · exact .ok (.ends none .nothing)
    · exact .error _

theorem stepWithRole (h : p.Twin p') (arn : String) :
    SameEnd ProfileStep.Twin (p.stepWithRole arn) (p'.stepWithRole arn) := by
  have hplain := h.plain
  unfold Profile.stepWithRole
  rw [h.get? "source_profile" (by decide), h.get? "credential_source" (by decide),
    h.get? "web_identity_token_file" (by decide), h.name, h.role]
  split
  · next tokenFile _ _ hpath =>
    refine (h.webRole arn tokenFile).bind fun spec spec' hspec => ?_
    obtain ⟨rfl, hfile⟩ := hspec
    refine .ok (.ends _ (.webIdentity fun path hfile' => ?_))
    cases hfile.symm.trans hfile'
    exact hplain tokenFile hpath
  · refine (SameEnd.same _).bind fun role _ hrole => hrole ▸ ?_
    exact (h.baseNamed _).bind fun base base' hbase => .ok (.ends _ hbase)
  · refine (SameEnd.same _).bind fun role _ hrole => hrole ▸ ?_
    split
    · refine h.keys?.bind fun c c' hc => ?_
      cases hc with
      | some hc => exact .ok (.ends _ (.keys hc))
      | none => exact .error _
    · exact .ok (.follows _ _)
  · exact (SameEnd.same _).bind fun role _ _ => .error _
  · exact .error _

/-- Profiles that are twins say the same but for secrets. -/
theorem step (h : p.Twin p') (isSource : Bool) :
    SameEnd ProfileStep.Twin (p.step isSource) (p'.step isSource) := by
  unfold Profile.step
  rw [h.get? "role_arn" (by decide)]
  split
  · exact h.stepWithRole _
  · exact h.stepWithoutRole isSource

end Profile.Twin

/-! ## Shared files -/

namespace SharedFiles

/-- Two collections of shared files that differ at most in their secrets. -/
structure Twin (files files' : SharedFiles) : Prop where
  profiles : List.Forall₂ Profile.Twin files.profiles files'.profiles
  paths : files'.paths = files.paths

namespace Twin

variable {files files' : SharedFiles}

theorem profile? (h : files.Twin files') (name : String) :
    Option.Rel Profile.Twin (files.profile? name) (files'.profile? name) := by
  obtain ⟨hprofiles, -⟩ := h
  unfold SharedFiles.profile?
  generalize files.profiles = profiles at hprofiles ⊢
  generalize files'.profiles = profiles' at hprofiles ⊢
  induction hprofiles with
  | nil => exact .none
  | cons hp _ ih =>
    rw [List.find?_cons, List.find?_cons, hp.name]
    split
    · exact .some hp
    · exact ih

theorem contains (h : files.Twin files') (name : String) :
    files'.contains name = files.contains name :=
  isSome_of_rel (h.profile? name)

theorem follow (h : files.Twin files') (start : String) (left : Nat) (visited : List String)
    (current : String) :
    SameEnd ProfilePlan.Twin (files.follow start left visited current)
      (files'.follow start left visited current) := by
  induction left generalizing visited current with
  | zero =>
    unfold SharedFiles.follow
    split
    · exact .error _
    · exact .error _
  | succ left ih =>
    unfold SharedFiles.follow
    split
    · exact .error _
    rw [h.paths]
    have hp := h.profile? current
    generalize files.profile? current = p at hp ⊢
    generalize files'.profile? current = p' at hp ⊢
    cases hp with
    | none => exact .error _
    | some hp =>
      refine (hp.step _).bind fun step step' hstep => ?_
      cases hstep with
      | ends role hbase => exact .ok ⟨hbase, rfl⟩
      | follows source role =>
        refine (ih _ source).bind fun plan plan' hplan => .ok ⟨hplan.base, ?_⟩
        rw [hplan.roles]

/-- The chains of twins follow the same profiles. -/
theorem plan (h : files.Twin files') (name : String) :
    SameEnd ProfilePlan.Twin (files.plan name) (files'.plan name) :=
  h.follow name longestChain [] name

end Twin

end SharedFiles

/-! ## Texts of shared files -/

namespace Ini

/-- Two entries that differ at most in a secret, which is blank in both or in none. -/
structure EntryTwin (e e' : String × String) : Prop where
  key : e'.1 = e.1
  value : Text.trim e.1 ∉ Profile.secretKeys → e'.2 = e.2
  blank : Text.blank e'.2 = Text.blank e.2

/-- Two sections that differ at most in their secrets. -/
structure Section.Twin (s s' : Section) : Prop where
  name : s'.name = s.name
  entries : List.Forall₂ EntryTwin s.entries s'.entries

/-- Whether no path that some entries tell asks for a secret. -/
def PlainEntries (entries : List (String × String)) : Prop :=
  ∀ e ∈ entries, Text.trim e.1 = "web_identity_token_file" →
    ∀ path, Text.nonBlank (Text.trim e.2) = some path → Path.Plain path

theorem EntryTwin.refl (e : String × String) : EntryTwin e e := ⟨rfl, fun _ => rfl, rfl⟩

theorem Section.Twin.refl (s : Section) : s.Twin s :=
  ⟨rfl, List.forall₂_same.2 fun e _ => .refl e⟩

end Ini

open Ini (EntryTwin PlainEntries)

/-- Profiles stay twins when entries are set that are twins. -/
theorem Profile.Twin.set {p p' : Profile} (h : p.Twin p') {e e' : String × String}
    (he : EntryTwin e e') (hplain : PlainEntries [e]) :
    (p.set (Text.trim e.1) (Text.trim e.2)).Twin (p'.set (Text.trim e'.1) (Text.trim e'.2)) := by
  refine ⟨h.name, fun key hkey => ?_, fun key => ?_, fun path hpath => ?_⟩
  · rw [get?_set, get?_set, he.key]
    split
    · next hsame =>
      rw [hsame] at hkey
      rw [he.value hkey]
    · exact h.get? key hkey
  · rw [get?_set, get?_set, he.key]
    split
    · rw [Text.isSome_nonBlank, Text.isSome_nonBlank, Text.blank_trim, Text.blank_trim, he.blank]
    · exact h.isSome key
  · rw [get?_set] at hpath
    split at hpath
    · next hsame => exact hplain e (List.mem_singleton_self e) hsame.symm path hpath
    · exact h.plain path hpath

namespace SharedFiles

theorem setAll_cons (p : Profile) (e : String × String) (rest : List (String × String)) :
    setAll p (e :: rest) = setAll (p.set (Text.trim e.1) (Text.trim e.2)) rest := by
  rw [setAll, setAll, List.foldl_cons]

theorem twin_setAll {entries entries' : List (String × String)}
    (h : List.Forall₂ EntryTwin entries entries') (hplain : PlainEntries entries) {p p' : Profile}
    (hp : p.Twin p') : (setAll p entries).Twin (setAll p' entries') := by
  induction h generalizing p p' with
  | nil => exact hp
  | @cons e e' _ _ he _ ih =>
    obtain ⟨hfirst, hrest⟩ := List.forall_mem_cons.1 hplain
    have hset := hp.set he fun entry hentry => List.mem_singleton.1 hentry ▸ hfirst
    rw [setAll_cons, setAll_cons]
    exact ih hrest hset

theorem twin_named (name : String) : (Profile.named name).Twin (Profile.named name) :=
  ⟨rfl, fun _ _ => rfl, fun _ => rfl, nofun⟩

theorem twin_enter (name : String) {entries entries' : List (String × String)}
    (h : List.Forall₂ EntryTwin entries entries') (hplain : PlainEntries entries)
    {profiles profiles' : List Profile} (hp : List.Forall₂ Profile.Twin profiles profiles') :
    List.Forall₂ Profile.Twin (enter name entries profiles) (enter name entries' profiles') := by
  induction hp with
  | nil => exact .cons (twin_setAll h hplain (twin_named name)) .nil
  | cons hfirst hrest ih =>
    unfold enter
    rw [hfirst.name]
    split
    · exact .cons (twin_setAll h hplain hfirst) hrest
    · exact .cons hfirst ih

theorem Twin.mergeSection {files files' : SharedFiles} (h : files.Twin files') (kind : FileKind)
    {s s' : Ini.Section} (hs : s.Twin s') (hplain : PlainEntries s.entries) :
    (files.mergeSection kind s).Twin (files'.mergeSection kind s') := by
  unfold SharedFiles.mergeSection
  rw [hs.name]
  split
  · exact ⟨twin_enter _ hs.entries hplain h.profiles, h.paths⟩
  · exact h

theorem Twin.merge {files files' : SharedFiles} (h : files.Twin files') (kind : FileKind)
    {document document' : Ini.Document} (hd : List.Forall₂ Ini.Section.Twin document document')
    (hplain : ∀ s ∈ document, PlainEntries s.entries) :
    (files.merge kind document).Twin (files'.merge kind document') := by
  unfold SharedFiles.merge
  induction hd generalizing files files' with
  | nil => exact h
  | cons hs _ ih =>
    obtain ⟨hfirst, hrest⟩ := List.forall_mem_cons.1 hplain
    exact ih (h.mergeSection kind hs hfirst) hrest

/-- Two texts of a file that differ at most in their secrets, as they are read, and that are both
blank or none. -/
structure TwinText (text text' : String) : Prop where
  blank : Text.blank text' = Text.blank text
  read : SameEnd (List.Forall₂ Ini.Section.Twin) (Ini.Document.read (withoutMark text))
    (Ini.Document.read (withoutMark text'))

/-- Whether no path that a shared file tells asks for a secret. -/
def PlainText (text : String) : Prop :=
  ∀ document, Ini.Document.read (withoutMark text) = .ok document →
    ∀ s ∈ document, PlainEntries s.entries

/-- Texts that are twins are merged into twins. -/
theorem Twin.mergeText {files files' : SharedFiles} (h : files.Twin files') (kind : FileKind)
    (path : Path) {text text' : String} (ht : TwinText text text') (hplain : PlainText text) :
    SameEnd Twin (files.mergeText kind path (withoutMark text))
      (files'.mergeText kind path (withoutMark text')) := by
  have hread := ht.read
  unfold PlainText at hplain
  unfold SharedFiles.mergeText
  generalize Ini.Document.read (withoutMark text) = r at hread hplain ⊢
  generalize Ini.Document.read (withoutMark text') = r' at hread ⊢
  cases hread with
  | error e => exact .error _
  | ok hd => exact .ok (h.merge kind hd (hplain _ rfl))

end SharedFiles

end AwsCredentials
