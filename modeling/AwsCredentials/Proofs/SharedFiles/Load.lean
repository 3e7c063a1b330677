import AwsCredentials.Proofs.SharedFiles.Merge
import AwsCredentials.Proofs.Task.Run
import AwsCredentials.Service

/-!
# Loaded files

The shared files are read one after another, those of settings before those of keys. What loading
comes to depends on what the files hold and on nothing else (`Attempt.ComesTo`): it fails with the
first file that is there and cannot be read, and else merges the sections of all files
(`comesTo_load`). `load_last_entry_wins` says so profile by profile and key by key.
-/

namespace AwsCredentials

variable {I : Interface} {α β : Type} {content : Path → Except ReadError String}

namespace Attempt

/-- Whether an attempt comes to `r` wherever the files have some content, whoever answers the calls
and whatever the deadline. It leaves reports and nothing else. -/
structure ComesTo (content : Path → Except ReadError String) (x : Attempt I α)
    (r : Except Error α) : Prop where
  run : ∀ {σ : Type} (host : Host I σ) (deadline : Option Nat) (w : World I σ),
    w.files = content → ∃ events, x.run.run host deadline w = (some r, { w with events })

variable {x : Attempt I α} {f : α → Attempt I β}

theorem ComesTo.bind {a : α} {r : Except Error β} (hx : ComesTo content x (.ok a))
    (hf : ComesTo content (f a) r) : ComesTo content (x >>= f) r := by
  refine ⟨fun host deadline w hw => ?_⟩
  obtain ⟨events, hrun⟩ := hx.run host deadline w hw
  obtain ⟨events', hrun'⟩ := hf.run host deadline { w with events } hw
  refine ⟨events', ?_⟩
  show (x.run.bind _).run host deadline w = _
  rw [Task.run_bind, hrun]
  exact hrun'

theorem ComesTo.bind_error {e : Error} (hx : ComesTo content x (.error e)) :
    ComesTo content (x >>= f) (.error e) := by
  refine ⟨fun host deadline w hw => ?_⟩
  obtain ⟨events, hrun⟩ := hx.run host deadline w hw
  refine ⟨events, ?_⟩
  show (x.run.bind _).run host deadline w = _
  rw [Task.run_bind, hrun]
  rfl

theorem comesTo_pure (a : α) : ComesTo content (pure a : Attempt I α) (.ok a) :=
  ⟨fun _ _ w _ => ⟨w.events, rfl⟩⟩

theorem comesTo_throw (e : Error) : ComesTo content (throw e : Attempt I α) (.error e) :=
  ⟨fun _ _ w _ => ⟨w.events, rfl⟩⟩

theorem comesTo_note (e : Log.Event) : ComesTo content (note e : Attempt I Unit) (.ok ()) :=
  ⟨fun _ _ w _ => ⟨w.events.push e, rfl⟩⟩

theorem comesTo_readFile (path : Path) :
    ComesTo content (ofTask (Task.readFile path) : Attempt I _) (.ok (content path)) :=
  ⟨fun _ _ w hw => ⟨w.events, hw ▸ rfl⟩⟩

end Attempt

open Attempt

namespace SharedFiles

/-- The sections of a file, or what is wrong with it. A file that is not there has none. -/
def document (content : Path → Except ReadError String) (path : Path) :
    Except FileFault Ini.Document :=
  match content path with
  | .ok text =>
    match Ini.Document.read (withoutMark text) with
    | .ok sections => .ok sections
    | .error e => .error (.malformed e)
  | .error e => if e.missing then .ok [] else .error (.unreadable e)

/-- The error of a file that is there and cannot be read. -/
def error? (content : Path → Except ReadError String) (path : Path) : Option Error :=
  match document content path with
  | .ok _ => none
  | .error fault => some (.sharedFile path fault)

/-- The files with their kinds, in the order in which they are read. -/
def ordered (configFiles credentialsFiles : List Path) : List (FileKind × Path) :=
  configFiles.map (.config, ·) ++ credentialsFiles.map (.credentials, ·)

/-- The sections of some files in their order, each with its kind. -/
def sectionsOf (content : Path → Except ReadError String) (files : List (FileKind × Path)) :
    List (FileKind × Ini.Section) :=
  files.flatMap fun file =>
    match document content file.2 with
    | .ok sections => sections.map (file.1, ·)
    | .error _ => []

theorem error?_of_ok {path : Path} {sections : Ini.Document}
    (h : document content path = .ok sections) : error? content path = none := by
  rw [error?, h]

theorem error?_of_error {path : Path} {fault : FileFault} (h : document content path = .error fault) :
    error? content path = some (.sharedFile path fault) := by
  rw [error?, h]

/-- Sections that were merged, and the files that were asked for. -/
def mergedFrom (sections : List (FileKind × Ini.Section)) (paths : List Path) : SharedFiles :=
  { merged sections with paths }

theorem mergeSection_mergedFrom (sections : List (FileKind × Ini.Section)) (paths : List Path)
    (kind : FileKind) (s : Ini.Section) : (mergedFrom sections paths).mergeSection kind s =
      mergedFrom (sections ++ [(kind, s)]) paths := by
  have hlast : merged (sections ++ [(kind, s)]) = (merged sections).mergeSection kind s := by
    simp only [merged, List.foldl_append, List.foldl_cons, List.foldl_nil]
  simp only [mergedFrom, hlast, mergeSection]
  split <;> rfl

theorem merge_mergedFrom (sections : List (FileKind × Ini.Section)) (paths : List Path)
    (kind : FileKind) (d : Ini.Document) : (mergedFrom sections paths).merge kind d =
      mergedFrom (sections ++ d.map (kind, ·)) paths := by
  induction d generalizing sections with
  | nil => simp [merge]
  | cons s d ih =>
    have first := mergeSection_mergedFrom sections paths kind s
    have rest := ih (sections ++ [(kind, s)])
    simp only [merge, List.foldl_cons] at rest ⊢
    rw [first, rest, List.map_cons, List.append_assoc, List.singleton_append]

/-- A file adds its sections, or fails. -/
theorem comesTo_loadFile (sections : List (FileKind × Ini.Section)) (paths : List Path)
    (kind : FileKind) (path : Path) :
    ComesTo content ((mergedFrom sections paths).loadFile kind path : Attempt I SharedFiles)
      (match document content path with
        | .ok d => .ok (mergedFrom (sections ++ d.map (kind, ·)) (paths ++ [path]))
        | .error fault => .error (.sharedFile path fault)) := by
  have hpaths : { mergedFrom sections paths with paths := paths ++ [path] } =
      mergedFrom sections (paths ++ [path]) := rfl
  refine (comesTo_readFile path).bind ?_
  unfold document
  cases content path with
  | error e =>
    cases hmissing : e.missing with
    | true =>
      simp only [hmissing, if_true, List.map_nil, List.append_nil]
      exact (comesTo_note _).bind (comesTo_pure _)
    | false =>
      simp only [hmissing, Bool.false_eq_true, if_false]
      exact comesTo_throw _
  | ok text =>
    simp only [mergeText]
    cases Ini.Document.read (withoutMark text) with
    | error e => exact comesTo_throw _
    | ok d =>
      simp only [← merge_mergedFrom]
      exact (comesTo_note _).bind (comesTo_pure _)

/-- What reading some files comes to. -/
def loaded (content : Path → Except ReadError String) (files : List (FileKind × Path)) :
    Except Error SharedFiles :=
  match files.findSome? fun file => error? content file.2 with
  | some e => .error e
  | none => .ok (mergedFrom (sectionsOf content files) (files.map Prod.snd))

/-- The files that were read before do not matter for whether the others can be read. -/
theorem comesTo_foldlM (files : List (FileKind × Path)) (sections : List (FileKind × Ini.Section))
    (paths : List Path) :
    ComesTo content (files.foldlM (fun found file => found.loadFile file.1 file.2)
      (mergedFrom sections paths) : Attempt I SharedFiles)
      (match files.findSome? fun file => error? content file.2 with
        | some e => .error e
        | none => .ok (mergedFrom (sections ++ sectionsOf content files)
            (paths ++ files.map Prod.snd))) := by
  induction files generalizing sections paths with
  | nil =>
    simp only [List.findSome?_nil, sectionsOf, List.flatMap_nil, List.map_nil, List.append_nil]
    exact comesTo_pure _
  | cons file files ih =>
    have hfile := @comesTo_loadFile I content sections paths file.1 file.2
    rw [List.foldlM_cons, List.findSome?_cons]
    cases hd : document content file.2 with
    | error e =>
      rw [error?_of_error hd]
      rw [hd] at hfile
      exact hfile.bind_error
    | ok d =>
      rw [error?_of_ok hd]
      rw [hd] at hfile
      have hsections : sectionsOf content (file :: files) =
          d.map (file.1, ·) ++ sectionsOf content files := by
        simp only [sectionsOf, List.flatMap_cons, hd]
      have rest := ih (sections ++ d.map (file.1, ·)) (paths ++ [file.2])
      rw [List.append_assoc, List.append_assoc, List.singleton_append, ← hsections,
        ← List.map_cons] at rest
      exact hfile.bind rest

/-- Loading comes to what the files hold. -/
theorem comesTo_load (configFiles credentialsFiles : List Path) :
    ComesTo content (load configFiles credentialsFiles : Attempt I SharedFiles)
      (loaded content (ordered configFiles credentialsFiles)) := by
  have hload : (load configFiles credentialsFiles : Attempt I SharedFiles) =
      (ordered configFiles credentialsFiles).foldlM
        (fun found file => found.loadFile file.1 file.2) (mergedFrom [] []) := by
    rw [ordered, List.foldlM_append, List.foldlM_map]
    simp only [List.foldlM_map]
    rfl
  have files := @comesTo_foldlM I content (ordered configFiles credentialsFiles) [] []
  rw [List.nil_append, List.nil_append] at files
  rw [hload, loaded]
  exact files

/-- Loading does nothing but read the files and report. It fails exactly if a file that is there
cannot be read, with what is wrong with the first one. Else a profile is there exactly if a section
of a file holds it, and the value of a key is that of the last entry for it among all sections that
hold the profile, unless that is blank. A section that holds no profile has no influence. -/
theorem load_last_entry_wins (configFiles credentialsFiles : List Path) :
    ∃ r, ComesTo content (load configFiles credentialsFiles : Attempt I SharedFiles) r ∧
      (∀ e, r = .error e ↔
        (ordered configFiles credentialsFiles).findSome? (fun file => error? content file.2) =
          some e) ∧
      ∀ files, r = .ok files →
        let sections := sectionsOf content (ordered configFiles credentialsFiles)
        (∀ name, files.contains name = true ↔ ∃ s ∈ sections, Holds s name) ∧
        (∀ name, files.contains name = true → ∃ p, files.profile? name = some p ∧
          ∀ key, p.get? key = (lastValue? (entriesOf sections name) key).bind Text.nonBlank) ∧
        ∀ before s after, sections = before ++ s :: after → (∀ name, ¬ Holds s name) →
          files.profiles = (merged (before ++ after)).profiles := by
  refine ⟨_, comesTo_load configFiles credentialsFiles, fun e => ?_, fun files hfiles => ?_⟩
  · unfold loaded
    split
    · next e' h => rw [h, Except.error.injEq, Option.some.injEq]
    · next h => simp [h]
  · intro sections
    have hprofiles : files.profiles = (merged sections).profiles := by
      unfold loaded at hfiles
      split at hfiles
      · cases hfiles
      · rw [← Except.ok.inj hfiles]
        rfl
    have hprofile (name : String) : files.profile? name = (merged sections).profile? name := by
      rw [profile?, profile?, hprofiles]
    have hcontains (name : String) :
        files.contains name = true ↔ ∃ s ∈ sections, Holds s name := by
      rw [contains, hprofile]
      exact contains_merged sections name
    refine ⟨hcontains, fun name hname => ?_, fun before s after hsplit hnone => ?_⟩
    · refine ⟨setAll (.named name) (entriesOf sections name), ?_, fun key =>
        get?_setAll_named name _ key⟩
      rw [hprofile, profile?_merged, if_pos ((hcontains name).1 hname)]
    · rw [hprofiles, hsplit, merged_append_cons hnone]

/-- A later section wins over an earlier one and a file of keys over one of settings, a section
without a name and a missing file say nothing. -/
theorem keys_win_over_settings :
    let content : Path → Except ReadError String := fun path =>
      if path = "config" then .ok "[profile dev]\nregion = a\n[ profile  dev ]\nregion = b\n"
      else if path = "keys" then .ok "[dev]\nregion = c\nregion = d\n[ ]\nregion = e\n"
      else .error .notFound
    ∃ files p, ComesTo content (load ["config", "none"] ["keys"] : ServiceAttempt SharedFiles)
        (.ok files) ∧ files.profile? "dev" = some p ∧ p.get? "region" = some "d" := by
  intro content
  obtain ⟨r, hload, herror, hok⟩ :=
    @load_last_entry_wins Services content ["config", "none"] ["keys"]
  cases r with
  | error e =>
    have hfine : (ordered ["config", "none"] ["keys"]).findSome?
        (fun file => error? content file.2) = none := by decide +kernel
    cases hfine.symm.trans ((herror e).1 rfl)
  | ok files =>
    obtain ⟨hcontains, hvalues, -⟩ := hok files rfl
    have hdev : files.contains "dev" = true := (hcontains "dev").2 (by decide +kernel)
    obtain ⟨p, hp, hget⟩ := hvalues "dev" hdev
    refine ⟨files, p, hload, hp, (hget "region").trans ?_⟩
    decide +kernel

end SharedFiles

end AwsCredentials
