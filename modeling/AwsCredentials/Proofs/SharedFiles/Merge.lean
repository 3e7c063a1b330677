import AwsCredentials.SharedFiles
import AwsCredentials.Text.Pattern
import Mathlib.Data.List.DropRight
import Mathlib.Data.List.Induction

/-!
# Merged sections

Shared files come down to a list of sections, each of a kind of file, and merging takes one section
after another. What it comes to is told by the list as a whole:

* `FileKind.profileName?_eq_some_iff`: which profile a header names, and `Holds`: which section holds
  a profile;
* `profile?_merged`: a profile is there if some section holds it, and it has the entries of all
  sections that do, in their order;
* `get?_setAll`: of several entries for a key the last one counts;
* `merged_append_cons`: a section that holds no profile can be left out.
-/

namespace AwsCredentials

/-! ## Trimmed text -/

namespace Text

theorem dropWhile_trimChars (cs : List Char) : (trimChars cs).dropWhile isBlank = trimChars cs := by
  have prefixed : trimChars cs <+: cs.dropWhile isBlank := by
    rw [← List.reverse_suffix, trimChars, trimEndChars, List.reverse_reverse]
    exact List.dropWhile_suffix _
  obtain ⟨blanks, hcs⟩ := prefixed
  rw [List.dropWhile_eq_self_iff]
  intro hpos
  -- the first character that is left is the first one that is not blank
  have hhead : (cs.dropWhile isBlank).head? = some (trimChars cs)[0] := by
    rw [← hcs, List.head?_append_of_ne_nil _ (List.ne_nil_of_length_pos hpos), List.head?_eq_getElem?,
      List.getElem?_eq_getElem hpos]
  have hfirst := List.head?_dropWhile_not isBlank cs
  rw [hhead] at hfirst
  simp [hfirst]

theorem trimChars_trimChars (cs : List Char) : trimChars (trimChars cs) = trimChars cs := by
  have ends : trimEndChars (trimChars cs) = trimChars cs := by
    simp only [trimChars, trimEndChars, List.reverse_reverse, List.dropWhile_idempotent]
  calc trimChars (trimChars cs) = trimEndChars ((trimChars cs).dropWhile isBlank) := rfl
    _ = trimChars cs := by rw [dropWhile_trimChars, ends]

theorem trim_trim (s : String) : trim (trim s) = trim s := by
  simp only [trim, String.toList_ofList, trimChars_trimChars]

theorem nonBlank_trim (s : String) : nonBlank (trim s) = nonBlank s := by
  simp only [nonBlank, blank_trim, trim_trim]

theorem blank_iff_trim_eq_empty (s : String) : blank s = true ↔ trim s = "" := by
  constructor
  · intro h
    have hnil : s.toList.dropWhile isBlank = [] := by
      rw [List.dropWhile_eq_nil_iff]
      exact List.all_eq_true.1 h
    simp [trim, trimChars, trimEndChars, hnil]
  · intro h
    rw [← blank_trim, h]
    rfl

theorem nonBlank_eq_some_iff {s t : String} : nonBlank s = some t ↔ t = trim s ∧ t ≠ "" := by
  unfold nonBlank
  split
  · next h =>
    have hempty := (blank_iff_trim_eq_empty s).1 h
    simp [hempty]
  · next h =>
    have hne : trim s ≠ "" := fun hempty => h ((blank_iff_trim_eq_empty s).2 hempty)
    rw [Option.some.injEq]
    constructor
    · rintro rfl
      exact ⟨rfl, hne⟩
    · rintro ⟨rfl, -⟩
      rfl

end Text

/-! ## The profile of a section -/

/-- Whether a header names a profile: in a file of keys by its own name, in a file of settings as
`default`, or after the word `profile` and a blank. -/
def FileKind.Names : FileKind → String → String → Prop
  | .credentials, header, name => name = Text.trim header ∧ name ≠ ""
  | .config, header, name =>
    (Text.trim header = "default" ∧ name = "default") ∨
      ∃ blank rest, (Text.trim header).toList = "profile".toList ++ blank :: rest ∧
        Text.isBlank blank = true ∧ name = Text.trim (String.ofList rest) ∧ name ≠ ""

theorem FileKind.profileName?_eq_some_iff {kind : FileKind} {header name : String} :
    kind.profileName? header = some name ↔ kind.Names header name := by
  cases kind with
  | credentials =>
    show Text.nonBlank (Text.trim header) = some name ↔ _
    rw [Text.nonBlank_eq_some_iff, Text.trim_trim]
    rfl
  | config =>
    simp only [profileName?, Names]
    split
    · next hdefault =>
      rw [hdefault]
      constructor
      · intro h
        exact .inl ⟨rfl, (Option.some.inj h).symm⟩
      · rintro (⟨-, rfl⟩ | ⟨blank, rest, hsplit, -⟩)
        · rfl
        · simp [defaultProfile] at hsplit
    · next hdefault =>
      have other : ¬ (Text.trim header = "default" ∧ name = "default") := fun h => hdefault h.1
      simp only [other, false_or]
      constructor
      · intro h
        split at h
        · next blank rest hstart =>
          split at h
          · next hblank =>
            obtain ⟨hname, hne⟩ := Text.nonBlank_eq_some_iff.1 h
            exact ⟨blank, rest, Text.eq_of_dropStart? hstart, hblank, hname, hne⟩
          · cases h
        · cases h
      · rintro ⟨blank, rest, hsplit, hblank, hname, hne⟩
        rw [hsplit, Text.dropStart?_append]
        simp only [hblank, if_true]
        exact Text.nonBlank_eq_some_iff.2 ⟨hname, hne⟩

namespace SharedFiles

/-- Whether a section of a kind of file holds the profile with a name. -/
def Holds (s : FileKind × Ini.Section) (name : String) : Prop :=
  ∃ header, s.2.name = some header ∧ s.1.Names header name

theorem holds_iff {s : FileKind × Ini.Section} {name : String} :
    Holds s name ↔ s.2.name.bind s.1.profileName? = some name := by
  simp only [Holds, Option.bind_eq_some_iff, FileKind.profileName?_eq_some_iff]

instance (s : FileKind × Ini.Section) (name : String) : Decidable (Holds s name) :=
  decidable_of_iff _ holds_iff.symm

/-! ## Entries -/

/-- The value of the last entry for a key, whatever blanks stand around the keys. -/
def lastValue? (entries : List (String × String)) (key : String) : Option String :=
  (entries.filter fun e => Text.trim e.1 = key).getLast?.map Prod.snd

theorem lastValue?_append_singleton (entries : List (String × String)) (e : String × String)
    (key : String) : lastValue? (entries ++ [e]) key =
      if key = Text.trim e.1 then some e.2 else lastValue? entries key := by
  by_cases h : key = Text.trim e.1
  · simp [lastValue?, List.filter_append, h]
  · simp [lastValue?, List.filter_append, h, Ne.symm h]

theorem setAll_append (p : Profile) (entries more : List (String × String)) :
    setAll p (entries ++ more) = setAll (setAll p entries) more :=
  List.foldl_append

theorem name_setAll (p : Profile) (entries : List (String × String)) :
    (setAll p entries).name = p.name := by
  induction entries using List.reverseRecOn with
  | nil => rfl
  | append_singleton entries e ih =>
    rw [setAll_append, ← ih]
    rfl

/-- The last entry for a key decides on its value. -/
theorem get?_setAll (p : Profile) (entries : List (String × String)) (key : String) :
    (setAll p entries).get? key = ((lastValue? entries key).map Text.nonBlank).getD (p.get? key) := by
  induction entries using List.reverseRecOn with
  | nil => rfl
  | append_singleton entries e ih =>
    have hset : setAll p (entries ++ [e]) =
        (setAll p entries).set (Text.trim e.1) (Text.trim e.2) := by
      rw [setAll_append]
      rfl
    rw [hset, Profile.get?_set, lastValue?_append_singleton, Text.nonBlank_trim]
    split
    · rfl
    · exact ih

theorem get?_setAll_named (name : String) (entries : List (String × String)) (key : String) :
    (setAll (.named name) entries).get? key = (lastValue? entries key).bind Text.nonBlank := by
  rw [get?_setAll]
  cases lastValue? entries key with
  | none => rfl
  | some value => rfl

/-! ## Merging -/

theorem find?_enter (name : String) (entries : List (String × String)) (profiles : List Profile)
    (other : String) : (enter name entries profiles).find? (fun p => p.name == other) =
      if other = name then
        some (setAll ((profiles.find? fun p => p.name == name).getD (.named name)) entries)
      else profiles.find? fun p => p.name == other := by
  induction profiles with
  | nil =>
    have hname : (setAll (.named name) entries).name = name := name_setAll _ _
    by_cases h : other = name
    · simp [enter, hname, h]
    · simp [enter, hname, h, Ne.symm h]
  | cons p rest ih =>
    unfold enter
    by_cases hp : p.name = name
    · have hname : (setAll p entries).name = name := (name_setAll _ _).trans hp
      by_cases h : other = name
      · simp [hp, hname, h]
      · simp [hp, hname, h, Ne.symm h]
    · rw [if_neg hp, List.find?_cons, List.find?_cons, List.find?_cons, ih]
      have hne : (p.name == name) = false := beq_eq_false_iff_ne.2 hp
      by_cases h : other = name
      · simp [h, hne]
      · simp [h]

/-- A section sets its entries in the profile that it holds and leaves all others as they are. -/
theorem profile?_mergeSection (files : SharedFiles) (s : FileKind × Ini.Section) (name : String) :
    (files.mergeSection s.1 s.2).profile? name =
      if Holds s name then some (setAll ((files.profile? name).getD (.named name)) s.2.entries)
      else files.profile? name := by
  unfold mergeSection
  split
  · next held hheld =>
    have hiff : Holds s name ↔ name = held := by
      rw [holds_iff, hheld, Option.some.injEq, eq_comm]
    simp only [hiff, profile?, find?_enter]
    split
    · next heq => rw [heq]
    · rfl
  · next hnone =>
    rw [if_neg]
    rw [holds_iff, hnone]
    exact (Option.some_ne_none name).symm

/-- What sections come to that are merged one after another. -/
def merged (sections : List (FileKind × Ini.Section)) : SharedFiles :=
  sections.foldl (fun files s => files.mergeSection s.1 s.2) empty

/-- All entries of the sections that hold a profile, in their order. -/
def entriesOf (sections : List (FileKind × Ini.Section)) (name : String) : List (String × String) :=
  sections.flatMap fun s => if Holds s name then s.2.entries else []

/-- A profile that some sections hold has the entries of all of them. -/
theorem profile?_merged (sections : List (FileKind × Ini.Section)) (name : String) :
    (merged sections).profile? name =
      if ∃ s ∈ sections, Holds s name then some (setAll (.named name) (entriesOf sections name))
      else none := by
  induction sections using List.reverseRecOn with
  | nil => simp [merged, empty, profile?]
  | append_singleton sections s ih =>
    have hlast : merged (sections ++ [s]) = (merged sections).mergeSection s.1 s.2 := by
      simp only [merged, List.foldl_append, List.foldl_cons, List.foldl_nil]
    have hentries : entriesOf (sections ++ [s]) name =
        entriesOf sections name ++ if Holds s name then s.2.entries else [] := by
      simp only [entriesOf, List.flatMap_append, List.flatMap_singleton]
    rw [hlast, profile?_mergeSection, ih, hentries]
    by_cases hs : Holds s name
    · by_cases hsome : ∃ s ∈ sections, Holds s name
      · have hall : ∃ t ∈ sections ++ [s], Holds t name := ⟨s, by simp, hs⟩
        rw [if_pos hs, if_pos hsome, if_pos hall, if_pos hs, setAll_append]
        rfl
      · have hall : ∃ t ∈ sections ++ [s], Holds t name := ⟨s, by simp, hs⟩
        have hnil : entriesOf sections name = [] := by
          refine List.flatMap_eq_nil_iff.2 fun t ht => if_neg fun hheld => hsome ⟨t, ht, hheld⟩
        rw [if_pos hs, if_neg hsome, if_pos hall, if_pos hs, hnil]
        rfl
    · have hiff : (∃ t ∈ sections ++ [s], Holds t name) ↔ ∃ t ∈ sections, Holds t name := by
        simp [List.mem_append, or_and_right, exists_or, hs]
      simp only [if_neg hs, hiff, List.append_nil]

theorem contains_merged (sections : List (FileKind × Ini.Section)) (name : String) :
    (merged sections).contains name = true ↔ ∃ s ∈ sections, Holds s name := by
  rw [contains, profile?_merged]
  split
  · next h => simp [h]
  · next h => simp [h]

/-- A section that holds no profile can be left out. -/
theorem merged_append_cons {s : FileKind × Ini.Section} (h : ∀ name, ¬ Holds s name)
    (before after : List (FileKind × Ini.Section)) :
    merged (before ++ s :: after) = merged (before ++ after) := by
  have passed (files : SharedFiles) : files.mergeSection s.1 s.2 = files := by
    unfold mergeSection
    split
    · next name hname => exact absurd (holds_iff.2 hname) (h name)
    · rfl
  simp only [merged, List.foldl_append, List.foldl_cons, passed]

end SharedFiles

end AwsCredentials
