import Mathlib.Data.List.Basic

/-!
# Reading shell commands

`Shell.read` reads a text as a POSIX shell does, as far as the text alone tells its meaning: as a
list of simple commands, each of them a list of words. Blanks end words, and ends of lines and
semicolons end commands. A backslash or a pair of quotes keeps a character from that, and is itself
dropped. A number sign at the start of a word begins a comment. A text has no reading if its meaning
may depend on more than the text (on variables, on the files that match a pattern, on a home
directory, on the output of commands), if it has operators that make more of commands than a list,
or if it ends within quotes.

Outside of quotes, a shell takes some characters as they are (`Literal`) and drops all others, one
of them at most for the end of each word.

* `State.foldlM_literal`: characters that are taken as they are make a word;
* `State.Reads`, `State.Tells`: what becomes of a character, and what this comes to for a text;
* `literal_of_read`: a text that is read as words with as many characters as itself has no
  characters in them but those that are taken as they are.
-/

namespace AwsCredentials.Shell

/-! ## The reader -/

/-- Where a character stands. -/
inductive Place where
  /-- Outside of quotes. -/
  | bare
  /-- Behind a backslash outside of quotes. -/
  | escaped
  /-- Between single quotes. -/
  | single
  /-- Between double quotes. -/
  | double
  /-- Behind a backslash between double quotes. -/
  | doubleEscaped
  | comment
  deriving DecidableEq

/-- What has been read: whole commands, whole words of the next one, and a part of the next word, if
that has begun. -/
structure State where
  commands : List (List (List Char)) := []
  words : List (List Char) := []
  word : Option (List Char) := none
  place : Place := .bare

/-- The characters that stand for an operator other than a semicolon, for an expansion or for a
pattern, and the one that no text of a shell has. -/
def unread : List Char :=
  ['&', '|', '<', '>', '(', ')', '$', '\x60', '*', '?', '[', '\x00']

/-- Whether a tilde that follows some characters of a word may stand for a home directory: at the
start of the word, behind its first equals sign, or behind a colon. -/
def homeMayFollow (word : List Char) : Bool :=
  word.isEmpty || word.getLast? == some ':'
    || (word.getLast? == some '=' && word.count '=' == 1)

namespace State

/-- A character added to the word, which begins with it if there is none. -/
def push (s : State) (c : Char) : State :=
  { s with word := some (s.word.getD [] ++ [c]) }

/-- A word begun, if there is none. -/
def openWord (s : State) : State :=
  { s with word := some (s.word.getD []) }

/-- The word ended, if there is one. -/
def endWord (s : State) : State :=
  { s with words := s.words ++ s.word.toList, word := none }

/-- The word and the command ended, if there is one. -/
def endCommand (s : State) : State :=
  let words := s.words ++ s.word.toList
  { s with commands := if words = [] then s.commands else s.commands ++ [words]
           words := [], word := none }

/-- Reads a character outside of quotes. -/
def stepBare (s : State) (c : Char) : Option State :=
  if c = ' ' ∨ c = '\t' then some s.endWord
  else if c = '\n' then some s.endCommand
  -- unlike the end of a line, a semicolon needs a command to end
  else if c = ';' then if s.words = [] ∧ s.word = none then none else some s.endCommand
  else if c = '\\' then some { s with place := .escaped }
  else if c = '\x27' then some { s.openWord with place := .single }
  else if c = '"' then some { s.openWord with place := .double }
  else if c = '#' ∧ s.word = none then some { s with place := .comment }
  else if c ∈ unread ∨ c = '~' ∧ homeMayFollow (s.word.getD []) then none
  else some (s.push c)

/-- Reads a character. -/
def step (s : State) (c : Char) : Option State :=
  if c = '\x00' then none
  else
    match s.place with
    | .bare => s.stepBare c
    | .escaped =>
      if c = '\n' then some { s with place := .bare } else some { s.push c with place := .bare }
    | .single => if c = '\x27' then some { s with place := .bare } else some (s.push c)
    | .double =>
      if c = '"' then some { s with place := .bare }
      else if c = '\\' then some { s with place := .doubleEscaped }
      else if c = '$' ∨ c = '\x60' then none
      else some (s.push c)
    | .doubleEscaped =>
      -- between double quotes, a backslash stays before all but a few characters
      if c = '\n' then some { s with place := .double }
      else if c ∈ ['$', '\x60', '"', '\\'] then some { s.push c with place := .double }
      else some { (s.push '\\').push c with place := .double }
    | .comment => if c = '\n' then some { s.endCommand with place := .bare } else some s

/-- The commands, at the end of the text. -/
def finish (s : State) : Option (List (List (List Char))) :=
  match s.place with
  | .bare | .comment => some s.endCommand.commands
  | _ => none

end State

/-- The commands of a text, each of them as its words. -/
def read (text : String) : Option (List (List String)) := do
  let s ← text.toList.foldlM State.step {}
  let commands ← s.finish
  return commands.map (·.map String.ofList)

/-! ## What is taken as it is -/

/-- The characters that are never taken as they are outside of quotes. -/
def special : List Char := [' ', '\t', '\n', ';', '\\', '\x27', '"'] ++ unread

/-- Whether a character that follows some characters of a word outside of quotes is taken as it
is. -/
structure Literal (word : List Char) (c : Char) : Prop where
  ordinary : c ∉ special
  comment : c = '#' → word ≠ []
  home : c = '~' → homeMayFollow word = false

/-- Whether all characters of a word are taken as they are outside of quotes. -/
def AllLiteral (word : List Char) : Prop :=
  ∀ u c v, word = u ++ c :: v → Literal u c

theorem allLiteral_nil : AllLiteral [] := by
  intro u c v h
  simp at h

theorem allLiteral_append {u v : List Char} : AllLiteral (u ++ v) ↔
    AllLiteral u ∧ ∀ w c rest, v = w ++ c :: rest → Literal (u ++ w) c := by
  constructor
  · refine fun h => ⟨fun w c rest hu => h w c (rest ++ v) (by simp [hu]), fun w c rest hv => ?_⟩
    exact h (u ++ w) c rest (by simp [hv])
  · rintro ⟨hu, hv⟩ w c rest h
    obtain ⟨as, rfl, has⟩ | ⟨bs, rfl, hbs⟩ := List.append_eq_append_iff.1 h
    · exact hv as c rest has
    · cases bs with
      | nil => simpa using hv [] c rest hbs.symm
      | cons b bs =>
        obtain ⟨rfl, rfl⟩ := List.cons.inj hbs
        exact hu w c bs rfl

theorem allLiteral_snoc {u : List Char} {c : Char} :
    AllLiteral (u ++ [c]) ↔ AllLiteral u ∧ Literal u c := by
  rw [allLiteral_append]
  refine and_congr_right fun _ => ⟨fun h => by simpa using h [] c [] rfl, fun h w d rest hw => ?_⟩
  obtain ⟨rfl, ⟨rfl, rfl⟩⟩ | ⟨_, rfl, hrest⟩ := List.append_eq_cons_iff.1 hw.symm
  · simpa using h
  · simp at hrest

namespace State

variable {s s' : State} {c : Char} {n : Nat}

/-- A character that is taken as it is goes into the word. -/
theorem step_of_literal (hbare : s.place = .bare) (h : Literal (s.word.getD []) c) :
    s.step c = some (s.push c) := by
  obtain ⟨hordinary, hcomment, hhome⟩ := h
  obtain ⟨hquiet, hunread⟩ := not_or.1 (mt List.mem_append.2 hordinary)
  simp only [List.mem_cons, List.not_mem_nil, or_false, not_or] at hquiet
  have hnul : c ≠ '\x00' := fun hc => hunread (hc ▸ by decide)
  have hword : ¬ (c = '#' ∧ s.word = none) := fun ⟨hc, hnone⟩ => hcomment hc (by rw [hnone]; rfl)
  have htilde : ¬ (c = '~' ∧ homeMayFollow (s.word.getD []) = true) := fun ⟨hc, hmay⟩ => by
    simp [hhome hc] at hmay
  simp [step, stepBare, hbare, hnul, hquiet, hword, hunread, htilde]

/-- The characters of a word that are all taken as they are go into the word. -/
theorem foldlM_literal {u v : List Char} (hbare : s.place = .bare) (hword : s.word.getD [] = u)
    (h : AllLiteral (u ++ v)) (hv : v ≠ []) :
    v.foldlM step s = some { s with word := some (u ++ v) } := by
  induction v generalizing s u with
  | nil => exact absurd rfl hv
  | cons c v ih =>
    have hstep : s.step c = some (s.push c) :=
      step_of_literal hbare (hword ▸ h u c v rfl)
    rw [List.foldlM_cons, hstep]
    cases v with
    | nil => simp [push, hword]
    | cons d v =>
      have hnext := @ih (s.push c) (u ++ [c]) hbare (by simp [push, hword]) (by simpa using h) nofun
      simpa [push] using hnext

end State

/-! ## What is dropped -/

/-- The number of characters of some words, with one more behind each of them. -/
def written : List (List Char) → Nat
  | [] => 0
  | w :: words => w.length + 1 + written words

@[simp] theorem written_nil : written [] = 0 := rfl

@[simp] theorem written_cons (w : List Char) (words : List (List Char)) :
    written (w :: words) = w.length + 1 + written words := rfl

@[simp] theorem written_append (words words' : List (List Char)) :
    written (words ++ words') = written words + written words' := by
  induction words with
  | nil => simp
  | cons w words ih => simp [ih, Nat.add_assoc]

/-- The number of characters before a place that have been dropped, or are not taken yet. -/
def Place.dropped : Place → Nat
  | .bare => 0
  | .escaped | .single | .double | .comment => 1
  | .doubleEscaped => 2

namespace State

variable {s s' : State} {c : Char} {n : Nat}

/-- All whole words that have been read. -/
def whole (s : State) : List (List Char) := s.commands.flatten ++ s.words

/-- The number of characters of what has been read. -/
def size (s : State) : Nat := written s.whole + (s.word.getD []).length

@[simp] theorem whole_endWord (s : State) : s.endWord.whole = s.whole ++ s.word.toList := by
  simp [whole, endWord]

@[simp] theorem whole_endCommand (s : State) : s.endCommand.whole = s.whole ++ s.word.toList := by
  unfold whole endCommand
  dsimp only
  split
  · next h => simp [h]
  · simp

theorem size_endCommand (s : State) :
    s.endCommand.size = s.size + (if s.word = none then 0 else 1) := by
  have hword : s.endCommand.word = none := rfl
  unfold size
  rw [hword, whole_endCommand]
  cases s.word with
  | none => simp
  | some w => simp; omega

@[simp] theorem size_push (s : State) (c : Char) : (s.push c).size = s.size + 1 := by
  simp [size, push, whole, Nat.add_assoc]

@[simp] theorem size_place (s : State) (place : Place) : { s with place }.size = s.size := rfl

@[simp] theorem place_push (s : State) (c : Char) : (s.push c).place = s.place := rfl

/-- What becomes of a character: outside of quotes it may end a word, or go into the word as it is.
In all other cases what has been read falls behind the text by a character. -/
inductive Reads (s : State) (c : Char) : State → Prop
  | endsWord : s.place = .bare → Reads s c s.endWord
  | endsCommand : s.place = .bare → Reads s c s.endCommand
  | takes : s.place = .bare → c ∉ special → (c = '#' → s.word ≠ none) →
    (c = '~' → homeMayFollow (s.word.getD []) = false) → Reads s c (s.push c)
  | drops {s' : State} : s'.size + s'.place.dropped ≤ s.size + s.place.dropped + 1 →
    s'.size ≤ s.size + s.place.dropped → Reads s c s'

theorem Reads.of_stepBare (hbare : s.place = .bare) (h : s.stepBare c = some s') :
    s.Reads c s' := by
  have drops (t : State) (hsize : t.size = s.size) (hplace : t.place.dropped = 1) :
      s.Reads c t := by
    have hnone : s.place.dropped = 0 := by rw [hbare]; rfl
    exact .drops (by omega) (by omega)
  unfold stepBare at h
  split_ifs at h with hblank hline hsemicolon _ hbackslash hsingle hdouble hcomment hunread <;>
    obtain rfl := Option.some.inj h
  · exact .endsWord hbare
  · exact .endsCommand hbare
  · exact .endsCommand hbare
  · exact drops _ rfl rfl
  · exact drops _ rfl rfl
  · exact drops _ rfl rfl
  · exact drops _ rfl rfl
  · rw [not_or] at hunread
    have hordinary : c ∉ special := by
      simp only [special, List.cons_append, List.nil_append, List.mem_cons, not_or]
      exact ⟨fun h => hblank (.inl h), fun h => hblank (.inr h), hline, hsemicolon, hbackslash,
        hsingle, hdouble, hunread.1⟩
    exact .takes hbare hordinary (fun hc hword => hcomment ⟨hc, hword⟩) fun hc =>
      Bool.eq_false_iff.2 fun hmay => hunread.2 ⟨hc, hmay⟩

theorem Reads.of_step (h : s.step c = some s') : s.Reads c s' := by
  have hend : s.endCommand.size ≤ s.size + 1 := by
    rw [size_endCommand]
    split <;> omega
  unfold step at h
  split at h
  · cases h
  cases hplace : s.place with
  | bare =>
    rw [hplace] at h
    exact .of_stepBare hplace h
  | escaped | single | double | doubleEscaped | comment =>
    -- the character that led here is dropped, whatever becomes of this one
    simp only [hplace] at h
    split_ifs at h <;> obtain rfl := Option.some.inj h <;> refine .drops ?_ ?_ <;>
      simp only [size_place, size_push, place_push, hplace, Place.dropped] <;> omega

/-- What a state tells of the characters before it: there are at least as many as it has read, and
if there are no more, all of the words consist of characters that are taken as they are. -/
structure Tells (s : State) (n : Nat) : Prop where
  size_le : s.size + s.place.dropped ≤ n
  literal : s.size = n →
    (∀ w ∈ s.whole, AllLiteral w) ∧ ∀ w ∈ s.word, w ≠ [] ∧ AllLiteral w

theorem Tells.endCommand {t : State} (h : s.Tells n) (hbare : s.place = .bare)
    (hplace : t.place = .bare) (hwhole : t.whole = s.endCommand.whole) (hword : t.word = none) :
    t.Tells (n + 1) := by
  have hbound : s.size ≤ n := by simpa [hbare, Place.dropped] using h.size_le
  have hsize : t.size = s.endCommand.size := by
    simp only [size, hwhole, hword]
    rfl
  have hend : t.size ≤ s.size + 1 := by
    rw [hsize, size_endCommand]
    split <;> omega
  refine ⟨by rw [hplace]; exact Nat.le_trans hend (by omega), fun hfull => ⟨fun w hw => ?_, ?_⟩⟩
  · obtain ⟨hwords, hlast⟩ := h.literal (by omega)
    rw [hwhole, whole_endCommand, List.mem_append, Option.mem_toList] at hw
    exact hw.elim (hwords w) fun hw => (hlast w hw).2
  · simp [hword]

theorem Tells.step (h : s.Tells n) (hstep : s.step c = some s') : s'.Tells (n + 1) := by
  cases Reads.of_step hstep with
  | endsWord hbare => exact h.endCommand hbare hbare (by simp) rfl
  | endsCommand hbare => exact h.endCommand hbare hbare rfl rfl
  | takes hbare hordinary hcomment hhome =>
    -- a word that quotes have begun may be empty, but only if these were dropped
    have hbound := h.size_le
    rw [hbare] at hbound
    refine ⟨by rw [place_push, hbare, size_push]; exact Nat.succ_le_succ hbound, fun hfull => ?_⟩
    obtain ⟨hwords, hlast⟩ := h.literal (by simpa using hfull)
    refine ⟨hwords, fun w hw => ?_⟩
    obtain rfl : s.word.getD [] ++ [c] = w := Option.some.inj hw
    refine ⟨by simp, allLiteral_snoc.2 ?_⟩
    cases hword : s.word with
    | none =>
      rw [hword] at hhome hcomment
      exact ⟨allLiteral_nil, hordinary, fun hc => absurd rfl (hcomment hc), hhome⟩
    | some w =>
      rw [hword] at hhome
      obtain ⟨hw, hliteral⟩ := hlast w hword
      exact ⟨hliteral, hordinary, fun _ => hw, hhome⟩
  | drops hsize hless =>
    have hbound := h.size_le
    exact ⟨by omega, fun hfull => by omega⟩

/-- What holds of the start of a text holds of all of it, one character after the other. -/
theorem Tells.foldlM {cs : List Char} (h : s.Tells n) (hrun : cs.foldlM State.step s = some s') :
    s'.Tells (n + cs.length) := by
  induction cs generalizing s n with
  | nil =>
    obtain rfl := Option.some.inj hrun
    exact h
  | cons c cs ih =>
    rw [List.foldlM_cons] at hrun
    obtain ⟨t, hstep, hrest⟩ := Option.bind_eq_some_iff.1 hrun
    have hwhole := ih (h.step hstep) hrest
    rwa [Nat.add_assoc, Nat.add_comm 1] at hwhole

end State

/-- A text that is read as words with as many characters as itself consists of them and of what
stands between them, so that all characters of the words are taken as they are. -/
theorem literal_of_read {text : String} {commands : List (List String)}
    (h : read text = some commands)
    (hfull : text.toList.length < written (commands.flatten.map String.toList)) :
    ∀ command ∈ commands, ∀ word ∈ command, AllLiteral word.toList := by
  obtain ⟨s, hrun, h⟩ := Option.bind_eq_some_iff.1 h
  obtain ⟨read, hread, h⟩ := Option.bind_eq_some_iff.1 h
  obtain rfl := Option.some.inj h
  have hwords : (read.map (·.map String.ofList)).flatten.map String.toList = read.flatten := by
    simp [List.map_flatten, Function.comp_def]
  have start : State.Tells {} 0 := ⟨Nat.le_refl 0, fun _ => ⟨nofun, nofun⟩⟩
  have tells := start.foldlM hrun
  have hend : read.flatten = s.endCommand.whole := by
    unfold State.finish at hread
    split at hread <;> cases hread <;> simp [State.whole, State.endCommand]
  have hsize : s.endCommand.size = written read.flatten := by
    rw [hend]
    rfl
  have hbound := tells.size_le
  rw [hwords, ← hsize, State.size_endCommand] at hfull
  obtain ⟨hliteral, hlast⟩ := tells.literal (by split at hfull <;> omega)
  intro command hcommand word hword
  obtain ⟨ws, hws, rfl⟩ := List.mem_map.1 hcommand
  obtain ⟨w, hw, rfl⟩ := List.mem_map.1 hword
  have hmem : w ∈ s.whole ++ s.word.toList := by
    rw [← State.whole_endCommand, ← hend]
    exact List.mem_flatten.2 ⟨ws, hws, hw⟩
  rw [String.toList_ofList]
  rcases List.mem_append.1 hmem with hmem | hmem
  · exact hliteral w hmem
  · exact (hlast w (Option.mem_toList.1 hmem)).2

end AwsCredentials.Shell
