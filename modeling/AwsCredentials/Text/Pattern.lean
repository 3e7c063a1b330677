import AwsCredentials.Text.Ascii

/-!
# Patterns

A pattern reads a start of some characters and says what to put in its place. `Pattern.replaceAll`
replaces every part of a text that a pattern reads, from left to right; what has been read once is
not read again.
-/

namespace AwsCredentials.Text

/-- What to put in the place of a start of the characters, and what follows it. -/
structure Pattern where
  read : List Char → Option (List Char × List Char)
  shorter : ∀ {cs : List Char} {r : List Char × List Char}, read cs = some r →
    r.2.length < cs.length

/-- The characters with every part that the pattern reads replaced. -/
def Pattern.replaceAll (p : Pattern) : List Char → List Char
  | [] => []
  | c :: cs =>
    match _h : p.read (c :: cs) with
    | some (replacement, rest) => replacement ++ p.replaceAll rest
    | none => c :: p.replaceAll cs
termination_by cs => cs.length
decreasing_by
  · exact p.shorter _h
  · simp

/-- The first of some names that the characters start with, and what follows it. -/
def nameAt? (names : List String) (cs : List Char) : Option (List Char × List Char) :=
  names.findSome? fun name => (dropStart? name.toList cs).map fun rest => (name.toList, rest)

theorem eq_of_dropStart? {start cs rest : List Char} (h : dropStart? start cs = some rest) :
    cs = start ++ rest := by
  induction start generalizing cs with
  | nil => simpa [dropStart?] using h
  | cons p ps ih =>
    cases cs with
    | nil => simp [dropStart?] at h
    | cons c cs =>
      rw [dropStart?] at h
      split at h
      · next hp => simp [hp, ih h]
      · simp at h

theorem dropStart?_append (start rest : List Char) :
    dropStart? start (start ++ rest) = some rest := by
  induction start with
  | nil => rfl
  | cons p ps ih => simp [dropStart?, ih]

theorem eq_of_nameAt? {names : List String} {cs name rest : List Char}
    (h : nameAt? names cs = some (name, rest)) :
    cs = name ++ rest ∧ ∃ n ∈ names, n.toList = name := by
  obtain ⟨n, hn, hr⟩ := List.exists_of_findSome?_eq_some h
  obtain ⟨r, hd, he⟩ := Option.map_eq_some_iff.1 hr
  simp only [Prod.mk.injEq] at he
  exact ⟨by rw [← he.1, ← he.2]; exact eq_of_dropStart? hd, n, hn, he.1⟩

end AwsCredentials.Text
