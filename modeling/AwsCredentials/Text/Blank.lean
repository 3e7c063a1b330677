/-!
# Blank text

Blanks are the characters with the Unicode property `White_Space`. `trim` removes them from both
ends of a text and `nonBlank` reads a text as a setting: a blank one counts as not set.
-/

namespace AwsCredentials.Text

/-- Whether a character is white space. The zero-width characters are not. -/
def isBlank (c : Char) : Bool :=
  (0x09 ≤ c.toNat && c.toNat ≤ 0x0d) || c == ' ' || c.toNat == 0x85 || c.toNat == 0xa0
    || c.toNat == 0x1680 || (0x2000 ≤ c.toNat && c.toNat ≤ 0x200a) || c.toNat == 0x2028
    || c.toNat == 0x2029 || c.toNat == 0x202f || c.toNat == 0x205f || c.toNat == 0x3000

/-- The characters without the blanks at their end. -/
def trimEndChars (cs : List Char) : List Char :=
  (cs.reverse.dropWhile isBlank).reverse

/-- The characters without the blanks at either end. -/
def trimChars (cs : List Char) : List Char :=
  trimEndChars (cs.dropWhile isBlank)

/-- The text without the blanks at either end. -/
def trim (s : String) : String :=
  String.ofList (trimChars s.toList)

/-- Whether a text holds nothing but blanks. -/
def blank (s : String) : Bool :=
  s.toList.all isBlank

/-- The trimmed text, unless it is blank. -/
def nonBlank (s : String) : Option String :=
  if blank s then none else some (trim s)

/-- A text without its outer blanks is blank if the text is. -/
theorem blank_trim (s : String) : blank (trim s) = blank s := by
  have all_dropWhile (cs : List Char) : (cs.dropWhile isBlank).all isBlank = cs.all isBlank :=
    calc (cs.dropWhile isBlank).all isBlank
        = ((cs.takeWhile isBlank).all isBlank && (cs.dropWhile isBlank).all isBlank) := by
          rw [List.all_takeWhile, Bool.true_and]
      _ = cs.all isBlank := by rw [← List.all_append, List.takeWhile_append_dropWhile]
  simp only [blank, trim, trimChars, trimEndChars, String.toList_ofList, List.all_reverse,
    all_dropWhile]

theorem isSome_nonBlank (s : String) : (nonBlank s).isSome = !blank s := by
  unfold nonBlank
  cases blank s <;> rfl

end AwsCredentials.Text
