/-!
# Sets of characters given by code point ranges

A character class of a standard is a table of inclusive ranges of code points. `Ranges.holds`
looks a character up in such a table.
-/

namespace AwsCredentials.Text

/-- Inclusive ranges of code points. -/
abbrev Ranges := List (Nat × Nat)

/-- Whether a character lies in one of the ranges. -/
def Ranges.holds (ranges : Ranges) (c : Char) : Bool :=
  ranges.any fun range => range.1 ≤ c.toNat && c.toNat ≤ range.2

end AwsCredentials.Text
