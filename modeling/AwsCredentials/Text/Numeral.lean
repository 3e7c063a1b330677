/-!
# Decimal numerals

`readNat` reads an unsigned number: an optional plus sign, then ASCII digits and nothing else.
`padded` writes one with leading zeros. `hexValue?` reads one digit in base sixteen.
-/

namespace AwsCredentials.Text

/-- The value of a digit. -/
def digitValue (c : Char) : Nat :=
  c.toNat - '0'.toNat

/-- The number that a list of digits stands for. -/
def digitsValue (cs : List Char) : Nat :=
  cs.foldl (fun n c => 10 * n + digitValue c) 0

/-- An unsigned number at most `max`. -/
def readNat (max : Nat) (s : String) : Option Nat :=
  let digits := match s.toList with
    | '+' :: rest => rest
    | cs => cs
  if digits.isEmpty || !digits.all Char.isDigit then none
  else
    let n := digitsValue digits
    if n ≤ max then some n else none

/-- The value of a digit in base sixteen. -/
def hexValue? (c : Char) : Option Nat :=
  if c.isDigit then some (digitValue c)
  else if 'a' ≤ c ∧ c ≤ 'f' then some (c.toNat - 'a'.toNat + 10)
  else if 'A' ≤ c ∧ c ≤ 'F' then some (c.toNat - 'A'.toNat + 10)
  else none

/-- The largest number of 32 bits. -/
def max32 : Nat :=
  4294967295

/-- The largest number of 64 bits. -/
def max64 : Nat :=
  18446744073709551615

/-- The decimal digits of a number, with zeros in front up to the given width. -/
def padded (width n : Nat) : String :=
  let digits := Nat.toDigits 10 n
  String.ofList (List.replicate (width - digits.length) '0' ++ digits)

/-- The digits of `n` in a field of `width` places, without the zeros at their end. -/
def fraction (width n : Nat) : String :=
  String.ofList ((padded width n).toList.reverse.dropWhile (· == '0')).reverse

end AwsCredentials.Text
