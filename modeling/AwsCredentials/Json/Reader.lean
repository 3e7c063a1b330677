import AwsCredentials.Json.Value
import AwsCredentials.Text.Ascii
import AwsCredentials.Text.Numeral

/-!
# Reading JSON

`Json.read?` reads a whole text as one JSON value. Every reader takes a start of some characters and
hands back what follows it. Blanks may stand around values and marks. A character that is written as
two halves is put together again; half of one alone is refused.
-/

namespace AwsCredentials.Json

/-- Whether a character may stand between marks. -/
def isBlank (c : Char) : Bool :=
  c == ' ' || c == '\t' || c == '\n' || c == '\r'

def skipBlanks (cs : List Char) : List Char := cs.dropWhile isBlank

/-- A part of a written text: a character, or a number of sixteen bits that is one or half of one.
-/
inductive Piece where
  | char (c : Char)
  | unit (n : Nat)
  deriving DecidableEq, Repr

/-- The character that stands for itself or for a control character after a backslash. -/
def escaped? (c : Char) : Option Char :=
  match c with
  | '"' | '\\' | '/' => some c
  | 'b' => some '\x08'
  | 'f' => some '\x0c'
  | 'n' => some '\n'
  | 'r' => some '\r'
  | 't' => some '\t'
  | _ => none

/-- The parts of a text up to the quote that ends it. -/
def readPieces : List Char → Option (List Piece × List Char)
  | [] => none
  | '"' :: rest => some ([], rest)
  | '\\' :: 'u' :: a :: b :: c :: d :: rest => do
    let digits ← [a, b, c, d].mapM Text.hexValue?
    let (pieces, rest) ← readPieces rest
    return (.unit (digits.foldl (fun n digit => 16 * n + digit) 0) :: pieces, rest)
  | '\\' :: c :: rest => do
    let c ← escaped? c
    let (pieces, rest) ← readPieces rest
    return (.char c :: pieces, rest)
  | c :: rest => do
    if c.toNat < 0x20 || c == '\\' then none
    let (pieces, rest) ← readPieces rest
    return (.char c :: pieces, rest)

/-- Whether a number is the first half of a character. -/
def isFirstHalf (n : Nat) : Bool := 0xd800 ≤ n && n < 0xdc00

/-- Whether a number is the second half of a character. -/
def isSecondHalf (n : Nat) : Bool := 0xdc00 ≤ n && n < 0xe000

/-- The characters that some parts stand for. -/
def joinPieces : List Piece → Option (List Char)
  | [] => some []
  | .char c :: rest => (joinPieces rest).map (c :: ·)
  | .unit n :: .unit m :: rest =>
    if isFirstHalf n then
      if isSecondHalf m then
        (joinPieces rest).map (Char.ofNat (0x10000 + 0x400 * (n - 0xd800) + (m - 0xdc00)) :: ·)
      else none
    else if isSecondHalf n then none
    else (joinPieces (.unit m :: rest)).map (Char.ofNat n :: ·)
  | .unit n :: rest =>
    if isFirstHalf n || isSecondHalf n then none
    else (joinPieces rest).map (Char.ofNat n :: ·)

/-- The text up to the quote that ends it. -/
def readText (cs : List Char) : Option (String × List Char) := do
  let (pieces, rest) ← readPieces cs
  return (String.ofList (← joinPieces pieces), rest)

/-- One digit or more. -/
def readDigits (cs : List Char) : Option (List Char × List Char) :=
  let digits := cs.takeWhile Char.isDigit
  if digits.isEmpty then none else some (digits, cs.dropWhile Char.isDigit)

/-- The part of a number before its fraction: a zero, or digits that start with another one. -/
def readWhole (cs : List Char) : Option (List Char × List Char) :=
  match cs with
  | '0' :: rest => some (['0'], rest)
  | _ => readDigits cs

/-- The fraction of a number, if it has one. -/
def readFraction (cs : List Char) : Option (List Char × List Char) :=
  match cs with
  | '.' :: rest => (readDigits rest).map fun r => ('.' :: r.1, r.2)
  | _ => some ([], cs)

/-- The exponent of a number, if it has one. -/
def readExponent (cs : List Char) : Option (List Char × List Char) :=
  match cs with
  | e :: sign :: rest =>
    if e == 'e' || e == 'E' then
      if sign == '+' || sign == '-' then
        (readDigits rest).map fun r => (e :: sign :: r.1, r.2)
      else (readDigits (sign :: rest)).map fun r => (e :: r.1, r.2)
    else some ([], cs)
  | _ => some ([], cs)

/-- A number as it is written. -/
def readNumber (cs : List Char) : Option (Json × List Char) := do
  let (sign, rest) := match cs with
    | '-' :: rest => (['-'], rest)
    | _ => ([], cs)
  let (whole, rest) ← readWhole rest
  let (fraction, rest) ← readFraction rest
  let (exponent, rest) ← readExponent rest
  return (number (String.ofList (sign ++ whole ++ fraction ++ exponent)), rest)

/-- One of the three words, or a number. -/
def readScalar (cs : List Char) : Option (Json × List Char) :=
  let word := fun (name : String) (value : Json) =>
    (Text.dropStart? name.toList cs).map fun rest => (value, rest)
  word "null" null <|> word "true" (bool true) <|> word "false" (bool false) <|> readNumber cs

mutual

/-- A value. The number bounds the steps; two for each character are enough. -/
def readValue : Nat → List Char → Option (Json × List Char)
  | 0, _ => none
  | steps + 1, cs =>
    match skipBlanks cs with
    | '"' :: rest => (readText rest).map fun r => (string r.1, r.2)
    | '[' :: rest =>
      match skipBlanks rest with
      | ']' :: rest => some (array [], rest)
      | _ => (readItems steps rest).map fun r => (array r.1, r.2)
    | '\x7b' :: rest =>
      match skipBlanks rest with
      | '\x7d' :: rest => some (object [], rest)
      | _ => (readMembers steps rest).map fun r => (object r.1, r.2)
    | rest => readScalar rest

/-- Items up to the bracket that ends them. -/
def readItems : Nat → List Char → Option (List Json × List Char)
  | 0, _ => none
  | steps + 1, cs => do
    let (item, rest) ← readValue steps cs
    match skipBlanks rest with
    | ',' :: rest =>
      let (items, rest) ← readItems steps rest
      return (item :: items, rest)
    | ']' :: rest => return ([item], rest)
    | _ => none

/-- Members up to the brace that ends them. -/
def readMembers : Nat → List Char → Option (List (String × Json) × List Char)
  | 0, _ => none
  | steps + 1, cs => do
    let rest ← Text.dropStart? ['"'] (skipBlanks cs)
    let (name, rest) ← readText rest
    let rest ← Text.dropStart? [':'] (skipBlanks rest)
    let (value, rest) ← readValue steps rest
    match skipBlanks rest with
    | ',' :: rest =>
      let (members, rest) ← readMembers steps rest
      return ((name, value) :: members, rest)
    | '\x7d' :: rest => return ([(name, value)], rest)
    | _ => none

end

/-- Reads a text that holds one value. -/
def read? (s : String) : Option Json := do
  let (value, rest) ← readValue (2 * s.length + 2) s.toList
  if (skipBlanks rest).isEmpty then value else none

end AwsCredentials.Json
