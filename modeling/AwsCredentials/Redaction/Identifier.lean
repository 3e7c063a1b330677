import AwsCredentials.Text.Word

/-!
# Unique identifiers

Users, keys, roles and their like have identifiers of twenty capitals and digits that start with the
letters of their kind. `maskIdentifiers` leaves the first and the last four characters of every word
that is such an identifier.
-/

namespace AwsCredentials.Redaction

/-- The first letters of the identifiers. -/
def identifierStarts : List String :=
  ["ABIA", "ACCA", "AGPA", "AIDA", "AIPA", "AKIA", "ANPA", "ANVA", "APKA", "AROA", "ASCA", "ASIA"]

/-- Whether a character may stand in an identifier. -/
def isIdentifierChar (c : Char) : Bool :=
  c.isUpper || c.isDigit

/-- Whether a word is an identifier. -/
def isIdentifier (word : List Char) : Bool :=
  word.length = 20 && word.all isIdentifierChar
    && identifierStarts.any fun start => start.toList.isPrefixOf word

/-- A word without the middle of its identifier, if it is one. -/
def maskWord (word : List Char) : List Char :=
  if isIdentifier word then word.take 4 ++ List.replicate 12 '*' ++ word.drop 16 else word

/-- The stretches of characters that are all in words, or all between words. -/
def stretches (cs : List Char) : List (List Char) :=
  cs.splitBy fun a b => Text.isWord a == Text.isWord b

/-- The characters with the middle of every identifier masked. -/
def maskIdentifiers (cs : List Char) : List Char :=
  (stretches cs).flatMap maskWord

/-- The text with the middle of every identifier masked. -/
def masked (s : String) : String :=
  String.ofList (maskIdentifiers s.toList)

end AwsCredentials.Redaction
