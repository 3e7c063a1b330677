import AwsCredentials.Redaction.Secret

/-!
# Secrets in headers

Of a signed request's `Authorization` header all but the signature is kept; one that does not have
that form is not kept at all. A session token is replaced, and any other header keeps its value with
the identifiers masked.
-/

namespace AwsCredentials

/-- The parts of an `Authorization` header that may be shown. -/
structure Authorization where
  algorithm : List Char
  credential : List Char
  signedHeaders : List Char
  deriving DecidableEq, Repr

namespace Authorization

open Text

/-- Whether a character may stand in the name of an algorithm. -/
def isAlgorithmChar (c : Char) : Bool :=
  c.isUpper || c.isDigit || c == '-'

/-- Whether a character may stand in the value of a parameter. -/
def isValueChar (c : Char) : Bool :=
  c != ',' && !isBlank c

/-- Whether a character is a digit in base sixteen. -/
def isHexChar (c : Char) : Bool :=
  c.isDigit || ('a' ≤ c && c ≤ 'f') || ('A' ≤ c && c ≤ 'F')

/-- The characters of a class that stand first, at least one, and what follows them. -/
def run? (p : Char → Bool) (cs : List Char) : Option (List Char × List Char) :=
  if (cs.takeWhile p).isEmpty then none else some (cs.takeWhile p, cs.dropWhile p)

/-- Reads the value of an `Authorization` header. -/
def ofChars? (cs : List Char) : Option Authorization := do
  let (algorithm, cs) ← run? isAlgorithmChar cs
  let (_, cs) ← run? isBlank cs
  let cs ← dropStart? "Credential=".toList cs
  let (credential, cs) ← run? isValueChar cs
  let cs ← dropStart? [','] cs
  let cs ← dropStart? "SignedHeaders=".toList (cs.dropWhile isBlank)
  let (signedHeaders, cs) ← run? isValueChar cs
  let cs ← dropStart? [','] cs
  let signature ← dropStart? "Signature=".toList (cs.dropWhile isBlank)
  if signature.isEmpty || !signature.all isHexChar then none
  else return ⟨algorithm, credential, signedHeaders⟩

/-- The header without its signature. -/
def redacted (a : Authorization) : List Char :=
  a.algorithm ++ " Credential=".toList ++ Redaction.maskIdentifiers a.credential
    ++ ", SignedHeaders=".toList ++ a.signedHeaders ++ ", Signature=".toList ++ Redaction.mask

end Authorization

namespace Redaction

/-- The value of an `Authorization` header without its signature, if it has the known form. -/
def authorization? (value : String) : Option String :=
  (Authorization.ofChars? (Text.trimChars value.toList)).map fun a => String.ofList a.redacted

/-- The value of a header that may be shown. -/
def header? (name value : String) : Option String :=
  if Text.sameIgnoringCase name "authorization" then authorization? value
  else if Text.sameIgnoringCase name "x-amz-security-token" then some (String.ofList mask)
  else some (masked value)

/-- The headers that may be shown. -/
def headers (hs : List (String × String)) : List (String × String) :=
  hs.filterMap fun h => (header? h.1 h.2).map fun value => (h.1, value)

end Redaction

end AwsCredentials
