import AwsCredentials.Redaction.Identifier
import AwsCredentials.Text.Blank
import AwsCredentials.Text.Pattern

/-!
# Secrets in bodies and addresses

Secrets stand in fields with known names, which come in three forms: as elements `<NAME>…<`, as form
fields `NAME=…`, and as members `"NAME": "…"`. Each form is a pattern that keeps the name and drops
the value. `redacted` applies them one after another and masks the identifiers of what is left.
-/

namespace AwsCredentials.Redaction

open Text

/-- What stands in the place of a secret. -/
def mask : List Char := "*****".toList

/-- The names of secret elements and members. -/
def secretNames : List String := ["SecretAccessKey", "SessionToken", "WebIdentityToken"]

/-- The names of secret form fields. -/
def secretFields : List String := secretNames ++ ["X-Amz-Security-Token", "X-Amz-Signature"]

/-- Reads an element from its opening tag up to the next tag. -/
def readElement (cs : List Char) : Option (List Char × List Char) := do
  let cs ← dropStart? ['<'] cs
  let (name, cs) ← nameAt? secretNames cs
  let cs ← dropStart? ['>'] cs
  let rest ← dropStart? ['<'] (cs.dropWhile (· != '<'))
  return ('<' :: name ++ '>' :: mask ++ ['<'], rest)

/-- Whether a character belongs to the value of a form field. -/
def isFieldChar (c : Char) : Bool :=
  c != '&' && !isBlank c

/-- Reads a form field. -/
def readField (cs : List Char) : Option (List Char × List Char) := do
  let (name, cs) ← nameAt? secretFields cs
  let cs ← dropStart? ['='] cs
  return (name ++ '=' :: mask, cs.dropWhile isFieldChar)

/-- Reads a separator and a form field. -/
def readNextField : List Char → Option (List Char × List Char)
  | c :: cs =>
    if c = '&' ∨ c = '?' then (readField cs).map fun r => (c :: r.1, r.2) else none
  | [] => none

/-- Reads a member. -/
def readMember (cs : List Char) : Option (List Char × List Char) := do
  let cs ← dropStart? ['"'] cs
  let (name, cs) ← nameAt? secretNames cs
  let cs ← dropStart? ['"'] cs
  let cs ← dropStart? [':'] (cs.dropWhile isBlank)
  let cs ← dropStart? ['"'] (cs.dropWhile isBlank)
  let rest ← dropStart? ['"'] (cs.dropWhile (· != '"'))
  return ('"' :: name ++ "\":\"".toList ++ mask ++ ['"'], rest)

private theorem length_lt_of_dropStart? {c : Char} {cs rest : List Char}
    (h : dropStart? [c] cs = some rest) : rest.length < cs.length := by
  simp [eq_of_dropStart? h]

private theorem length_le_of_nameAt? {names : List String} {cs : List Char}
    {r : List Char × List Char} (h : nameAt? names cs = some r) : r.2.length ≤ cs.length := by
  simp [(eq_of_nameAt? h).1]

theorem readElement_shorter {cs : List Char} {r : List Char × List Char}
    (h : readElement cs = some r) : r.2.length < cs.length := by
  simp only [readElement, Option.bind_eq_bind, Option.bind_eq_some_iff, Option.pure_def,
    Option.some.injEq] at h
  obtain ⟨a, ha, b, hb, c, hc, d, hd, rfl⟩ := h
  have := length_lt_of_dropStart? ha
  have := length_le_of_nameAt? hb
  have := length_lt_of_dropStart? hc
  have := length_lt_of_dropStart? hd
  have := (List.dropWhile_suffix (l := c) (· != '<')).length_le
  simp only
  omega

theorem readField_shorter {cs : List Char} {r : List Char × List Char}
    (h : readField cs = some r) : r.2.length < cs.length := by
  simp only [readField, Option.bind_eq_bind, Option.bind_eq_some_iff, Option.pure_def,
    Option.some.injEq] at h
  obtain ⟨a, ha, b, hb, rfl⟩ := h
  have := length_le_of_nameAt? ha
  have := length_lt_of_dropStart? hb
  have := (List.dropWhile_suffix (l := b) isFieldChar).length_le
  simp only
  omega

theorem readNextField_shorter {cs : List Char} {r : List Char × List Char}
    (h : readNextField cs = some r) : r.2.length < cs.length := by
  cases cs with
  | nil => simp [readNextField] at h
  | cons c cs =>
    rw [readNextField] at h
    split at h
    · obtain ⟨q, hq, rfl⟩ := Option.map_eq_some_iff.1 h
      have := readField_shorter hq
      exact Nat.lt_succ_of_lt this
    · simp at h

theorem readMember_shorter {cs : List Char} {r : List Char × List Char}
    (h : readMember cs = some r) : r.2.length < cs.length := by
  simp only [readMember, Option.bind_eq_bind, Option.bind_eq_some_iff, Option.pure_def,
    Option.some.injEq] at h
  obtain ⟨a, ha, b, hb, c, hc, d, hd, e, he, f, hf, rfl⟩ := h
  have := length_lt_of_dropStart? ha
  have := length_le_of_nameAt? hb
  have := length_lt_of_dropStart? hc
  have := length_lt_of_dropStart? hd
  have := length_lt_of_dropStart? he
  have := length_lt_of_dropStart? hf
  have := (List.dropWhile_suffix (l := c) isBlank).length_le
  have := (List.dropWhile_suffix (l := d) isBlank).length_le
  have := (List.dropWhile_suffix (l := e) (· != '"')).length_le
  simp only
  omega

/-- The elements that hold secrets. -/
def element : Pattern := ⟨readElement, readElement_shorter⟩

/-- The form fields that hold secrets, but for one at the very start. -/
def field : Pattern := ⟨readNextField, readNextField_shorter⟩

/-- The members that hold secrets. -/
def member : Pattern := ⟨readMember, readMember_shorter⟩

/-- The characters with the values of secret form fields replaced. -/
def redactFields (cs : List Char) : List Char :=
  match readField cs with
  | some (replacement, rest) => replacement ++ field.replaceAll rest
  | none => field.replaceAll cs

/-- The characters with the values of secret fields replaced. -/
def redactSecrets (cs : List Char) : List Char :=
  member.replaceAll (redactFields (element.replaceAll cs))

/-- The text without its secrets, and with its identifiers masked. -/
def redacted (s : String) : String :=
  String.ofList (maskIdentifiers (redactSecrets s.toList))

end AwsCredentials.Redaction
