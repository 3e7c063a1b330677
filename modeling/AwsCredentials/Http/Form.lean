import AwsCredentials.Text.Numeral
import AwsCredentials.Text.Quoted

/-!
# Forms

A form is a list of named values, written on one line: an equals sign stands between a name and its
value, and an ampersand between two fields. Of a value, ASCII letters, digits and four marks stand
for themselves; any other character is written as the bytes of its UTF-8 form, each as a percent
sign and two digits in base sixteen. A written value therefore holds neither of the two separators,
and `Form.unescape?` reads it back.
-/

namespace AwsCredentials

/-- The fields of a form in their order. -/
abbrev Form := List (String × String)

namespace Form

/-- Whether a character stands for itself in a written value. -/
def isPlain (c : Char) : Bool :=
  c.isAlphanum || c == '-' || c == '_' || c == '.' || c == '~'

/-- A digit in base sixteen, in capitals. -/
def digit (n : Nat) : Char :=
  Char.ofNat (if n < 10 then '0'.toNat + n else 'A'.toNat + (n - 10))

/-- A written byte. -/
def escapeByte (b : UInt8) : List Char :=
  ['%', digit (b.toNat / 16), digit (b.toNat % 16)]

/-- A written character. -/
def escapeChar (c : Char) : List Char :=
  if isPlain c then [c] else (String.utf8EncodeChar c).flatMap escapeByte

/-- A written value. -/
def escape (value : String) : String :=
  String.ofList (value.toList.flatMap escapeChar)

/-- The bytes that a written value stands for. A percent sign without two digits after it stands for
itself. -/
def bytesOf : List Char → List UInt8
  | [] => []
  | '%' :: a :: b :: rest =>
    match Text.hexValue? a, Text.hexValue? b with
    | some m, some n => (16 * m + n).toUInt8 :: bytesOf rest
    | _, _ => String.utf8EncodeChar '%' ++ bytesOf (a :: b :: rest)
  | c :: rest => String.utf8EncodeChar c ++ bytesOf rest

/-- The value that is written. -/
def unescape? (written : String) : Option String :=
  String.fromUTF8? (bytesOf written.toList).toByteArray

/-- A written form. -/
def text (form : Form) : String :=
  "&".intercalate (form.map fun field => field.1 ++ "=" ++ escape field.2)

theorem isPlain_digit : ∀ n < 16, isPlain (digit n) := by decide

theorem mem_escapeChar {c d : Char} (h : d ∈ escapeChar c) : isPlain d ∨ d = '%' := by
  rw [escapeChar] at h
  split at h
  · next hc =>
    rw [List.mem_singleton] at h
    exact .inl (h ▸ hc)
  · obtain ⟨b, -, hd⟩ := List.mem_flatMap.1 h
    have hb : b.toNat < 256 := UInt8.toNat_lt b
    simp only [escapeByte, List.mem_cons, List.not_mem_nil, or_false] at hd
    obtain rfl | rfl | rfl := hd
    · exact .inr rfl
    · exact .inl (isPlain_digit _ (by omega))
    · exact .inl (isPlain_digit _ (by omega))

theorem hexValue?_digit : ∀ n < 16, Text.hexValue? (digit n) = some n := by decide

theorem bytesOf_escapeByte (b : UInt8) (cs : List Char) :
    bytesOf (escapeByte b ++ cs) = b :: bytesOf cs := by
  have hb : b.toNat < 256 := UInt8.toNat_lt b
  simp only [escapeByte, List.cons_append, List.nil_append, bytesOf,
    hexValue?_digit _ (show b.toNat / 16 < 16 by omega),
    hexValue?_digit _ (show b.toNat % 16 < 16 by omega), Nat.div_add_mod, List.cons.injEq, and_true]
  exact UInt8.ofNat_toNat

theorem bytesOf_flatMap_escapeByte (bs : List UInt8) (cs : List Char) :
    bytesOf (bs.flatMap escapeByte ++ cs) = bs ++ bytesOf cs := by
  induction bs with
  | nil => rfl
  | cons b bs ih =>
    rw [List.flatMap_cons, List.append_assoc, bytesOf_escapeByte, ih, List.cons_append]

theorem bytesOf_cons {c : Char} (h : c ≠ '%') (cs : List Char) :
    bytesOf (c :: cs) = String.utf8EncodeChar c ++ bytesOf cs := by
  rw [bytesOf]
  intro a b rest h'
  exact absurd h' h

theorem bytesOf_escapeChar (c : Char) (cs : List Char) :
    bytesOf (escapeChar c ++ cs) = String.utf8EncodeChar c ++ bytesOf cs := by
  rw [escapeChar]
  split
  · next hc =>
    exact bytesOf_cons (fun h => absurd (h ▸ hc) (by decide)) cs
  · exact bytesOf_flatMap_escapeByte _ cs

theorem bytesOf_escape (cs : List Char) :
    bytesOf (cs.flatMap escapeChar) = cs.flatMap String.utf8EncodeChar := by
  induction cs with
  | nil => rfl
  | cons c cs ih => rw [List.flatMap_cons, bytesOf_escapeChar, ih, List.flatMap_cons]

/-- A written value can be read back. -/
theorem unescape?_escape (value : String) : unescape? (escape value) = some value := by
  have bytes : (value.toList.flatMap String.utf8EncodeChar).toByteArray = value.toByteArray :=
    String.utf8Encode_toList
  rw [unescape?, escape, String.toList_ofList, bytesOf_escape, bytes, String.fromUTF8?,
    dif_pos value.isValidUTF8]
  rfl

end Form

end AwsCredentials
