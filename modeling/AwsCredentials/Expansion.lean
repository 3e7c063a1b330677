import AwsCredentials.Environment
import AwsCredentials.Text.Alphanumeric
import AwsCredentials.Text.Pattern

/-!
# Placeholders in paths

`$NAME` and `${NAME}` stand for the value of a variable, `${NAME:-TEXT}` for a text where the
variable is not set, and `$$` for a dollar sign. A placeholder without a value stays as it is, and
a value is not expanded again. Then a tilde at the start, alone or before a slash, stands for the
home directory, if it was written there and did not come from a variable.
-/

namespace AwsCredentials

namespace Expansion

/-- Whether a character may stand in the name of a variable. -/
def isNameChar (c : Char) : Bool :=
  Text.isAlphanumeric c || c == '_'

/-- The characters before the first `:-` and those after it. -/
def cutDefault? : List Char → Option (List Char × List Char)
  | ':' :: '-' :: rest => some ([], rest)
  | c :: rest => (cutDefault? rest).map fun p => (c :: p.1, p.2)
  | [] => none

/-- What a placeholder between braces stands for. -/
def braced (lookup : String → Option String) (inner : List Char) : List Char :=
  let asWritten := ['$', '\x7b'] ++ inner ++ ['\x7d']
  let (name, fallback) := match cutDefault? inner with
    | some ([], _) => (inner, none)
    | some (name, text) => (name, some text)
    | none => (inner, none)
  match lookup (String.ofList name) with
  | some value => value.toList
  | none => fallback.getD asWritten

/-- The characters with their placeholders replaced. -/
def replace (lookup : String → Option String) : List Char → List Char
  | [] => []
  | '$' :: '\x7b' :: rest =>
    match _h : Text.cut? '\x7d' rest with
    | some (inner, after) => braced lookup inner ++ replace lookup after
    | none => '$' :: '\x7b' :: replace lookup rest
  | '$' :: '$' :: rest => '$' :: replace lookup rest
  | '$' :: rest =>
    let name := rest.takeWhile isNameChar
    if name.isEmpty then '$' :: replace lookup rest
    else
      match lookup (String.ofList name) with
      | some value => value.toList ++ replace lookup (rest.dropWhile isNameChar)
      | none => '$' :: name ++ replace lookup (rest.dropWhile isNameChar)
  | c :: rest => c :: replace lookup rest
termination_by cs => cs.length
decreasing_by
  · have := (Text.eq_of_cut? _h).1
    simp only [this, List.length_cons, List.length_append]
    omega
  · simp only [List.length_cons]; omega
  · simp only [List.length_cons]; omega
  · simp only [List.length_cons]; omega
  · have := (List.dropWhile_suffix (l := rest) isNameChar).length_le
    simp only [List.length_cons]; omega
  · have := (List.dropWhile_suffix (l := rest) isNameChar).length_le
    simp only [List.length_cons]; omega
  · simp only [List.length_cons]; omega

/-- The characters with a tilde at their start replaced by the home directory. -/
def expandTilde (home : Option Path) (cs : List Char) : List Char :=
  match cs, home with
  | ['~'], some home => home.toList
  | '~' :: '/' :: rest, some home => home.toList ++ '/' :: rest
  | cs, _ => cs

end Expansion

/-- A path with its placeholders replaced. -/
def Path.expand (path : Path) (env : Environment) : Path :=
  let replaced := Expansion.replace env.get? path.toList
  if path.toList.head? = some '~' then String.ofList (Expansion.expandTilde env.home replaced)
  else String.ofList replaced

end AwsCredentials
