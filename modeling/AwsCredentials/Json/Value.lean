import AwsCredentials.Text.Quoted

/-!
# JSON values

A JSON value and its written form. An object keeps its members in order, and a number the digits
that it is written with. `Json.pretty` sets every member and every item on a line of its own.
-/

namespace AwsCredentials

/-- A JSON value. -/
inductive Json where
  | null
  | bool (b : Bool)
  | number (digits : String)
  | string (s : String)
  | array (items : List Json)
  | object (members : List (String × Json))
  deriving Repr, Inhabited

namespace Json

/-- The place of a character in sixteen digits, four of them. -/
def fourHexDigits (n : Nat) : List Char :=
  let digits := Text.hexDigits n
  List.replicate (4 - digits.length) '0' ++ digits

/-- One character of a written text. -/
def escapeChar (c : Char) : List Char :=
  if c = '"' ∨ c = '\\' then ['\\', c]
  else if c = '\n' then ['\\', 'n']
  else if c = '\r' then ['\\', 'r']
  else if c = '\t' then ['\\', 't']
  else if c = '\x08' then ['\\', 'b']
  else if c = '\x0c' then ['\\', 'f']
  else if c.toNat < 0x20 then ['\\', 'u'] ++ fourHexDigits c.toNat
  else [c]

/-- The written form of a text. -/
def text (s : String) : String :=
  String.ofList ('"' :: s.toList.flatMap escapeChar ++ ['"'])

/-- The space before a line at a depth. -/
def indent (depth : Nat) : String :=
  String.ofList (List.replicate (2 * depth) ' ')

/-- Lines between brackets, or the bare brackets if there are none. -/
def enclosed (opening closing : String) (depth : Nat) (lines : List String) : String :=
  if lines.isEmpty then opening ++ closing
  else opening ++ "\n" ++ ",\n".intercalate (lines.map (indent (depth + 1) ++ ·)) ++ "\n"
    ++ indent depth ++ closing

mutual

/-- The written form of a value that stands at a depth. -/
def prettyAt (depth : Nat) : Json → String
  | null => "null"
  | bool b => if b then "true" else "false"
  | number digits => digits
  | string s => text s
  | array items => enclosed "[" "]" depth (prettyItems (depth + 1) items)
  | object members => enclosed "\x7b" "\x7d" depth (prettyMembers (depth + 1) members)

/-- The written forms of items. -/
def prettyItems (depth : Nat) : List Json → List String
  | [] => []
  | item :: rest => item.prettyAt depth :: prettyItems depth rest

/-- The written forms of members. -/
def prettyMembers (depth : Nat) : List (String × Json) → List String
  | [] => []
  | (name, value) :: rest =>
    (text name ++ ": " ++ value.prettyAt depth) :: prettyMembers depth rest

end

/-- The written form of a value, on several lines. -/
def pretty (value : Json) : String := value.prettyAt 0

end Json

end AwsCredentials
