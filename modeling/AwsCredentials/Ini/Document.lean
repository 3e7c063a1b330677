import AwsCredentials.Text.Shown

/-!
# Settings files

A settings file is a sequence of sections, each with a sequence of keyed values. Names and keys may
repeat, and the order of the file is kept. A file that cannot be read stops at a position, which
counts lines and columns from one.
-/

namespace AwsCredentials.Ini

/-- A section and its entries in the order of the file. The entries that stand before the first
section header belong to a section without a name. -/
structure Section where
  name : Option String
  entries : List (String × String)
  deriving DecidableEq, Repr, Inhabited

/-- The sections of a file in their order. -/
abbrev Document := List Section

/-- A position in a text, counted from zero. -/
structure Position where
  line : Nat
  column : Nat
  deriving DecidableEq, Repr, Inhabited

/-- What is wrong with a text. -/
inductive Fault where
  /-- A comment that does not start its line. -/
  | inlineComment
  /-- A value without a key. -/
  | missingKey
  /-- The text ends where one of some characters has to come; `none` stands for the end. -/
  | endOfText (expected : List (Option Char))
  /-- A backslash inside a character code that no line break follows. -/
  | brokenCode (found : Option Char)
  /-- A character code that is none. -/
  | unknownCode
  deriving DecidableEq, Repr

/-- A fault and where it was found. -/
structure SyntaxError where
  position : Position
  fault : Fault
  deriving DecidableEq, Repr

/-- What is said of a fault. -/
def Fault.message : Fault → String
  | .inlineComment => "doesn't support inline comment"
  | .missingKey => "missing key"
  | .endOfText expected =>
    "expecting \"" ++ Text.Shown.list (Text.Shown.option Text.quotedChar) expected
      ++ "\" but found EOF."
  | .brokenCode found =>
    "expecting \"\\\\n\" but found \"" ++ Text.Shown.option Text.quotedChar found ++ "\"."
  | .unknownCode => "unknown character in \\xHH form"

/-- The position of a fault and what it is. -/
def SyntaxError.message (e : SyntaxError) : String :=
  s!"{e.position.line + 1}:{e.position.column + 1} " ++ e.fault.message

end AwsCredentials.Ini
