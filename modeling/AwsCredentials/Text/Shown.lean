import AwsCredentials.Text.Quoted

/-!
# Values shown on one line

The form in which settings and results are written to the log: named fields between braces, lists
between brackets, and `Some` or `None` for a value that may be absent. A record that keeps some of
its fields to itself ends in two dots.
-/

namespace AwsCredentials.Text.Shown

/-- A value that may be absent. -/
def option {α : Type} (shown : α → String) : Option α → String
  | none => "None"
  | some a => "Some(" ++ shown a ++ ")"

/-- Values between brackets. -/
def list {α : Type} (shown : α → String) (values : List α) : String :=
  "[" ++ ", ".intercalate (values.map shown) ++ "]"

/-- Entries between braces, each key before its value. -/
def entries {α : Type} (shown : α → String) (pairs : List (String × α)) : String :=
  "\x7b" ++ ", ".intercalate (pairs.map fun p => quoted p.1 ++ ": " ++ shown p.2) ++ "\x7d"

/-- The word for a truth value. -/
def flag (b : Bool) : String :=
  if b then "true" else "false"

private def fields (pairs : List (String × String)) : List String :=
  pairs.map fun p => p.1 ++ ": " ++ p.2

/-- A record with all of its fields. -/
def record (name : String) (pairs : List (String × String)) : String :=
  if pairs.isEmpty then name
  else name ++ " \x7b " ++ ", ".intercalate (fields pairs) ++ " \x7d"

/-- A record that shows only some of its fields. -/
def partialRecord (name : String) (pairs : List (String × String)) : String :=
  name ++ " \x7b " ++ ", ".intercalate (fields pairs ++ [".."]) ++ " \x7d"

/-- A value with one unnamed part. -/
def tagged (name part : String) : String :=
  name ++ "(" ++ part ++ ")"

/-- What stands in the place of a secret. -/
def redacted : String :=
  quoted "** redacted **"

/-- A secret that may be absent: only its presence is shown. -/
def secret {α : Type} : Option α → String :=
  option fun _ => redacted

end AwsCredentials.Text.Shown
