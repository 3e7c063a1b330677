import AwsCredentials.Xml.Element

/-!
# The documents of the services

A service answers with an XML document whose outermost element is named for the operation and holds
the result. A schema says what the elements inside it must hold; elements that it does not name may
hold anything. A failed call is answered with a document of another kind, an `ErrorDocument`.
-/

namespace AwsCredentials

/-- What an element holds. -/
inductive Schema where
  | text
  | timestamp
  | integer
  | flag
  /-- Elements with the given names. -/
  | record (fields : List (String × Schema))
  /-- Elements named `member`. -/
  | list (item : Schema)
  deriving Repr

open Xml

namespace Schema

mutual

/-- Whether an element holds what it should. -/
def fits : Schema → Element → Bool
  | text, e => e.text?.isSome
  | timestamp, e => e.timestamp?.isSome
  | integer, e => e.integer?.isSome
  | flag, e => e.flag?.isSome
  | record fields, e => (children e.content).all (fieldFits fields)
  | list item, e =>
    (children e.content).all fun member => !member.isNamed "member" || item.fits member

/-- Whether an element holds what the first field with its name should, if there is one. -/
def fieldFits : List (String × Schema) → Element → Bool
  | [], _ => true
  | (name, schema) :: rest, e => if e.isNamed name then schema.fits e else fieldFits rest e

end

end Schema

namespace Xml.Element

/-- The last element with a name directly inside an element. -/
def field? (e : Element) (name : String) : Option Element :=
  ((children e.content).filter fun child => child.isNamed name).getLast?

/-- The elements named `member` directly inside an element. -/
def members (e : Element) : List Element :=
  (children e.content).filter fun child => child.isNamed "member"

/-- The text of a field, empty if there is none. -/
def fieldText (e : Element) (name : String) : String :=
  ((e.field? name).bind Element.text?).getD ""

end Xml.Element

/-- The result in the document that answers an operation, if it fits the schema. -/
def Schema.result? (schema : Schema) (operation document : String) : Option Element := do
  let root ← root? document
  if !root.isNamed (operation ++ "Response") then none
  let result ← (children root.content).head?
  if !result.isNamed (operation ++ "Result") || !schema.fits result then none
  return result

/-- The answer to a failed call. -/
structure ErrorDocument where
  code : Option String
  message : Option String
  deriving DecidableEq, Repr

namespace ErrorDocument

/-- What the error element of an error document holds. -/
def schema : Schema := .record [("Code", .text), ("Message", .text)]

/-- Reads an error document. -/
def read? (document : String) : Option ErrorDocument := do
  let root :: inner := descendants (tokens document) | none
  if !root.isNamed "ErrorResponse" then none
  let error ← inner.find? fun e => e.isNamed "Error" && e.depth == 1
  if !schema.fits error then none
  return {
    code := (error.field? "Code").bind Element.text?
    message := (error.field? "Message").bind Element.text? }

end ErrorDocument

end AwsCredentials
