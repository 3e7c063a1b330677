import AwsCredentials.Time.Instant
import AwsCredentials.Xml.Token

/-!
# The elements of an XML text

An element is a name and the parts up to the tag that closes it. `children` gives the elements
directly inside some parts, and `text?`, `timestamp?`, `integer?` and `flag?` read what an element
without children holds.
-/

namespace AwsCredentials.Xml

/-- An element and the parts inside it. -/
structure Element where
  name : Name
  depth : Nat
  content : List Placed
  deriving DecidableEq, Repr

/-- Whether a part closes the element with a name at a depth. -/
def closes (name : Name) (depth : Nat) (p : Placed) : Bool :=
  p.token = .closing name && p.depth = depth

/-- The elements directly inside some parts. -/
def children (parts : List Placed) : List Element :=
  match parts with
  | [] => []
  | ⟨.opening name, depth⟩ :: rest =>
    ⟨name, depth, rest.takeWhile fun p => !closes name depth p⟩
      :: children (rest.dropWhile fun p => !closes name depth p)
  | ⟨.empty name, depth⟩ :: rest => ⟨name, depth, []⟩ :: children rest
  | _ :: rest => children rest
termination_by parts.length
decreasing_by
  · exact Nat.lt_succ_of_le (List.dropWhile_suffix _).length_le
  · simp
  · simp

/-- The elements that start in some parts, at any depth. -/
def descendants : List Placed → List Element
  | [] => []
  | ⟨.opening name, depth⟩ :: rest =>
    ⟨name, depth, rest.takeWhile fun p => !closes name depth p⟩ :: descendants rest
  | ⟨.empty name, depth⟩ :: rest => ⟨name, depth, []⟩ :: descendants rest
  | _ :: rest => descendants rest

/-- The outermost element of a text. -/
def root? (text : String) : Option Element :=
  (descendants (tokens text)).head?

/-- The number that some digits of a base stand for. -/
def numeral? (base : Nat) (digits : List Char) : Option Nat :=
  let digits := match digits with
    | '+' :: rest => rest
    | _ => digits
  if digits.isEmpty then none
  else digits.foldlM (fun n c => do
    let d ← Text.hexValue? c
    if d < base then some (base * n + d) else none) 0

/-- The character with a code point. -/
def charOf? (n : Nat) : Option Char :=
  if h : n.isValidChar then some (Char.ofNatAux n h) else none

/-- The character that an entity stands for. -/
def entity? : List Char → Option Char
  | ['l', 't'] => some '<'
  | ['g', 't'] => some '>'
  | ['a', 'm', 'p'] => some '&'
  | ['q', 'u', 'o', 't'] => some '"'
  | ['a', 'p', 'o', 's'] => some '\''
  | '#' :: 'x' :: digits => numeral? 16 digits >>= charOf?
  | '#' :: digits => numeral? 10 digits >>= charOf?
  | _ => none

/-- The characters with their entities replaced. -/
def unescape? (cs : List Char) : Option (List Char) :=
  match Text.splitAt '&' cs with
  | [] => some []
  | first :: pieces =>
    pieces.foldlM (fun before piece => do
      let (name, after) ← Text.cut? ';' piece
      let c ← entity? name
      return before ++ c :: after) first

/-- The first text among some parts. -/
def textOf? : List Placed → Option (List Char)
  | [] => some []
  | ⟨.text chars, _⟩ :: _ => unescape? chars
  | ⟨.closing _, _⟩ :: rest => textOf? rest
  | _ => none

namespace Element

/-- Whether an element has a name, whatever its scope. -/
def isNamed (e : Element) (name : String) : Bool := e.name.localPart == name

/-- The text of an element without children. -/
def text? (e : Element) : Option String := (textOf? e.content).map String.ofList

/-- The point in time that an element holds. -/
def timestamp? (e : Element) : Option Instant := e.text?.bind Instant.ofTimestamp?

/-- The whole number that an element holds. -/
def integer? (e : Element) : Option Int := do
  let text ← e.text?
  match text.toList with
  | '-' :: digits => do
    if digits.isEmpty || !digits.all Char.isDigit then none
    else
      let n := Text.digitsValue digits
      if n ≤ 2147483648 then some (-(n : Int)) else none
  | _ => (Text.readNat 2147483647 text).map fun n => (n : Int)

/-- The truth value that an element holds. -/
def flag? (e : Element) : Option Bool := do
  match ← e.text? with
  | "true" => some true
  | "false" => some false
  | _ => none

end Element

end AwsCredentials.Xml
