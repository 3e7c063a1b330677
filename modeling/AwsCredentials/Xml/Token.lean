import AwsCredentials.Text.Pattern

/-!
# The marks of an XML text

An XML text is read as a sequence of tags and of stretches of text, each with the number of elements
around it. Comments, instructions and raw sections are passed over. Reading stops at the first place
that is not well formed; what came before stays. `tokens` does not look whether the tags match.
-/

namespace AwsCredentials.Xml

/-- The name of an element. -/
structure Name where
  scope : List Char
  localPart : String
  deriving DecidableEq, Repr

/-- A part of an XML text. -/
inductive Token where
  | opening (name : Name)
  /-- An element without content. -/
  | empty (name : Name)
  | closing (name : Name)
  | text (chars : List Char)
  /-- The text is not well formed from here on. -/
  | broken
  deriving DecidableEq, Repr

/-- A part of an XML text and the number of elements around it. -/
structure Placed where
  token : Token
  depth : Nat
  deriving DecidableEq, Repr

def isSpace (c : Char) : Bool :=
  c == ' ' || c == '\t' || c == '\n' || c == '\r'

/-- Whether a character may stand in an XML text. -/
def isXmlChar (c : Char) : Bool :=
  (0x20 ≤ c.toNat && c.toNat ≠ 0xfffe && c.toNat ≠ 0xffff) || c == '\t' || c == '\n' || c == '\r'

/-- Whether a character may start a name. -/
def isNameStart (c : Char) : Bool :=
  c.isAlpha || c == '_' || 0xc0 ≤ c.toNat

/-- Whether a character may stand in a name. -/
def isNameChar (c : Char) : Bool :=
  isNameStart c || c.isDigit || c == '-' || c == '.' || c.toNat == 0xb7

/-- A name without a colon. -/
def readPart (cs : List Char) : Option (List Char × List Char) :=
  match cs with
  | c :: _ =>
    if isNameStart c then some (cs.takeWhile isNameChar, cs.dropWhile isNameChar) else none
  | [] => none

/-- A name, which may have a scope before a colon. -/
def readName (cs : List Char) : Option (Name × List Char) := do
  let (first, rest) ← readPart cs
  match rest with
  | ':' :: rest =>
    let (second, rest) ← readPart rest
    return (⟨first, String.ofList second⟩, rest)
  | _ => return (⟨[], String.ofList first⟩, rest)

/-- What stands before the first mark and after it. -/
def splitAtMark (mark : List Char) : List Char → Option (List Char × List Char)
  | [] => none
  | c :: cs =>
    match Text.dropStart? mark (c :: cs) with
    | some rest => some ([], rest)
    | none => (splitAtMark mark cs).map fun p => (c :: p.1, p.2)

/-- An attribute: its name, an equals sign and a quoted value. -/
def readAttribute (cs : List Char) : Option (List Char) := do
  let (_, cs) ← readName cs
  let cs ← Text.dropStart? ['='] (cs.dropWhile isSpace)
  match cs.dropWhile isSpace with
  | q :: cs =>
    if q == '"' || q == '\'' then
      let value := cs.takeWhile fun c => c != q && c != '<'
      if value.all isXmlChar then Text.dropStart? [q] (cs.dropWhile fun c => c != q && c != '<')
      else none
    else none
  | [] => none

/-- The rest of a tag, which has at most the given number of attributes: whether the element is
empty, and what follows. -/
def readTagEnd : Nat → List Char → Option (Bool × List Char)
  | attributes, cs =>
    match attributes, cs.dropWhile isSpace with
    | _, '>' :: rest => some (false, rest)
    | _, '/' :: '>' :: rest => some (true, rest)
    | attributes + 1, rest =>
      if rest.length < cs.length then readAttribute rest >>= readTagEnd attributes else none
    | 0, _ => none

/-- The content of a comment. -/
def readComment (cs : List Char) : Option (List Char) := do
  let (inner, rest) ← splitAtMark "--".toList cs
  if inner.all isXmlChar then Text.dropStart? ['>'] rest else none

/-- The content of an instruction. -/
def readInstruction (cs : List Char) : Option (List Char) := do
  let (_, cs) ← readName cs
  let (inner, rest) ← splitAtMark "?>".toList cs
  if inner.all isXmlChar && (inner.take 1).all isSpace then some rest else none

/-- A comment, an instruction or a raw section. -/
def readAside (cs : List Char) : Option (List Char) :=
  match cs with
  | '<' :: '!' :: '-' :: '-' :: rest => readComment rest
  | '<' :: '!' :: rest => do
    let rest ← Text.dropStart? "[CDATA[".toList rest
    let (_, rest) ← splitAtMark "]]>".toList rest
    return rest
  | '<' :: '?' :: rest => readInstruction rest
  | _ => none

/-- A tag or a stretch of text. -/
def readToken (cs : List Char) : Option (Token × List Char) :=
  match cs with
  | '<' :: '/' :: rest => do
    let (name, rest) ← readName rest
    let rest ← Text.dropStart? ['>'] (rest.dropWhile isSpace)
    return (.closing name, rest)
  | '<' :: rest => do
    let (name, rest) ← readName rest
    let (isEmpty, rest) ← readTagEnd rest.length rest
    return (if isEmpty then .empty name else .opening name, rest)
  | cs =>
    let text := cs.takeWhile (· != '<')
    if text.all isXmlChar && !Text.occursIn "]]>".toList text then
      some (.text text, cs.dropWhile (· != '<'))
    else none

/-- Where a reader stands: before the root element, inside some elements, or after the root. -/
inductive Stage where
  | before
  | inside (depth : Nat)
  | after
  deriving DecidableEq, Repr

/-- The stage inside some elements, or after the root. -/
def Stage.atDepth : Nat → Stage
  | 0 => .after
  | n + 1 => .inside (n + 1)

/-- The next part of a text, where it stands, and the stage after it. -/
def Stage.place : Stage → Token → Option (Placed × Stage)
  | .inside d, .opening name => some (⟨.opening name, d⟩, .inside (d + 1))
  | .inside d, .empty name => some (⟨.empty name, d⟩, .inside d)
  | .inside d, .closing name => some (⟨.closing name, d - 1⟩, .atDepth (d - 1))
  | .inside d, .text chars => some (⟨.text chars, d⟩, .inside d)
  | .before, .opening name => some (⟨.opening name, 0⟩, .inside 1)
  | .before, .empty name => some (⟨.empty name, 0⟩, .after)
  | _, _ => none

/-- Whether only blanks, comments and instructions may stand around the elements. -/
def Stage.isOutside : Stage → Bool
  | .inside _ => false
  | _ => true

/-- The parts of a text from a stage on. -/
def tokensFrom (stage : Stage) (cs : List Char) : List Placed :=
  match cs with
  | [] => []
  | c :: rest =>
    if stage.isOutside && isSpace c then tokensFrom stage rest
    else
      match readAside (c :: rest) with
      | some after =>
        if _h : after.length < (c :: rest).length then tokensFrom stage after else [⟨.broken, 0⟩]
      | none =>
        match readToken (c :: rest) with
        | none => [⟨.broken, 0⟩]
        | some (token, after) =>
          match stage.place token with
          | none => [⟨.broken, 0⟩]
          | some (placed, next) =>
            if _h : after.length < (c :: rest).length then placed :: tokensFrom next after
            else [⟨.broken, 0⟩]
termination_by cs.length
decreasing_by
  · simp
  · exact _h
  · exact _h

/-- The parts of a text. A byte order mark may stand before it. -/
def tokens (text : String) : List Placed :=
  match text.toList with
  | '\ufeff' :: rest => tokensFrom .before rest
  | cs => tokensFrom .before cs

end AwsCredentials.Xml
