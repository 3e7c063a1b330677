import AwsCredentials.Log
import AwsCredentials.Text.Alphanumeric
import AwsCredentials.Text.Ascii
import AwsCredentials.Text.Blank
import AwsCredentials.Text.Numeral

/-!
# Log filters

A filter says up to which level the events of each part of the program are shown. It is written as
rules with commas between them: a level for all parts, the start of a part's name for everything in
that part, or both with `=` between them. Of the rules that fit an event the one with the longest
name decides, and of two with the same name the later one.

A rule may name spans in brackets. The program has no spans, so such a rule shows nothing.
-/

namespace AwsCredentials.Log

namespace Level

/-- The levels, those with less detail first. -/
def all : List Level := [.error, .warn, .info, .debug, .trace]

/-- The level with a number; none for zero. -/
def ofDetail? : Nat → Option Level
  | 0 => none
  | n + 1 => all[n]?

/-- Whether events of this level are shown where everything up to `limit` is. -/
def within (level : Level) (limit : Option Level) : Bool :=
  limit.any fun l => level.detail ≤ l.detail

/-- The words for how far a rule goes. -/
def limits : List (String × Option Level) :=
  ("OFF", none) :: all.map fun level => (level.name, some level)

/-- Reads how far a rule goes: a word in any case, or a number. -/
def readLimit? (word : String) : Option (Option Level) :=
  match Text.readNat 5 word with
  | some n => some (ofDetail? n)
  | none => (limits.find? fun l => Text.sameIgnoringCase l.1 word).map Prod.snd

end Level

/-- A rule: the events of the parts whose names start with `part` are shown up to a level, or not
at all. -/
structure Rule where
  part : String
  limit : Option Level
  deriving DecidableEq, Repr

namespace Rule

/-- Whether a rule is about a part of the program. -/
def fits (r : Rule) (name : String) : Bool :=
  r.part.toList.isPrefixOf name.toList

/-- Whether a rule may start with a character. -/
def canStart (c : Char) : Bool :=
  c == '-' || c == ':' || c == '_' || Text.isAlphanumeric c

/-- Reads how far a rule goes after `=`. Nothing there means everything. -/
def readEnd? (cs : List Char) : Option (Option Level) :=
  if cs.isEmpty then some (some .trace) else Level.readLimit? (String.ofList cs)

/-- Reads what follows the bracket that opens a list of spans. The rule shows nothing. -/
def readSpans? (cs : List Char) : Option (Option Rule) := do
  let (_, rest) ← Text.cut? ']' cs
  match rest with
  | [] => return none
  | '=' :: limit => (readEnd? limit).map fun _ => none
  | _ => none

/-- Reads a rule of a name and, perhaps, a level. What stands after blanks and looks like a level is
a name. -/
def readNamed? (cs : List Char) : Option (Option Rule) :=
  let name := cs.takeWhile fun c => c != '=' && c != '['
  match cs.dropWhile fun c => c != '=' && c != '[' with
  | '=' :: limit =>
    if (cs.head?.any Text.isBlank) then none
    else (readEnd? limit).map fun limit => some ⟨String.ofList name, limit⟩
  | '[' :: rest => readSpans? rest
  | _ =>
    match Level.readLimit? (String.ofList cs) with
    | some limit => some (some ⟨"", limit⟩)
    | none => some (some ⟨String.ofList cs, some .trace⟩)

/-- Reads a rule. A rule about spans has no value. -/
def read? (cs : List Char) : Option (Option Rule) :=
  match cs.dropWhile Text.isBlank with
  | [] => none
  | '[' :: rest => readSpans? rest
  | c :: _ => if canStart c then readNamed? cs else none

end Rule

/-- What is shown of the log. -/
structure Filter where
  rules : List Rule
  deriving DecidableEq, Repr

namespace Filter

/-- Of two rules the one with the longer name, and else the later one. -/
def stronger (best : Option Rule) (r : Rule) : Option Rule :=
  match best with
  | some b => if r.part.length < b.part.length then some b else some r
  | none => some r

/-- The rule that decides on a part of the program. -/
def ruleFor? (f : Filter) (name : String) : Option Rule :=
  (f.rules.filter fun r => r.fits name).foldl stronger none

/-- Whether an event is shown. -/
def shows (f : Filter) (e : Event) : Bool :=
  (f.ruleFor? e.source.target).any fun r => e.level.within r.limit

/-- Reads a filter. Without any rule it shows errors only. -/
def read? (text : String) : Option Filter := do
  match (Text.splitAt ',' text.toList).filter fun rule => !rule.isEmpty with
  | [] => return ⟨[⟨"", some .error⟩]⟩
  | rules => return ⟨(← rules.mapM Rule.read?).filterMap id⟩

/-- The filter that shows everything up to a level. -/
def upTo (level : Level) : Filter := ⟨[⟨"", some level⟩]⟩

/-- The filter that shows the events of a source up to a level as well. -/
def andUpTo (f : Filter) (source : Source) (level : Level) : Filter :=
  ⟨f.rules ++ [⟨source.target, some level⟩]⟩

theorem shows_upTo (level : Level) (e : Event) :
    (upTo level).shows e = decide (e.level.detail ≤ level.detail) := by
  simp [upTo, shows, ruleFor?, Rule.fits, stronger, Level.within]

end Filter

end AwsCredentials.Log
