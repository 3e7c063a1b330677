import AwsCredentials.CommandLine.Arguments

/-!
# What may be completed where

A completion script offers words for the place where the cursor stands: after some commands, the
options and the further commands that may follow them. `places` lists all such places.
-/

namespace AwsCredentials.CommandLine

namespace Explained

/-- The words that an option or operand takes, if these can be listed. -/
def words (e : Explained) : List String :=
  match e.spec.kind.form? with
  | some (.oneOf words) => words
  | _ => []

/-- The words that an option or operand takes with their texts, empty where there is none. -/
def explainedWords (e : Explained) : List (String × String) :=
  e.words.mapIdx fun i word => (word, (e.wordHelps[i]?).getD "")

def takesValue (e : Explained) : Bool := e.spec.kind.form?.isSome

/-- Whether the value is a path. -/
def takesPath (e : Explained) : Bool := e.spec.kind.form? == some .path

/-- Whether an option may be given several times. -/
def repeats (e : Explained) : Bool :=
  match e.spec.kind with
  | .counter | .values _ => true
  | _ => false

/-- The word that stands for the value in explanations. -/
def valueName (e : Explained) : String :=
  String.ofList (e.spec.name.toList.map fun c => if c == '-' then '_' else c.toUpper)

/-- The option with its letter. -/
def short? (e : Explained) : Option String := e.spec.letter.map fun c => "-" ++ c.toString

/-- The option with its name. -/
def long (e : Explained) : String := "--" ++ e.spec.name

/-- The ways to write an option, that with the letter first. -/
def spellings (e : Explained) : List String := e.short?.toList ++ [e.long]

end Explained

/-- A place in a command line. -/
structure Place where
  /-- The name of the program and the commands before the place. -/
  path : List String
  options : List Explained
  operand : Option Explained
  /-- The commands that may follow, with their texts. -/
  commands : List (String × String)

/-- The commands with their texts. -/
def commandHelps : List (String × String) :=
  commands.map (fun c => (c.name, c.help)) ++ [helpCommand]

/-- The place before any command. -/
def topPlace : Place where
  path := [programName]
  options := globalOptions ++ [helpOption, versionOption]
  operand := none
  commands := commandHelps

/-- The place after a command. -/
def CommandSpec.place (c : CommandSpec) : Place where
  path := [programName, c.name]
  options := c.option.toList ++ globalOptions ++ [helpOption]
  operand := c.operand
  commands := []

/-- The place after the command that explains the others. -/
def helpPlace : Place where
  path := [programName, helpCommand.1]
  options := []
  operand := none
  commands := commandHelps

/-- The place after asking for the explanation of a command. -/
def explainedPlace (command : String) : Place where
  path := [programName, helpCommand.1, command]
  options := []
  operand := none
  commands := []

/-- The places in a command line. -/
def places : List Place :=
  topPlace :: commands.map CommandSpec.place ++ helpPlace :: commandHelps.map fun c =>
    explainedPlace c.1

namespace Place

/-- The names on the way to a place with something between them. -/
def joined (p : Place) (separator : String) : String := separator.intercalate p.path

/-- The options with letters, then those with names, then the words that may stand without an
option. -/
def candidates (p : Place) : List String :=
  p.options.filterMap Explained.short? ++ p.options.map Explained.long
    ++ (p.operand.toList.flatMap Explained.words) ++ p.commands.map Prod.fst

end Place

/-- Lines that stand further to the right. -/
def indented (width : Nat) (lines : List String) : List String :=
  lines.map fun line => if line.isEmpty then line else "".pushn ' ' width ++ line

/-- The text of some lines. -/
def ofLines (lines : List String) : String :=
  String.join (lines.map (· ++ "\n"))

/-- A text with some of its characters written in another way. -/
def rewritten (write : Char → String) (s : String) : String :=
  String.join (s.toList.map write)

end AwsCredentials.CommandLine
