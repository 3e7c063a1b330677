import AwsCredentials.Text.Ascii
import AwsCredentials.Text.Numeral

/-!
# The grammar of a command line

A command line is read level by level: the options before a command belong to the program, those
after it to the command. An option is written `--name`, `--name=VALUE` or `--name VALUE`, or with
its letter `-n`, `-nVALUE`, `-n=VALUE` or `-n VALUE`, and letters without values may be joined. A
value of its own must not look like an option. After `--` nothing is an option any more.

`Level.read` reads one level. The value of an option is examined when the next option comes, and
what the options need of one another at the end of the level.
-/

namespace AwsCredentials.CommandLine

/-- Why a command line is not carried out. -/
inductive UsageError where
  /-- Something is missing that is needed. -/
  | missingArgument
  /-- A value is missing or not among those that may stand there. -/
  | invalidValue
  /-- A value is not of the form that it has to have. -/
  | malformedValue
  | unknownArgument
  | unknownCommand
  /-- An option is given twice, or with another that excludes it. -/
  | conflict
  /-- A value for an option that has none. -/
  | unexpectedValue
  /-- Not an error: the help is asked for. -/
  | help
  /-- Not an error: the version is asked for. -/
  | version
  deriving DecidableEq, Repr

/-- The exit code of a program whose command line is not carried out. -/
def UsageError.exitCode : UsageError → Nat
  | .help | .version => 0
  | _ => 2

/-- The form of a value. -/
inductive ValueForm where
  | text
  /-- A path, which must not be empty. -/
  | path
  /-- A number of 32 bits. -/
  | number32
  /-- A number of 64 bits. -/
  | number64
  | oneOf (words : List String)
  deriving DecidableEq, Repr

/-- A number of 32 bits, before which a sign may stand. -/
def readNumber32 (s : String) : Option Nat :=
  match s.toList with
  | '-' :: digits =>
    if !digits.isEmpty && digits.all (· == '0') then some 0 else none
  | _ => Text.readNat Text.max32 s

/-- A number of 64 bits. -/
def readNumber64 (s : String) : Option Nat :=
  Text.readNat Text.max64 s

/-- Refuses a value of another form. -/
def ValueForm.check (form : ValueForm) (value : String) : Except UsageError Unit :=
  match form with
  | .text => .ok ()
  | .path => if value.isEmpty then .error .invalidValue else .ok ()
  | .number32 => if (readNumber32 value).isSome then .ok () else .error .malformedValue
  | .number64 => if (readNumber64 value).isSome then .ok () else .error .malformedValue
  | .oneOf words => if words.contains value then .ok () else .error .invalidValue

/-- What an option does. -/
inductive OptionKind where
  | switch
  /-- A switch that may be given several times. -/
  | counter
  | value (form : ValueForm)
  /-- A value that may be given several times. -/
  | values (form : ValueForm)
  | help
  | version
  deriving DecidableEq, Repr

/-- The form of an option's value, if it has one. -/
def OptionKind.form? : OptionKind → Option ValueForm
  | value form | values form => some form
  | _ => none

/-- An option. -/
structure OptionSpec where
  name : String
  letter : Option Char := none
  kind : OptionKind
  /-- The option that has to be given with this one. -/
  needs : Option String := none
  /-- The option that must not be given with this one. -/
  excludes : Option String := none
  deriving DecidableEq, Repr

/-- What may stand on one level of a command line. -/
structure Level where
  options : List OptionSpec
  /-- A value without an option, which is needed. -/
  operand : Option OptionSpec
  commands : List String
  deriving Repr

/-- The options that were given and the values of each. A switch has an empty value. -/
abbrev Given := List (String × List String)

namespace Given

/-- The values of an option. -/
def values (given : Given) (name : String) : List String := (given.lookup name).getD []

/-- The value of an option. -/
def value? (given : Given) (name : String) : Option String := (given.values name).getLast?

/-- Whether an option was given. -/
def contains (given : Given) (name : String) : Bool := (given.lookup name).isSome

/-- One more value of an option. -/
def add (given : Given) (name value : String) : Given :=
  (name, given.values name ++ [value]) :: given.filter fun p => p.1 != name

/-- The options of two levels. What the inner one gives replaces what the outer one gives. -/
def merge (outer inner : Given) : Given :=
  inner ++ outer.filter fun p => !inner.contains p.1

end Given

/-- How far a level has been read. -/
structure Reading where
  given : Given := []
  /-- An option whose value was not examined yet, with the value if it has come. -/
  pending : Option (OptionSpec × Option String) := none
  /-- Whether nothing is an option any more. -/
  literal : Bool := false
  /-- Whether the operand has come. -/
  filled : Bool := false
  deriving Repr

namespace Reading

/-- Takes an option with its value, or a switch without one. -/
def take (r : Reading) (spec : OptionSpec) (value : String) : Except UsageError Reading := do
  match spec.kind with
  | .help => throw .help
  | .version => throw .version
  | .counter => return { r with given := r.given.add spec.name value }
  | .switch =>
    if r.given.contains spec.name then throw .conflict
    return { r with given := r.given.add spec.name value }
  | .value form =>
    if r.given.contains spec.name then throw .conflict
    form.check value
    return { r with given := r.given.add spec.name value }
  | .values form =>
    form.check value
    return { r with given := r.given.add spec.name value }

/-- Examines the option that was not examined yet. -/
def settle (r : Reading) : Except UsageError Reading :=
  match r.pending with
  | none => .ok r
  | some (_, none) => .error .invalidValue
  | some (spec, some value) => { r with pending := none }.take spec value

/-- Takes an option after the one before it was examined. Without a value of its own it waits for
one. -/
def option (r : Reading) (spec : OptionSpec) (value : Option String) :
    Except UsageError Reading := do
  let r ← r.settle
  match spec.kind.form?, value with
  | none, _ => r.take spec ""
  | some _, some value => r.take spec value
  | some _, none => return { r with pending := some (spec, none) }

/-- Whether an option waits for its value. -/
def awaits (r : Reading) : Bool :=
  match r.pending with
  | some (_, none) => true
  | _ => false

end Reading

namespace Level

/-- Reads `--name` or `--name=VALUE`. -/
def readLong (level : Level) (r : Reading) (chars : List Char) : Except UsageError Reading :=
  let (name, value) := match Text.cut? '=' chars with
    | some (name, value) => (name, some (String.ofList value))
    | none => (chars, none)
  match level.options.find? fun spec => spec.name == String.ofList name with
  | none => .error .unknownArgument
  | some spec =>
    if spec.kind.form?.isNone && value.isSome then .error .unexpectedValue
    else r.option spec value

/-- Reads joined letters, of which the last may have a value. -/
def readLetters (level : Level) (r : Reading) : List Char → Except UsageError Reading
  | [] => .ok r
  | c :: rest =>
    match level.options.find? fun spec => spec.letter == some c with
    | none => .error .unknownArgument
    | some spec =>
      if spec.kind.form?.isNone then do level.readLetters (← r.option spec none) rest
      else
        match rest with
        | [] => r.option spec none
        | '=' :: value => r.option spec (some (String.ofList value))
        | value => r.option spec (some (String.ofList value))

/-- Reads a word that belongs to no option. -/
def readOperand (level : Level) (r : Reading) (word : String) : Except UsageError Reading := do
  match level.operand, r.filled with
  | some spec, false =>
    let r ← r.settle
    return { r with pending := some (spec, some word), filled := true }
  | _, _ =>
    if level.commands.isEmpty || (r.literal && level.commands.contains word) then
      throw .unknownArgument
    else throw .unknownCommand

/-- Reads a word that is no command. -/
def readWord (level : Level) (r : Reading) (word : String) : Except UsageError Reading :=
  if r.literal then level.readOperand r word
  else
    match word.toList with
    | ['-', '-'] => .ok { r with literal := true }
    | '-' :: '-' :: chars => level.readLong r chars
    | '-' :: c :: rest => level.readLetters r (c :: rest)
    | _ =>
      match r.pending with
      | some (spec, none) => .ok { r with pending := some (spec, some word) }
      | _ => level.readOperand r word

/-- What the given options need of one another. -/
def check (level : Level) (r : Reading) : Except UsageError Unit := do
  let given := level.options.filter fun spec => r.given.contains spec.name
  if given.any fun spec => spec.excludes.any r.given.contains then throw .conflict
  if given.any fun spec => spec.needs.any fun name => !r.given.contains name then
    throw .missingArgument
  if level.operand.isSome && !r.filled then throw .missingArgument

/-- The end of a level. -/
def finish (level : Level) (r : Reading) : Except UsageError Given := do
  let r ← r.settle
  level.check r
  return r.given

/-- Reads the words of a level up to a command, which is returned with the words after it. -/
def read (level : Level) (r : Reading) :
    List String → Except UsageError (Reading × Option (String × List String))
  | [] => .ok (r, none)
  | word :: rest =>
    if !r.literal && !r.awaits && level.commands.contains word then .ok (r, some (word, rest))
    else do level.read (← level.readWord r word) rest

end Level

end AwsCredentials.CommandLine
