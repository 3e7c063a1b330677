import AwsCredentials.Error
import AwsCredentials.Text.Ascii

/-!
# Files held in memory

A directory tree as it is seen from its working directory. `Files.read` follows a path through the
tree: an empty part and `.` stay where they are, `..` goes up, and a file ends the way. Nothing
outside the working directory exists.
-/

namespace AwsCredentials

/-- What stands at a place in a directory tree. -/
inductive FileEntry where
  | text (s : String)
  /-- Bytes that are no text. -/
  | binary
  | directory
  deriving DecidableEq, Repr

/-- A directory tree: what stands at each place below the working directory, a place being the
names on the way to it. -/
structure Files where
  entries : List (List String × FileEntry)
  deriving Repr

namespace Files

/-- The parts of a path between its slashes. -/
def parts (path : Path) : List String :=
  (Text.splitAt '/' path.toList).map String.ofList

/-- The places above a place. -/
def above (place : List String) : List (List String) :=
  (List.range place.length).map place.take

/-- The tree that holds the given entries and the directories above them. -/
def ofPaths (paths : List (Path × FileEntry)) : Files :=
  let places := paths.map fun p => ((parts p.1).filter fun n => n ≠ "" ∧ n ≠ ".", p.2)
  ⟨places ++ places.flatMap fun p => (above p.1).map fun place => (place, .directory)⟩

/-- What stands at a place. The working directory is always there. -/
def at? (files : Files) (place : List String) : Option FileEntry :=
  if place.isEmpty then some .directory else files.entries.lookup place

/-- The longest name, in bytes. -/
def longestName : Nat := 255

/-- Goes from a place along the parts of a path. -/
def walk (files : Files) (place : List String) : List String → Except ReadError (List String)
  | [] => .ok place
  | part :: rest =>
    match files.at? place with
    | none => .error .notFound
    | some (.text _) | some .binary => .error .notDirectory
    | some .directory =>
      if part = "" ∨ part = "." then files.walk place rest
      else if part = ".." then
        if place.isEmpty then .error .notFound else files.walk place.dropLast rest
      else if longestName < part.utf8ByteSize then .error .nameTooLong
      else files.walk (place ++ [part]) rest

/-- Reads a file as text. -/
def read (files : Files) (path : Path) : Except ReadError String := do
  if path.toList.contains '\x00' then throw .badName
  if path.isEmpty || path.toList.head? = some '/' then throw .notFound
  match files.at? (← files.walk [] (parts path)) with
  | none => throw .notFound
  | some .directory => throw .isDirectory
  | some .binary => throw .notText
  | some (.text s) => return s

end Files

end AwsCredentials
