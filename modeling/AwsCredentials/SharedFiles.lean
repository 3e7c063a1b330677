import AwsCredentials.Ini.Reader
import AwsCredentials.Profile
import AwsCredentials.Task
import AwsCredentials.Text.Ascii

/-!
# Shared files

Two kinds of settings files hold profiles. In a file of profile settings the section `default` and
the sections `profile NAME` are profiles, in a file of keys every section is one. A profile that
several sections mention is merged: the last value of a key wins, files of keys come after files of
settings, and otherwise the order is that of the files and of their lines.
-/

namespace AwsCredentials

/-- The kinds of shared files. -/
inductive FileKind where
  /-- Profile settings. -/
  | config
  /-- Keys. -/
  | credentials
  deriving DecidableEq, Repr

/-- The profile that is used when none is named. -/
def defaultProfile : String := "default"

/-- The name of the profile that a section holds. -/
def FileKind.profileName? (kind : FileKind) (header : String) : Option String :=
  let name := Text.trim header
  match kind with
  | .credentials => Text.nonBlank name
  | .config =>
    if name = defaultProfile then some name
    else
      match Text.dropStart? "profile".toList name.toList with
      | some (c :: rest) => if Text.isBlank c then Text.nonBlank (String.ofList rest) else none
      | _ => none

/-- The profiles of the shared files, and the files that were asked for. -/
structure SharedFiles where
  profiles : List Profile
  paths : List Path
  deriving DecidableEq, Repr, Inhabited

namespace SharedFiles

/-- No files. -/
def empty : SharedFiles := ⟨[], []⟩

/-- The profile with a name. -/
def profile? (files : SharedFiles) (name : String) : Option Profile :=
  files.profiles.find? fun p => p.name == name

/-- Whether there is a profile with a name. -/
def contains (files : SharedFiles) (name : String) : Bool :=
  (files.profile? name).isSome

/-- Sets trimmed values in a profile. -/
def setAll (p : Profile) (entries : List (String × String)) : Profile :=
  entries.foldl (fun p e => p.set (Text.trim e.1) (Text.trim e.2)) p

/-- The profiles with some values set in the one with a name, which is added if it is not there. -/
def enter (name : String) (entries : List (String × String)) : List Profile → List Profile
  | [] => [setAll (Profile.named name) entries]
  | p :: rest => if p.name = name then setAll p entries :: rest else p :: enter name entries rest

/-- Merges one section. -/
def mergeSection (kind : FileKind) (files : SharedFiles) (s : Ini.Section) : SharedFiles :=
  match s.name.bind kind.profileName? with
  | some name => { files with profiles := enter name s.entries files.profiles }
  | none => files

/-- Merges the sections of a file in their order. -/
def merge (files : SharedFiles) (kind : FileKind) (document : Ini.Document) : SharedFiles :=
  document.foldl (mergeSection kind) files

/-- Merges the text of a file. -/
def mergeText (files : SharedFiles) (kind : FileKind) (path : Path) (text : String) :
    Except Error SharedFiles :=
  match Ini.Document.read text with
  | .ok document => .ok (files.merge kind document)
  | .error e => .error (.sharedFile path (.malformed e))

/-- The profiles of two texts that are not on disk. -/
def parse (config credentials : String) : Except Error SharedFiles := do
  let files ← empty.mergeText .config "<config>" config
  files.mergeText .credentials "<credentials>" credentials

/-- A text without the byte order mark that may stand at the start of a file. -/
def withoutMark (text : String) : String :=
  match text.toList with
  | '\ufeff' :: rest => String.ofList rest
  | _ => text

variable {I : Interface}

/-- Adds the profiles of a file. A file that does not exist is passed over. -/
def loadFile (files : SharedFiles) (kind : FileKind) (path : Path) : Attempt I SharedFiles := do
  let files := { files with paths := files.paths ++ [path] }
  match ← Attempt.ofTask (Task.readFile path) with
  | .ok text =>
    match files.mergeText kind path (withoutMark text) with
    | .ok files =>
      Attempt.note (.debug .sharedFiles ("Loaded shared file: " ++ path))
      return files
    | .error e => throw e
  | .error e =>
    if e.missing then
      Attempt.note (.debug .sharedFiles ("Shared file not found, skipping: " ++ path))
      return files
    else throw (.sharedFile path (.unreadable e))

/-- The profiles of files, those of settings before those of keys. -/
def load (configFiles credentialsFiles : List Path) : Attempt I SharedFiles := do
  let files ← configFiles.foldlM (fun files path => files.loadFile .config path) empty
  credentialsFiles.foldlM (fun files path => files.loadFile .credentials path) files

open Text Shown in
/-- The profiles and the files. -/
def shown (files : SharedFiles) : String :=
  let profiles := files.profiles.map fun p => (p.name, p)
  record "SharedFiles"
    [("profiles", entries Profile.shown profiles), ("paths", list quoted files.paths)]

end SharedFiles

end AwsCredentials
