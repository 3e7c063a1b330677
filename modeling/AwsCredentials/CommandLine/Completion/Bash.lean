import AwsCredentials.CommandLine.Completion.Place

/-!
# Completion for Bash

The script finds the place from the words before the cursor, then offers the values of the option
before the cursor, or else everything that may follow.
-/

namespace AwsCredentials.CommandLine.Bash

/-- One case of a selection. -/
def arm (pattern : String) (body : List String) : List String :=
  [pattern ++ ")"] ++ indented 4 (body ++ [";;"])

/-- The name of a place. -/
def label (p : Place) : String := p.joined "__"

/-- The case that finds a place from the one before it. -/
def step (p : Place) : List String :=
  let found := "cmd=\"" ++ label p ++ "\""
  match p.path.reverse with
  | last :: first :: rest =>
    arm ("__".intercalate (first :: rest).reverse ++ "," ++ last) [found]
  | _ => arm "\",$1\"" [found]

/-- The command that finds the values of an option. -/
def values (e : Explained) : String :=
  if e.words.isEmpty then "COMPREPLY=($(compgen -f \"$\x7bcur\x7d\"))"
  else "COMPREPLY=($(compgen -W \"" ++ " ".intercalate e.words ++ "\" -- \"$\x7bcur\x7d\"))"

/-- The cases of an option. -/
def optionArms (e : Explained) : List String :=
  if e.takesValue then
    (e.long :: e.short?.toList).flatMap fun spelling => arm spelling [values e, "return 0"]
  else []

def offerAll : String := "COMPREPLY=( $(compgen -W \"$\x7bopts\x7d\" -- \"$\x7bcur\x7d\") )"

/-- The case of a place. -/
def placeArm (p : Place) : List String :=
  arm (label p) <|
    ["opts=\"" ++ " ".intercalate p.candidates ++ "\"",
     "if [[ $\x7bcur\x7d == -* || $\x7bCOMP_CWORD\x7d -eq " ++ toString p.path.length
       ++ " ]] ; then"]
    ++ indented 4 [offerAll, "return 0"]
    ++ ["fi", "case \"$\x7bprev\x7d\" in"]
    ++ indented 4 (p.options.flatMap optionArms ++ arm "*" ["COMPREPLY=()"])
    ++ ["esac", offerAll, "return 0"]

def body : List String :=
  ["local i cur prev opts cmd", "COMPREPLY=()",
   "if [[ \"$\x7bBASH_VERSINFO[0]\x7d\" -ge 4 ]]; then",
   "    cur=\"$2\"",
   "else",
   "    cur=\"$\x7bCOMP_WORDS[COMP_CWORD]\x7d\"",
   "fi",
   "prev=\"$3\"", "cmd=\"\"", "opts=\"\"", "",
   "for i in \"$\x7bCOMP_WORDS[@]:0:COMP_CWORD\x7d\"",
   "do",
   "    case \"$\x7bcmd\x7d,$\x7bi\x7d\" in"]
  ++ indented 8 (places.flatMap step ++ arm "*" [])
  ++ ["    esac", "done", "", "case \"$\x7bcmd\x7d\" in"]
  ++ indented 4 (places.flatMap placeArm)
  ++ ["esac"]

def script : String :=
  let function := "_" ++ programName
  ofLines <|
    [function ++ "() \x7b"] ++ indented 4 body ++ ["\x7d", "",
     "if [[ \"$\x7bBASH_VERSINFO[0]\x7d\" -eq 4 && \"$\x7bBASH_VERSINFO[1]\x7d\" -ge 4 "
       ++ "|| \"$\x7bBASH_VERSINFO[0]\x7d\" -gt 4 ]]; then",
     "    complete -F " ++ function ++ " -o nosort -o bashdefault -o default " ++ programName,
     "else",
     "    complete -F " ++ function ++ " -o bashdefault -o default " ++ programName,
     "fi"]

end AwsCredentials.CommandLine.Bash
