import AwsCredentials.CommandLine.Completion.Place

/-!
# Completion for Zsh

For each place the script tells the shell the options, and for one with further commands also the
function that lists these and the state in which the rest is read.
-/

namespace AwsCredentials.CommandLine.Zsh

/-- The shell's own signs in an explanation, written so that they are taken as they are. -/
def escaped (s : String) : String :=
  rewritten (fun c =>
    if c == '\'' then "'\\''" else if "\\[]:$\x60".toList.contains c then "\\" ++ c.toString
    else c.toString) s

/-- The words that an option or operand takes, with their texts where there are any. -/
def wordList (e : Explained) : String :=
  if e.wordHelps.isEmpty then "(" ++ " ".intercalate e.words ++ ")"
  else
    let one := fun w : String × String => w.1 ++ "\\:\"" ++ escaped w.2 ++ "\""
    "((" ++ "\n".intercalate (e.explainedWords.map one) ++ "))"

/-- How a value is found. -/
def action (e : Explained) : String :=
  if e.takesPath then "_files" else if e.words.isEmpty then "_default" else wordList e

/-- The option that must not stand beside this one, or the sign of one that may be repeated. -/
def guard (e : Explained) : String :=
  if e.repeats then "*" else e.spec.excludes.elim "" fun name => "(--" ++ name ++ ")"

/-- The ways to write an option. -/
def optionLines (e : Explained) : List String :=
  let line := fun start ending : String =>
    "'" ++ guard e ++ start ++ "[" ++ escaped e.help ++ "]" ++ ending ++ "' \\"
  if e.takesValue then
    let ending := ":" ++ e.valueName ++ ":" ++ action e
    e.short?.toList.map (fun s => line (s ++ "+") ending) ++ [line (e.long ++ "=") ending]
  else e.spellings.map fun s => line s ""

def operandLine (e : Explained) : String :=
  "':" ++ e.spec.name ++ " -- " ++ escaped e.help ++ ":" ++ wordList e ++ "' \\"

/-- The name of the function that lists the commands at a place. -/
def listFunction (p : Place) : String := "_" ++ p.joined "__" ++ "_commands"

/-- What the shell is told of a place. -/
def arguments (p : Place) : List String :=
  ["_arguments \"$\x7b_arguments_options[@]\x7d\" : \\"]
    ++ p.options.flatMap optionLines ++ p.operand.toList.map operandLine
    ++ (if p.commands.isEmpty then []
        else ["\":: :" ++ listFunction p ++ "\" \\", "\"*::: :->" ++ p.joined "-" ++ "\" \\"])
    ++ ["&& ret=0"]

/-- The selection of the next command at a place. -/
def selection (p : Place) (next : List (String × List String)) : List String :=
  ["case $state in", "(" ++ p.joined "-" ++ ")",
   "    words=($line[1] \"$\x7bwords[@]\x7d\")",
   "    (( CURRENT += 1 ))",
   "    curcontext=\"$\x7bcurcontext%:*:*\x7d:" ++ p.joined "-" ++ "-command-$line[1]:\"",
   "    case $line[1] in"]
  ++ indented 8 (next.flatMap fun n => ["(" ++ n.1 ++ ")"] ++ n.2 ++ [";;"])
  ++ ["    esac", ";;", "esac"]

/-- What the shell is told after the command that explains the others. -/
def helpArguments : List String :=
  arguments helpPlace
    ++ selection helpPlace (commandHelps.map fun c => (c.1, arguments (explainedPlace c.1)))

def body : List String :=
  ["typeset -A opt_args",
   "typeset -a _arguments_options",
   "local ret=1", "",
   "if is-at-least 5.2; then",
   "    _arguments_options=(-s -S -C)",
   "else",
   "    _arguments_options=(-s -C)",
   "fi", "",
   "local context curcontext=\"$curcontext\" state line"]
  ++ arguments topPlace
  ++ selection topPlace
    (commands.map (fun c => (c.name, arguments c.place)) ++ [(helpCommand.1, helpArguments)])

/-- The function that lists the commands at a place. -/
def listing (p : Place) : List String :=
  let name := listFunction p
  ["(( $+functions[" ++ name ++ "] )) ||", name ++ "() \x7b", "    local commands; commands=("]
  ++ p.commands.map (fun c => "'" ++ c.1 ++ ":" ++ escaped c.2 ++ "' \\")
  ++ ["    )", "    _describe -t commands '" ++ p.joined " " ++ " commands' commands \"$@\"",
    "\x7d"]

def script : String :=
  let function := "_" ++ programName
  ofLines <|
    ["#compdef " ++ programName, "", "autoload -U is-at-least", "", function ++ "() \x7b"]
    ++ indented 4 body ++ ["\x7d", ""]
    ++ places.flatMap listing
    ++ ["", "if [ \"$funcstack[1]\" = \"" ++ function ++ "\" ]; then",
     "    " ++ function ++ " \"$@\"",
     "else",
     "    compdef " ++ function ++ " " ++ programName,
     "fi"]

end AwsCredentials.CommandLine.Zsh
