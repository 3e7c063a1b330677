import AwsCredentials.CommandLine.Completion.Place

/-!
# Completion for Elvish

The script is a table from places to the words that may follow.
-/

namespace AwsCredentials.CommandLine.Elvish

/-- A quoted text. A quote inside is written twice. -/
def quoted (s : String) : String :=
  "'" ++ rewritten (fun c => if c == '\'' then "''" else c.toString) s ++ "'"

def candidate (word help : String) : String := "cand " ++ word ++ " " ++ quoted help

/-- The words for a place. -/
def candidates (p : Place) : List String :=
  p.options.flatMap (fun e => e.spellings.map fun spelling => candidate spelling e.help)
    ++ p.commands.map fun c => candidate c.1 c.2

def entry (p : Place) : List String :=
  ["&'" ++ p.joined ";" ++ "'= \x7b"] ++ indented 4 (candidates p) ++ ["\x7d"]

def body : List String :=
  ["fn spaces \x7b|n|",
   "    builtin:repeat $n ' ' | str:join ''",
   "\x7d",
   "fn cand \x7b|text desc|",
   "    edit:complex-candidate $text &display=$text' '(spaces (- 14 (wcswidth $text)))$desc",
   "\x7d",
   "var command = '" ++ programName ++ "'",
   "for word $words[1..-1] \x7b",
   "    if (str:has-prefix $word '-') \x7b",
   "        break",
   "    \x7d",
   "    set command = $command';'$word",
   "\x7d",
   "var completions = ["]
  ++ indented 4 (places.flatMap entry)
  ++ ["]", "$completions[$command]"]

def script : String :=
  ofLines <|
    ["", "use builtin;", "use str;", "",
     "set edit:completion:arg-completer[" ++ programName ++ "] = \x7b|@words|"]
    ++ indented 4 body ++ ["\x7d"]

end AwsCredentials.CommandLine.Elvish
