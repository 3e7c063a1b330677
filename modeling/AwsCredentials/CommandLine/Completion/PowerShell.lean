import AwsCredentials.CommandLine.Completion.Place

/-!
# Completion for PowerShell

The script selects the words for the place that the words before the cursor lead to.
-/

namespace AwsCredentials.CommandLine.PowerShell

/-- A quoted text. A quote inside is written twice. -/
def quoted (s : String) : String :=
  "'" ++ rewritten (fun c => if c == '\'' then "''" else c.toString) s ++ "'"

/-- A word that is offered, the form in which it is listed, and its text. -/
def result (word listed kind help : String) : String :=
  "[CompletionResult]::new('" ++ word ++ "', '" ++ listed ++ "', [CompletionResultType]::" ++ kind
    ++ ", " ++ quoted help ++ ")"

/-- The ways to write an option. A capital letter has a blank after it in the list, since words
there differ by more than case. -/
def optionResults (e : Explained) : List String :=
  let listed := fun word : String => if word.toList.any Char.isUpper then word ++ " " else word
  e.spellings.map fun word => result word (listed word) "ParameterName" e.help

/-- The words for a place. -/
def results (p : Place) : List String :=
  p.options.flatMap optionResults ++ p.commands.map fun c => result c.1 c.1 "ParameterValue" c.2

def case (p : Place) : List String :=
  ["'" ++ p.joined ";" ++ "' \x7b"] ++ indented 4 (results p ++ ["break"]) ++ ["\x7d"]

def body : List String :=
  ["param($wordToComplete, $commandAst, $cursorPosition)", "",
   "$commandElements = $commandAst.CommandElements",
   "$command = @(",
   "    '" ++ programName ++ "'",
   "    for ($i = 1; $i -lt $commandElements.Count; $i++) \x7b",
   "        $element = $commandElements[$i]",
   "        if ($element -isnot [StringConstantExpressionAst] -or",
   "            $element.StringConstantType -ne [StringConstantType]::BareWord -or",
   "            $element.Value.StartsWith('-') -or",
   "            $element.Value -eq $wordToComplete) \x7b",
   "            break",
   "        \x7d",
   "        $element.Value",
   "    \x7d",
   ") -join ';'", "",
   "$completions = @(switch ($command) \x7b"]
  ++ indented 4 (places.flatMap case)
  ++ ["\x7d)", "",
   "$completions.Where\x7b $_.CompletionText -like \"$wordToComplete*\" \x7d |",
   "    Sort-Object -Property ListItemText"]

def script : String :=
  ofLines <|
    ["", "using namespace System.Management.Automation",
     "using namespace System.Management.Automation.Language", "",
     "Register-ArgumentCompleter -Native -CommandName '" ++ programName ++ "' -ScriptBlock \x7b"]
    ++ indented 4 body ++ ["\x7d"]

end AwsCredentials.CommandLine.PowerShell
