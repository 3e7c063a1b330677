import AwsCredentials.CommandLine.Completion.Bash
import AwsCredentials.CommandLine.Completion.Elvish
import AwsCredentials.CommandLine.Completion.Fish
import AwsCredentials.CommandLine.Completion.PowerShell
import AwsCredentials.CommandLine.Completion.Zsh

/-!
# Completion scripts

The script of each shell.
-/

namespace AwsCredentials.CommandLine

/-- The script that completes command lines in a shell. -/
def Shell.script : Shell → String
  | .bash => Bash.script
  | .elvish => Elvish.script
  | .fish => Fish.script
  | .powershell => PowerShell.script
  | .zsh => Zsh.script

end AwsCredentials.CommandLine
