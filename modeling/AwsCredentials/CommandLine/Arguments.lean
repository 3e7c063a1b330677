import AwsCredentials.CommandLine.Grammar
import AwsCredentials.Config
import AwsCredentials.Report.Exports
import AwsCredentials.Report.Whoami

/-!
# The arguments of the program

The options, the commands and what they mean. The options of a session may stand before or after
the command, and the later ones replace the earlier ones.
-/

namespace AwsCredentials.CommandLine

/-- The shells for which there is a completion script. -/
inductive Shell where
  | bash
  | elvish
  | fish
  | powershell
  | zsh
  deriving DecidableEq, Repr

/-- The word for a shell. -/
def Shell.name : Shell → String
  | .bash => "bash"
  | .elvish => "elvish"
  | .fish => "fish"
  | .powershell => "powershell"
  | .zsh => "zsh"

/-- All shells. -/
def Shell.all : List Shell := [.bash, .elvish, .fish, .powershell, .zsh]

/-- The shell with a name. -/
def Shell.ofName? (name : String) : Option Shell :=
  all.find? fun shell => shell.name == name

/-- What the program does. -/
inductive Command where
  /-- Tells who the credentials belong to. -/
  | whoami (format : WhoamiFormat)
  /-- Prints the credentials. -/
  | credentials (format : CredentialsFormat)
  /-- Prints a completion script. -/
  | completions (shell : Shell)
  deriving DecidableEq, Repr

/-- An option with the text that explains it and, perhaps, texts for the words that it takes. -/
structure Explained where
  spec : OptionSpec
  help : String
  wordHelps : List String := []

/-- The options of a session. -/
def sessionOptions : List Explained :=
  let text := OptionKind.value .text
  List.map (fun o => { spec := o.1, help := o.2 })
  [(⟨"profile", some 'p', text, none, none⟩, "AWS profile name"),
   (⟨"region", none, text, none, none⟩, "AWS region"),
   (⟨"access-key-id", none, text, none, none⟩, "Static access key id"),
   (⟨"secret-access-key", none, text, none, none⟩, "Static secret access key"),
   (⟨"session-token", none, text, none, none⟩, "Static session token"),
   (⟨"role-arn", none, text, none, none⟩, "IAM role to assume after resolving base credentials"),
   (⟨"role-session-name", none, text, some "role-arn", none⟩, "Session name for --role-arn"),
   (⟨"external-id", none, text, some "role-arn", none⟩, "External id for --role-arn"),
   (⟨"duration-seconds", none, .value .number64, some "role-arn", none⟩,
    "Session duration for --role-arn"),
   (⟨"web-identity-role-arn", none, text, none, none⟩,
    "IAM role to assume with a web identity token"),
   (⟨"web-identity-token", none, text, some "web-identity-role-arn",
     some "web-identity-token-file"⟩, "Web identity token (JWT)"),
   (⟨"web-identity-token-file", none, .value .path, some "web-identity-role-arn", none⟩,
    "File holding the web identity token"),
   (⟨"shared-config-file", none, .values .path, none, none⟩, "Shared config file (repeatable)"),
   (⟨"shared-credentials-file", none, .values .path, none, none⟩,
    "Shared credentials file (repeatable)"),
   (⟨"sts-endpoint", none, text, none, none⟩, "Custom STS endpoint URL"),
   (⟨"iam-endpoint", none, text, none, none⟩, "Custom IAM endpoint URL"),
   (⟨"max-attempts", none, .value .number32, none, none⟩, "Maximum attempts per network call"),
   (⟨"skip-validation", none, .switch, none, none⟩, "Skip STS GetCallerIdentity validation"),
   (⟨"skip-account-lookup", none, .switch, none, none⟩, "Skip IAM account id lookups"),
   (⟨"trace-http", none, .switch, none, none⟩, "Log redacted STS/IAM HTTP traffic"),
   (⟨"timeout-seconds", none, .value .number64, none, none⟩,
    "Give up resolving after this many seconds")]

/-- The option that asks for more of the log. -/
def verboseOption : Explained where
  spec := ⟨"verbose", some 'v', .counter, none, none⟩
  help := "Increase verbosity (-v info, -vv debug, -vvv trace)"

def helpOption : Explained where
  spec := ⟨"help", some 'h', .help, none, none⟩
  help := "Print help"

def versionOption : Explained where
  spec := ⟨"version", some 'V', .version, none, none⟩
  help := "Print version"

/-- The forms of an identity, by their words. -/
def whoamiFormats : List (String × WhoamiFormat) := [("text", .text), ("json", .json)]

/-- The forms of credentials, by their words. -/
def credentialsFormats : List (String × CredentialsFormat) :=
  [("env", .env), ("process", .process)]

def outputOption : Explained where
  spec := ⟨"output", some 'o', .value (.oneOf (whoamiFormats.map Prod.fst)), none, none⟩
  help := "Output format"

def formatOption : Explained where
  spec := ⟨"format", some 'f', .value (.oneOf (credentialsFormats.map Prod.fst)), none, none⟩
  help := "Output format"
  wordHelps := ["Shell `export` lines", "JSON for `credential_process`"]

def shellOperand : Explained where
  spec := ⟨"shell", none, .value (.oneOf (Shell.all.map Shell.name)), none, none⟩
  help := "Shell to generate completions for"

/-- A command with its own option or operand. -/
structure CommandSpec where
  name : String
  help : String
  option : Option Explained
  operand : Option Explained

/-- The name of the program. -/
def programName : String := "awsbase"

/-- The commands. -/
def commands : List CommandSpec :=
  [⟨"whoami", "Show the resolved account, partition and caller identity", some outputOption, none⟩,
   ⟨"credentials", "Print the resolved credentials", some formatOption, none⟩,
   ⟨"completions", "Generate shell completion scripts for awsbase", none, some shellOperand⟩]

/-- The command that explains the others. -/
def helpCommand : String × String :=
  ("help", "Print this message or the help of the given subcommand(s)")

/-- The options that may stand on every level. -/
def globalOptions : List Explained := sessionOptions ++ [verboseOption]

/-- The level before a command. -/
def topLevel : Level :=
  ⟨(globalOptions ++ [helpOption, versionOption]).map (·.spec), none,
    commands.map (·.name) ++ [helpCommand.1]⟩

/-- The level after a command. -/
def CommandSpec.level (c : CommandSpec) : Level :=
  ⟨(c.option.toList ++ globalOptions ++ [helpOption]).map (·.spec), c.operand.map (·.spec), []⟩

/-- The command that was given with its options. -/
def commandOf? (name : String) (given : Given) : Option Command :=
  match name with
  | "whoami" =>
    some (.whoami (((given.value? "output").bind fun w => whoamiFormats.lookup w).getD .text))
  | "credentials" =>
    some (.credentials
      (((given.value? "format").bind fun w => credentialsFormats.lookup w).getD .env))
  | "completions" => ((given.value? "shell").bind Shell.ofName?).map .completions
  | _ => none

/-- What a command line says. -/
structure Arguments where
  command : Option Command
  given : Given
  deriving Repr

/-- What asking for help on a command leads to. -/
def helpOn : List String → UsageError
  | [] => .help
  | [word] => if topLevel.commands.contains word then .help else .unknownCommand
  | _ => .unknownCommand

/-- Reads the words after the name of the program. -/
def Arguments.read (words : List String) : Except UsageError Arguments := do
  match ← topLevel.read {} words with
  | (r, none) => return ⟨none, ← topLevel.finish r⟩
  | (r, some (name, rest)) =>
    match commands.find? fun c => c.name == name with
    | none => throw (helpOn rest)
    | some c =>
      -- A command word has no further commands after it.
      let (inner, _) ← c.level.read {} rest
      let inner ← c.level.finish inner
      let outer ← topLevel.finish r
      return ⟨commandOf? name inner, outer.merge inner⟩

namespace Arguments

/-- How much of the log is asked for. -/
def verbosity (a : Arguments) : Nat := min (a.given.values "verbose").length 255

/-- The time that resolving may take. -/
def timeout? (a : Arguments) : Option Nat := (a.given.value? "timeout-seconds").bind readNumber64

/-- The role that the options describe. -/
def roles (a : Arguments) : List RoleSpec :=
  (a.given.value? "role-arn").toList.map fun arn =>
    { arn, sessionName := a.given.value? "role-session-name"
      externalId := a.given.value? "external-id"
      duration := ((a.given.value? "duration-seconds").bind readNumber64).map Duration.ofSeconds }

/-- The web identity role that the options describe. -/
def webRole? (a : Arguments) : Except String (Option WebRoleSpec) :=
  match a.given.value? "web-identity-role-arn" with
  | none => .ok none
  | some arn =>
    match a.given.value? "web-identity-token", a.given.value? "web-identity-token-file" with
    | none, none =>
      .error "--web-identity-role-arn needs --web-identity-token or --web-identity-token-file"
    | token, tokenFile => .ok (some { arn, token, tokenFile })

/-- The configuration that the options describe. -/
def config (a : Arguments) : Except String Config := do
  let accessKey := a.given.value? "access-key-id"
  let secretKey := a.given.value? "secret-access-key"
  if accessKey.isSome != secretKey.isSome then
    throw "--access-key-id and --secret-access-key must be given together"
  let webRole ← a.webRole?
  return {
    accessKey, secretKey
    token := if accessKey.isSome then a.given.value? "session-token" else none
    profile := a.given.value? "profile", region := a.given.value? "region"
    configFiles := a.given.values "shared-config-file"
    credentialsFiles := a.given.values "shared-credentials-file"
    roles := a.roles, webRole
    skipValidation := a.given.contains "skip-validation"
    skipAccountLookup := a.given.contains "skip-account-lookup"
    maxAttempts := (a.given.value? "max-attempts").bind readNumber32
    stsEndpoint := a.given.value? "sts-endpoint", iamEndpoint := a.given.value? "iam-endpoint"
    traceHttp := a.given.contains "trace-http" }

end Arguments

end AwsCredentials.CommandLine
