import AwsCredentials.CommandLine.Program
import Std.Time.DateTime.Timestamp

/-!
# The program on a machine

Carries the tasks of the program out with the files, the environment and the clock of the machine.
There is no transport: a request is not delivered, so only what needs no request succeeds.
-/

namespace AwsCredentials.Machine

/-- The variables in the block that the kernel shows: texts of the form `NAME=VALUE`, each ended by
a zero. -/
def variablesOf (block : List Char) : List (String × String) :=
  (Text.splitAt '\x00' block).filterMap fun entry =>
    (Text.cut? '=' entry).map fun v => (String.ofList v.1, String.ofList v.2)

/-- Reads a file as text. -/
def readText (path : Path) : IO (Except ReadError String) := do
  match ← (IO.FS.readBinFile path).toBaseIO with
  | .ok bytes =>
    match String.fromUTF8? bytes with
    | some text => return .ok text
    | none => return .error .notText
  | .error (.noFileOrDirectory ..) => return .error .notFound
  | .error (.inappropriateType ..) => return .error .isDirectory
  | .error e => return .error (.other (toString e))

/-- The environment that the program was started in. -/
def environment : IO Environment := do
  match ← readText "/proc/self/environ" with
  | .ok block => return .ofProcess (variablesOf block.toList)
  | .error _ => return .ofProcess []

def currentTime : IO Instant := do
  return ⟨(← Std.Time.Timestamp.now).toNanosecondsSinceUnixEpoch.val⟩

/-- Lets some time pass, but not beyond the deadline. Says whether the deadline came first. -/
def pass (deadline : Option Nat) (d : Duration) : IO Bool := do
  let now ← IO.monoMsNow
  let wake := now + World.millisOf d
  let stop := (deadline.filter (· < wake)).getD wake
  IO.sleep (stop - now).toUInt32
  return stop < wake

/-- Whether the deadline has come. -/
def isLate (deadline : Option Nat) : IO Bool := do
  let now ← IO.monoMsNow
  return deadline.any (· ≤ now)

/-- What comes back for a request. -/
def exchange : Exchange := .failed "no transport"

/-- Carries a task out. There is no result when the deadline ends it. -/
def carryOut {α : Type} (report : Log.Event → IO Unit) (deadline : Option Nat) :
    Task Http α → IO (Option α)
  | .done a => return some a
  | .log event next => do
    report event
    carryOut report deadline next
  | .clock next => do carryOut report deadline (next (← currentTime))
  | .wait d next => do
    if ← pass deadline d then return none
    carryOut report deadline next
  | .pause next => do
    if ← isLate deadline then return none
    carryOut report deadline next
  | .read path next => do carryOut report deadline (next (← readText path))
  | .call _ next => carryOut report deadline (next exchange)

open CommandLine

/-- Resolves a session and prints something about it. -/
def runSession (report : Log.Event → IO Unit) (job : SessionJob) :
    IO (Except String String) := do
  let start ← IO.monoMsNow
  let deadline := job.timeout.map fun d => start + World.millisOf d
  match ← carryOut report deadline job.resolve.run with
  | some (.ok session) =>
    return (← carryOut report none (job.tell session)).getD (.error "no answer")
  | some (.error e) => return .error (SessionJob.failure e)
  | none => return .error (SessionJob.failure (.timeout (job.timeout.getD .zero)))

/-- Carries out what a command line leads to. -/
def runJob (report : Log.Event → IO Unit) (job : Except String Job) :
    IO (Except String String) :=
  match job with
  | .error reason => return .error reason
  | .ok (.print text) => return .ok text
  | .ok (.session job) => runSession report job

/-- Writes what a program leaves behind. -/
def finish (ending : Ending) : IO UInt32 := do
  IO.print ending.stdout
  ending.stderr.forM fun line => IO.eprintln line
  return ending.code.toUInt32

/-- Runs the program with some words. -/
def runWords (words : List String) : IO UInt32 := do
  let env ← environment
  match Arguments.read words with
  | .error e => finish e.ending
  | .ok a =>
    let report := fun event => do
      if let some line := a.logLine? env event then
        IO.eprintln ((← currentTime).text ++ " " ++ line)
    finish (ending [] (← runJob report (a.job env)))

end AwsCredentials.Machine

def main (words : List String) : IO UInt32 :=
  AwsCredentials.Machine.runWords words
