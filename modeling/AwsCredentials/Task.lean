import AwsCredentials.Credentials
import AwsCredentials.Error
import AwsCredentials.Log

/-!
# Tasks

A task is a computation that asks its surroundings for what it cannot know: the time, a file, the
answer to a call. It is a value: a tree that branches over the answers. What a task does therefore
does not depend on who carries it out, and a statement about all services is a statement about all
ways through the tree.

`Task.run` carries a task out in a `World`, which keeps a record of the calls and of the log, and
which may set a deadline. `Task.via` replaces the calls of a task by tasks with calls of their own.
-/

namespace AwsCredentials

/-- The operations that a task may call, each with the type of its answers. -/
structure Interface where
  Op : Type
  Answer : Op → Type

/-- A computation with the calls of an interface. -/
inductive Task (I : Interface) (α : Type) : Type where
  | done (a : α)
  /-- Reports an event. -/
  | log (event : Log.Event) (next : Task I α)
  /-- Asks for the time. -/
  | clock (next : Instant → Task I α)
  /-- Lets some time pass. -/
  | wait (d : Duration) (next : Task I α)
  /-- Gives way, so that a deadline that has come can end the task. -/
  | pause (next : Task I α)
  /-- Reads a file as text. -/
  | read (path : Path) (next : Except ReadError String → Task I α)
  /-- Calls an operation. -/
  | call (op : I.Op) (next : I.Answer op → Task I α)

namespace Task

variable {I J : Interface} {α β γ : Type}

/-- One task after another. -/
def bind : Task I α → (α → Task I β) → Task I β
  | done a, f => f a
  | log e next, f => log e (next.bind f)
  | clock next, f => clock fun t => (next t).bind f
  | wait d next, f => wait d (next.bind f)
  | pause next, f => pause (next.bind f)
  | read path next, f => read path fun r => (next r).bind f
  | call op next, f => call op fun r => (next r).bind f

instance : Monad (Task I) where
  pure := done
  bind := bind

theorem bind_assoc (t : Task I α) (f : α → Task I β) (g : β → Task I γ) :
    (t.bind f).bind g = t.bind fun a => (f a).bind g := by
  induction t with
  | done a => rfl
  | log e next ih => simp [bind, ih]
  | clock next ih => simp [bind, ih]
  | wait d next ih => simp [bind, ih]
  | pause next ih => simp [bind, ih]
  | read path next ih => simp [bind, ih]
  | call op next ih => simp [bind, ih]

theorem bind_done (t : Task I α) : t.bind done = t := by
  induction t with
  | done a => rfl
  | log e next ih => simp [bind, ih]
  | clock next ih => simp [bind, ih]
  | wait d next ih => simp [bind, ih]
  | pause next ih => simp [bind, ih]
  | read path next ih => simp [bind, ih]
  | call op next ih => simp [bind, ih]

instance : LawfulMonad (Task I) := LawfulMonad.mk' (Task I)
  (fun t => bind_done t)
  (fun _ _ => rfl)
  (fun t f g => bind_assoc t f g)

/-- Reports an event. -/
def note (event : Log.Event) : Task I Unit := log event (done ())

/-- The present time. -/
def now : Task I Instant := clock done

/-- Lets some time pass. -/
def sleep (d : Duration) : Task I Unit := wait d (done ())

/-- Gives way. -/
def yield : Task I Unit := pause (done ())

/-- The text of a file. -/
def readFile (path : Path) : Task I (Except ReadError String) := read path done

/-- The answer to a call. -/
def perform (op : I.Op) : Task I (I.Answer op) := call op done

/-- The task with each of its calls carried out by another task. -/
def via (f : (op : I.Op) → Task J (I.Answer op)) : Task I α → Task J α
  | done a => done a
  | log e next => log e (next.via f)
  | clock next => clock fun t => (next t).via f
  | wait d next => wait d (next.via f)
  | pause next => pause (next.via f)
  | read path next => read path fun r => (next r).via f
  | call op next => (f op).bind fun r => (next r).via f

end Task

/-- A task that may fail. -/
abbrev Attempt (I : Interface) (α : Type) := ExceptT Error (Task I) α

namespace Attempt

variable {I : Interface} {α : Type}

/-- A task that does not fail. -/
def ofTask (t : Task I α) : Attempt I α := ExceptT.lift t

/-- A result without a task. -/
def ofExcept (r : Except Error α) : Attempt I α := ExceptT.mk (.done r)

/-- Reports an event. -/
def note (event : Log.Event) : Attempt I Unit := ofTask (Task.note event)

end Attempt

/-- The answer to a call, how long it takes to come, and what becomes of the services. An answer
without a delay never comes. -/
structure Reply (α σ : Type) where
  answer : α
  delay : Option Duration
  state : σ

/-- Services with a state of their own, which answer every call. -/
structure Host (I : Interface) (σ : Type) where
  answer : (op : I.Op) → Instant → σ → Reply (I.Answer op) σ

/-- A call and the time that had been waited before it, in milliseconds. -/
structure Made (I : Interface) where
  op : I.Op
  time : Nat

/-- Where a task is carried out. Waiting is counted in milliseconds and does not move the clock. -/
structure World (I : Interface) (σ : Type) where
  state : σ
  clock : Instant
  files : Path → Except ReadError String
  waited : Nat
  events : Array Log.Event
  calls : Array (Made I)

namespace World

variable {I : Interface} {σ : Type}

/-- A world in which nothing has happened. -/
def start (state : σ) (clock : Instant) (files : Path → Except ReadError String) : World I σ :=
  ⟨state, clock, files, 0, #[], #[]⟩

/-- The milliseconds of a wait, the last one counted as a whole. -/
def millisOf (d : Duration) : Nat := (d.nanos + 999999) / 1000000

/-- Whether a deadline has come. -/
def late (w : World I σ) (deadline : Option Nat) : Bool :=
  match deadline with
  | some t => t ≤ w.waited
  | none => false

/-- The world after a wait, if no deadline comes before its end, and else the world at the
deadline. Work that becomes possible just at the deadline comes before it. -/
def elapse (w : World I σ) (deadline : Option Nat) (d : Duration) :
    Except (World I σ) (World I σ) :=
  if d = Duration.zero then .ok w
  else if w.late deadline then .error w
  else
    let wake := w.waited + millisOf d
    match deadline with
    | some t => if t < wake then .error { w with waited := t } else .ok { w with waited := wake }
    | none => .ok { w with waited := wake }

/-- The world after a wait without end, at the deadline. -/
def expire (w : World I σ) (deadline : Option Nat) : World I σ :=
  match deadline with
  | some t => { w with waited := max w.waited t }
  | none => w

def record (w : World I σ) (op : I.Op) : World I σ :=
  { w with calls := w.calls.push ⟨op, w.waited⟩ }

def report (w : World I σ) (event : Log.Event) : World I σ :=
  { w with events := w.events.push event }

end World

namespace Task

variable {I : Interface} {σ α : Type}

/-- Carries a task out. There is no result when the deadline ends the task or when an answer that
it needs never comes. -/
def run (host : Host I σ) (deadline : Option Nat) : Task I α → World I σ → Option α × World I σ
  | done a, w => (some a, w)
  | log e next, w => next.run host deadline (w.report e)
  | clock next, w => (next w.clock).run host deadline w
  | wait d next, w =>
    match w.elapse deadline d with
    | .ok w => next.run host deadline w
    | .error w => (none, w)
  | pause next, w => if w.late deadline then (none, w) else next.run host deadline w
  | read path next, w => (next (w.files path)).run host deadline w
  | call op next, w =>
    let reply := host.answer op w.clock w.state
    let w := { w.record op with state := reply.state }
    match reply.delay with
    | none => (none, w.expire deadline)
    | some d =>
      match w.elapse deadline d with
      | .ok w => (next reply.answer).run host deadline w
      | .error w => (none, w)

end Task

/-- Carries out a task that may fail, within some time if one is given. There is no result if an
answer never comes and nothing ends the waiting for it. -/
def Attempt.runWithin {I : Interface} {σ α : Type} (host : Host I σ) (timeout : Option Duration)
    (attempt : Attempt I α) (w : World I σ) : Option (Except Error α) × World I σ :=
  match attempt.run.run host (timeout.map fun d => w.waited + World.millisOf d) w, timeout with
  | (none, w), some d => (some (.error (.timeout d)), w)
  | r, _ => r

end AwsCredentials
