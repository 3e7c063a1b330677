import AwsCredentials.Proofs.Task.Run

/-!
# Ways through a task

A way through a task is what it meets from its start to its result: its reports, its waits, and the
answers that it gets. A statement about all ways is a statement about all surroundings that a task
can be carried out in.

* `way_bind_iff`: a way through one task after another is a way through each;
* `exists_way_of_run`: a run that gives a result goes along a way, and the calls that it records are
  those of the way.
-/

namespace AwsCredentials.Task

variable {I : Interface} {σ α β : Type}

/-- What a task meets on its way. -/
inductive Event (I : Interface) where
  | log (event : Log.Event)
  | clock (now : Instant)
  | wait (d : Duration)
  | pause
  | read (path : Path) (content : Except ReadError String)
  | call (op : I.Op) (answer : I.Answer op)

/-- The operation that is called, if one is. -/
def Event.op? : Event I → Option I.Op
  | .call op _ => some op
  | _ => none

/-- The ways through a task, each with its result. -/
inductive Way : Task I α → List (Event I) → α → Prop
  | done {a : α} : Way (.done a) [] a
  | log {e : Log.Event} {next : Task I α} {es : List (Event I)} {a : α} :
    Way next es a → Way (.log e next) (.log e :: es) a
  | clock {t : Instant} {next : Instant → Task I α} {es : List (Event I)} {a : α} :
    Way (next t) es a → Way (.clock next) (.clock t :: es) a
  | wait {d : Duration} {next : Task I α} {es : List (Event I)} {a : α} :
    Way next es a → Way (.wait d next) (.wait d :: es) a
  | pause {next : Task I α} {es : List (Event I)} {a : α} :
    Way next es a → Way (.pause next) (.pause :: es) a
  | read {path : Path} {r : Except ReadError String} {next : Except ReadError String → Task I α}
    {es : List (Event I)} {a : α} :
    Way (next r) es a → Way (.read path next) (.read path r :: es) a
  | call {op : I.Op} {r : I.Answer op} {next : I.Answer op → Task I α} {es : List (Event I)} {a : α} :
    Way (next r) es a → Way (.call op next) (.call op r :: es) a

theorem Way.bind {t : Task I α} {f : α → Task I β} {es es' : List (Event I)} {a : α} {b : β}
    (h : Way t es a) (h' : Way (f a) es' b) : Way (t.bind f) (es ++ es') b := by
  induction h with
  | done => exact h'
  | log _ ih => exact .log (ih h')
  | clock _ ih => exact .clock (ih h')
  | wait _ ih => exact .wait (ih h')
  | pause _ ih => exact .pause (ih h')
  | read _ ih => exact .read (ih h')
  | call _ ih => exact .call (ih h')

theorem way_bind_iff {t : Task I α} {f : α → Task I β} {es : List (Event I)} {b : β} :
    Way (t.bind f) es b ↔ ∃ es₁ a es₂, Way t es₁ a ∧ Way (f a) es₂ b ∧ es = es₁ ++ es₂ := by
  constructor
  · intro h
    induction t generalizing es with
    | done a => exact ⟨[], a, es, .done, h, rfl⟩
    | log e next ih =>
      cases h with | log h => ?_
      obtain ⟨es₁, a, es₂, h₁, h₂, rfl⟩ := ih h
      exact ⟨_, a, es₂, .log h₁, h₂, rfl⟩
    | clock next ih =>
      cases h with | clock h => ?_
      obtain ⟨es₁, a, es₂, h₁, h₂, rfl⟩ := ih _ h
      exact ⟨_, a, es₂, .clock h₁, h₂, rfl⟩
    | wait d next ih =>
      cases h with | wait h => ?_
      obtain ⟨es₁, a, es₂, h₁, h₂, rfl⟩ := ih h
      exact ⟨_, a, es₂, .wait h₁, h₂, rfl⟩
    | pause next ih =>
      cases h with | pause h => ?_
      obtain ⟨es₁, a, es₂, h₁, h₂, rfl⟩ := ih h
      exact ⟨_, a, es₂, .pause h₁, h₂, rfl⟩
    | read path next ih =>
      cases h with | read h => ?_
      obtain ⟨es₁, a, es₂, h₁, h₂, rfl⟩ := ih _ h
      exact ⟨_, a, es₂, .read h₁, h₂, rfl⟩
    | call op next ih =>
      cases h with | call h => ?_
      obtain ⟨es₁, a, es₂, h₁, h₂, rfl⟩ := ih _ h
      exact ⟨_, a, es₂, .call h₁, h₂, rfl⟩
  · rintro ⟨es₁, a, es₂, h₁, h₂, rfl⟩
    exact h₁.bind h₂

theorem way_done_iff {a b : α} {es : List (Event I)} :
    Way (.done a) es b ↔ es = [] ∧ b = a := by
  constructor
  · rintro ⟨⟩; exact ⟨rfl, rfl⟩
  · rintro ⟨rfl, rfl⟩; exact .done

theorem way_log_iff {e : Log.Event} {next : Task I α} {es : List (Event I)} {a : α} :
    Way (.log e next) es a ↔ ∃ es', Way next es' a ∧ es = .log e :: es' := by
  constructor
  · rintro ⟨⟩; exact ⟨_, ‹_›, rfl⟩
  · rintro ⟨es', h, rfl⟩; exact .log h

theorem way_wait_iff {d : Duration} {next : Task I α} {es : List (Event I)} {a : α} :
    Way (.wait d next) es a ↔ ∃ es', Way next es' a ∧ es = .wait d :: es' := by
  constructor
  · rintro ⟨⟩; exact ⟨_, ‹_›, rfl⟩
  · rintro ⟨es', h, rfl⟩; exact .wait h

/-- A run that gives a result goes along a way, of which it records the calls. -/
theorem exists_way_of_run {host : Host I σ} {deadline : Option Nat} {t : Task I α}
    {w w' : World I σ} {a : α} (h : t.run host deadline w = (some a, w')) :
    ∃ es, Way t es a ∧
      w'.calls.toList.map Made.op = w.calls.toList.map Made.op ++ es.filterMap Event.op? := by
  induction t generalizing w with
  | done b =>
    simp only [run, Prod.mk.injEq, Option.some.injEq] at h
    obtain ⟨rfl, rfl⟩ := h
    exact ⟨[], .done, by simp⟩
  | log e next ih =>
    obtain ⟨es, hway, hcalls⟩ := ih (w := w.report e) h
    exact ⟨_, .log hway, hcalls⟩
  | clock next ih =>
    obtain ⟨es, hway, hcalls⟩ := ih w.clock h
    exact ⟨_, .clock hway, hcalls⟩
  | read path next ih =>
    obtain ⟨es, hway, hcalls⟩ := ih (w.files path) h
    exact ⟨_, .read hway, hcalls⟩
  | pause next ih =>
    rw [run] at h
    split at h
    · simp at h
    · obtain ⟨es, hway, hcalls⟩ := ih h
      exact ⟨_, .pause hway, hcalls⟩
  | wait d next ih =>
    simp only [run] at h
    obtain ⟨t, he⟩ | ⟨t, he⟩ := World.elapse_cases (I := I) (σ := σ) w.waited deadline d
    · rw [he w rfl] at h
      obtain ⟨es, hway, hcalls⟩ := ih h
      exact ⟨_, .wait hway, hcalls⟩
    · simp [he w rfl] at h
  | call op next ih =>
    rw [run_call] at h
    generalize host.answer op w.clock w.state = reply at h
    obtain ⟨t, he⟩ | ⟨t, he⟩ := World.await_cases (I := I) (σ := σ) w.waited deadline reply.delay
    · simp only [he (w.called op reply.state) rfl] at h
      obtain ⟨es, hway, hcalls⟩ := ih reply.answer h
      refine ⟨_, .call hway, ?_⟩
      simpa [World.called, World.record, Event.op?] using hcalls
    · simp [he (w.called op reply.state) rfl] at h

end AwsCredentials.Task
