import AwsCredentials.Task

/-!
# Carrying tasks out

What a task does in a world, without its log, and what it does not depend on.

* `quiet`: the task without its reports. `run_quiet`: it does the same but for the log, so two
  tasks with the same `quiet` can be told apart by nothing but their logs
  (`outcome_eq_of_quiet`);
* `Within`: the calls and the files that a task may come to, whatever it is answered.
  `calls_of_within`: no run makes another call; `run_congr`: what other calls would be answered and
  what other files hold has no influence.
-/

namespace AwsCredentials

namespace World

variable {I : Interface} {σ : Type}

/-- The world with an empty log. -/
def mute (w : World I σ) : World I σ := { w with events := #[] }

/-- Whether two worlds differ at most in their logs and in files that do not count. -/
structure Agree (files : Path → Prop) (w w' : World I σ) : Prop where
  state : w'.state = w.state
  clock : w'.clock = w.clock
  waited : w'.waited = w.waited
  calls : w'.calls = w.calls
  content : ∀ path, files path → w'.files path = w.files path

/-- The world after a call, while its answer is waited for. -/
def called (w : World I σ) (op : I.Op) (state : σ) : World I σ := { w.record op with state }

/-- The world after an answer came, or else the world at the deadline. -/
def await (w : World I σ) (deadline : Option Nat) (delay : Option Duration) :
    Except (World I σ) (World I σ) :=
  match delay with
  | none => .error (w.expire deadline)
  | some d => w.elapse deadline d

/-- A wait does nothing but let time pass, and how much depends on the time alone. -/
theorem elapse_cases (n : Nat) (deadline : Option Nat) (d : Duration) :
    (∃ t, ∀ w : World I σ, w.waited = n → w.elapse deadline d = .ok { w with waited := t }) ∨
      ∃ t, ∀ w : World I σ, w.waited = n → w.elapse deadline d = .error { w with waited := t } := by
  by_cases hd : d = Duration.zero
  · exact .inl ⟨n, by rintro w rfl; simp [elapse, hd]⟩
  cases deadline with
  | none => exact .inl ⟨n + millisOf d, by rintro w rfl; simp [elapse, hd, late]⟩
  | some t =>
    by_cases hl : t ≤ n
    · exact .inr ⟨n, by rintro w rfl; simp [elapse, hd, late, hl]⟩
    by_cases ht : t < n + millisOf d
    · exact .inr ⟨t, by rintro w rfl; simp [elapse, hd, late, hl, ht]⟩
    · exact .inl ⟨n + millisOf d, by rintro w rfl; simp [elapse, hd, late, hl, ht]⟩

theorem await_cases (n : Nat) (deadline : Option Nat) (delay : Option Duration) :
    (∃ t, ∀ w : World I σ, w.waited = n → w.await deadline delay = .ok { w with waited := t }) ∨
      ∃ t, ∀ w : World I σ, w.waited = n → w.await deadline delay = .error { w with waited := t } := by
  cases delay with
  | some d => exact elapse_cases n deadline d
  | none =>
    cases deadline with
    | none => exact .inr ⟨n, by rintro w rfl; rfl⟩
    | some t => exact .inr ⟨max n t, by rintro w rfl; rfl⟩

variable {files : Path → Prop} {w w' : World I σ}

theorem Agree.late (h : Agree files w w') (deadline : Option Nat) :
    w'.late deadline = w.late deadline := by
  simp [World.late, h.waited]

theorem Agree.move (h : Agree files w w') (t : Nat) :
    Agree files { w with waited := t } { w' with waited := t } :=
  ⟨h.state, h.clock, rfl, h.calls, h.content⟩

theorem Agree.called (h : Agree files w w') (op : I.Op) (s : σ) :
    Agree files (w.called op s) (w'.called op s) :=
  ⟨rfl, h.clock, h.waited, by simp [World.called, World.record, h.calls, h.waited], h.content⟩

end World

namespace Task

variable {I : Interface} {σ α β : Type}

theorem run_call (host : Host I σ) (deadline : Option Nat) (op : I.Op)
    (next : I.Answer op → Task I α) (w : World I σ) :
    (call op next).run host deadline w =
      let reply := host.answer op w.clock w.state
      match (w.called op reply.state).await deadline reply.delay with
      | .ok v => (next reply.answer).run host deadline v
      | .error v => (none, v) := by
  simp only [run, World.await, World.called]
  cases (host.answer op w.clock w.state).delay <;> rfl

/-- One task after another is carried out so, the second one from where the first one left off. -/
theorem run_bind (host : Host I σ) (deadline : Option Nat) (t : Task I α) (f : α → Task I β)
    (w : World I σ) : (t.bind f).run host deadline w =
      match t.run host deadline w with
      | (some a, v) => (f a).run host deadline v
      | (none, v) => (none, v) := by
  induction t generalizing w with
  | done a => rfl
  | log e next ih => exact ih (w.report e)
  | clock next ih => exact ih w.clock w
  | read path next ih => exact ih (w.files path) w
  | pause next ih =>
    simp only [bind, run]
    split
    · rfl
    · exact ih w
  | wait d next ih =>
    simp only [bind, run]
    split
    · exact ih _
    · rfl
  | call op next ih =>
    simp only [bind, run_call]
    split
    · exact ih _ _
    · rfl

/-! ## Without the log -/

/-- The task without its reports. -/
def quiet : Task I α → Task I α
  | done a => done a
  | log _ next => next.quiet
  | clock next => clock fun t => (next t).quiet
  | wait d next => wait d next.quiet
  | pause next => pause next.quiet
  | read path next => read path fun r => (next r).quiet
  | call op next => call op fun r => (next r).quiet

theorem quiet_bind (t : Task I α) (f : α → Task I β) :
    (t.bind f).quiet = t.quiet.bind fun a => (f a).quiet := by
  induction t with
  | done a => rfl
  | log e next ih => exact ih
  | clock next ih => simp only [bind, quiet, ih]
  | wait d next ih => simp only [bind, quiet, ih]
  | pause next ih => simp only [bind, quiet, ih]
  | read path next ih => simp only [bind, quiet, ih]
  | call op next ih => simp only [bind, quiet, ih]

/-- The result of a task and the world that it leaves, without the log. -/
def outcome (host : Host I σ) (deadline : Option Nat) (t : Task I α) (w : World I σ) :
    Option α × World I σ :=
  ((t.run host deadline w).1, (t.run host deadline w).2.mute)

theorem run_quiet (host : Host I σ) (deadline : Option Nat) (t : Task I α) (w : World I σ) :
    t.quiet.run host deadline w.mute = t.outcome host deadline w := by
  unfold outcome
  induction t generalizing w with
  | done a => rfl
  | log e next ih => exact ih (w.report e)
  | clock next ih => exact ih w.clock w
  | read path next ih => exact ih (w.files path) w
  | pause next ih =>
    simp only [quiet, run, show w.mute.late deadline = w.late deadline from rfl]
    split
    · rfl
    · exact ih w
  | wait d next ih =>
    simp only [quiet, run]
    obtain ⟨t, h⟩ | ⟨t, h⟩ := World.elapse_cases (I := I) (σ := σ) w.waited deadline d
    · rw [h w rfl, h w.mute rfl]; exact ih { w with waited := t }
    · rw [h w rfl, h w.mute rfl]; rfl
  | call op next ih =>
    simp only [quiet, run_call]
    generalize hr : host.answer op w.clock w.state = reply
    rw [show host.answer op w.mute.clock w.mute.state = reply from hr]
    obtain ⟨t, h⟩ | ⟨t, h⟩ := World.await_cases (I := I) (σ := σ) w.waited deadline reply.delay
    · rw [h (w.called op reply.state) rfl, h (w.mute.called op reply.state) rfl]
      exact ih _ { w.called op reply.state with waited := t }
    · rw [h (w.called op reply.state) rfl, h (w.mute.called op reply.state) rfl]
      rfl

theorem outcome_eq_of_quiet {t u : Task I α} (h : t.quiet = u.quiet) (host : Host I σ)
    (deadline : Option Nat) (w : World I σ) :
    t.outcome host deadline w = u.outcome host deadline w := by
  rw [← run_quiet, h, run_quiet]

theorem outcome_map (host : Host I σ) (deadline : Option Nat) (t : Task I α) (f : α → β)
    (w : World I σ) : (t.bind fun a => done (f a)).outcome host deadline w =
      ((t.outcome host deadline w).1.map f, (t.outcome host deadline w).2) := by
  unfold outcome
  induction t generalizing w with
  | done a => rfl
  | log e next ih => exact ih (w.report e)
  | clock next ih => exact ih w.clock w
  | read path next ih => exact ih (w.files path) w
  | pause next ih =>
    simp only [bind, run]
    split
    · rfl
    · exact ih w
  | wait d next ih =>
    simp only [bind, run]
    split
    · exact ih _
    · rfl
  | call op next ih =>
    simp only [bind, run_call]
    split
    · exact ih _ _
    · rfl

/-! ## Results -/

/-- Whether all results of a task are of some kind, whatever it is answered. -/
def Gives (P : α → Prop) : Task I α → Prop
  | done a => P a
  | log _ next => next.Gives P
  | clock next => ∀ t, (next t).Gives P
  | wait _ next => next.Gives P
  | pause next => next.Gives P
  | read _ next => ∀ r, (next r).Gives P
  | call _ next => ∀ r, (next r).Gives P

theorem gives_trivial (t : Task I α) : t.Gives fun _ => True := by
  induction t with
  | done a => trivial
  | log e next ih => exact ih
  | clock next ih => exact ih
  | wait d next ih => exact ih
  | pause next ih => exact ih
  | read path next ih => exact ih
  | call op next ih => exact ih

theorem Gives.bind {P : α → Prop} {Q : β → Prop} {t : Task I α} {f : α → Task I β}
    (ht : t.Gives P) (hf : ∀ a, P a → (f a).Gives Q) : (t.bind f).Gives Q := by
  induction t with
  | done a => exact hf a ht
  | log e next ih => exact ih ht
  | clock next ih => exact fun t => ih t (ht t)
  | wait d next ih => exact ih ht
  | pause next ih => exact ih ht
  | read path next ih => exact fun r => ih r (ht r)
  | call op next ih => exact fun r => ih r (ht r)

theorem gives_quiet_iff {P : α → Prop} {t : Task I α} : t.quiet.Gives P ↔ t.Gives P := by
  induction t with
  | done a => exact Iff.rfl
  | log e next ih => exact ih
  | clock next ih => exact forall_congr' fun t => ih t
  | wait d next ih => exact ih
  | pause next ih => exact ih
  | read path next ih => exact forall_congr' fun r => ih r
  | call op next ih => exact forall_congr' fun r => ih r

theorem Gives.bind_congr {P : α → Prop} {t : Task I α} (ht : t.Gives P) {f g : α → Task I β}
    (h : ∀ a, P a → f a = g a) : t.bind f = t.bind g := by
  induction t with
  | done a => exact h a ht
  | log e next ih => exact congrArg (log e) (ih ht)
  | clock next ih => exact congrArg clock (funext fun t => ih t (ht t))
  | wait d next ih => exact congrArg (wait d) (ih ht)
  | pause next ih => exact congrArg pause (ih ht)
  | read path next ih => exact congrArg (read path) (funext fun r => ih r (ht r))
  | call op next ih => exact congrArg (call op) (funext fun r => ih r (ht r))

/-! ## Within some calls and files -/

/-- Whether a task only ever makes calls of some kind and reads files of some kind, whatever it is
answered. -/
def Within (calls : I.Op → Prop) (files : Path → Prop) : Task I α → Prop
  | done _ => True
  | log _ next => next.Within calls files
  | clock next => ∀ t, (next t).Within calls files
  | wait _ next => next.Within calls files
  | pause next => next.Within calls files
  | read path next => files path ∧ ∀ r, (next r).Within calls files
  | call op next => calls op ∧ ∀ r, (next r).Within calls files

variable {calls : I.Op → Prop} {files : Path → Prop}

theorem Within.bind {t : Task I α} {f : α → Task I β} (ht : t.Within calls files)
    (hf : ∀ a, (f a).Within calls files) : (t.bind f).Within calls files := by
  induction t with
  | done a => exact hf a
  | log e next ih => exact ih ht
  | clock next ih => exact fun t => ih t (ht t)
  | wait d next ih => exact ih ht
  | pause next ih => exact ih ht
  | read path next ih => exact ⟨ht.1, fun r => ih r (ht.2 r)⟩
  | call op next ih => exact ⟨ht.1, fun r => ih r (ht.2 r)⟩

theorem Within.of_bind {t : Task I α} {f : α → Task I β} (h : (t.bind f).Within calls files) :
    t.Within calls files := by
  induction t with
  | done a => trivial
  | log e next ih => exact ih h
  | clock next ih => exact fun t => ih t (h t)
  | wait d next ih => exact ih h
  | pause next ih => exact ih h
  | read path next ih => exact ⟨h.1, fun r => ih r (h.2 r)⟩
  | call op next ih => exact ⟨h.1, fun r => ih r (h.2 r)⟩

theorem within_quiet_iff {t : Task I α} : t.quiet.Within calls files ↔ t.Within calls files := by
  induction t with
  | done a => exact Iff.rfl
  | log e next ih => exact ih
  | clock next ih => exact forall_congr' fun t => ih t
  | wait d next ih => exact ih
  | pause next ih => exact ih
  | read path next ih => exact and_congr_right' (forall_congr' fun r => ih r)
  | call op next ih => exact and_congr_right' (forall_congr' fun r => ih r)

/-- All calls that a run makes are of the kind that the task stays within. -/
theorem calls_of_within (host : Host I σ) (deadline : Option Nat) {t : Task I α}
    (ht : t.Within calls files) (w : World I σ) :
    ∃ made : List (Made I), (t.run host deadline w).2.calls.toList = w.calls.toList ++ made ∧
      ∀ m ∈ made, calls m.op := by
  induction t generalizing w with
  | done a => exact ⟨[], by simp [run]⟩
  | log e next ih => exact ih ht (w.report e)
  | clock next ih => exact ih w.clock (ht _) w
  | read path next ih => exact ih (w.files path) (ht.2 _) w
  | pause next ih =>
    rw [run]
    split
    · exact ⟨[], by simp⟩
    · exact ih ht w
  | wait d next ih =>
    simp only [run]
    obtain ⟨t, h⟩ | ⟨t, h⟩ := World.elapse_cases (I := I) (σ := σ) w.waited deadline d
    · rw [h w rfl]; exact ih ht { w with waited := t }
    · rw [h w rfl]; exact ⟨[], by simp⟩
  | call op next ih =>
    rw [run_call]
    generalize host.answer op w.clock w.state = reply
    obtain ⟨t, h⟩ | ⟨t, h⟩ := World.await_cases (I := I) (σ := σ) w.waited deadline reply.delay
    · obtain ⟨made, hmade, hall⟩ :=
        ih reply.answer (ht.2 _) { w.called op reply.state with waited := t }
      refine ⟨⟨op, w.waited⟩ :: made, ?_, List.forall_mem_cons.2 ⟨ht.1, hall⟩⟩
      simp only [h (w.called op reply.state) rfl, hmade]
      simp [World.called, World.record]
    · refine ⟨[⟨op, w.waited⟩], ?_, by simp [ht.1]⟩
      simp only [h (w.called op reply.state) rfl]
      simp [World.called, World.record]

/-- Hosts that answer the calls alike that a task stays within, and files that are alike where it
reads them, lead to the same result by the same calls. -/
theorem run_congr {host host' : Host I σ} {deadline : Option Nat} {t : Task I α}
    (ht : t.Within calls files) (hhost : ∀ op, calls op → host'.answer op = host.answer op)
    {w w' : World I σ} (h : w.Agree files w') :
    (t.run host' deadline w').1 = (t.run host deadline w).1 ∧
      (t.run host deadline w).2.Agree files (t.run host' deadline w').2 := by
  induction t generalizing w w' with
  | done a => exact ⟨rfl, h⟩
  | log e next ih => exact ih ht ⟨h.state, h.clock, h.waited, h.calls, h.content⟩
  | clock next ih => simp only [run, h.clock]; exact ih _ (ht _) h
  | read path next ih => simp only [run, h.content path ht.1]; exact ih _ (ht.2 _) h
  | pause next ih =>
    simp only [run, h.late]
    split
    · exact ⟨rfl, h⟩
    · exact ih ht h
  | wait d next ih =>
    simp only [run]
    obtain ⟨t, he⟩ | ⟨t, he⟩ := World.elapse_cases (I := I) (σ := σ) w.waited deadline d
    · simp only [he w rfl, he w' h.waited]; exact ih ht (h.move t)
    · simp only [he w rfl, he w' h.waited]; exact ⟨trivial, h.move t⟩
  | call op next ih =>
    simp only [run_call, hhost op ht.1, h.clock, h.state]
    generalize host.answer op w.clock w.state = reply
    have hw := h.called op reply.state
    obtain ⟨t, he⟩ | ⟨t, he⟩ := World.await_cases (I := I) (σ := σ) w.waited deadline reply.delay
    · rw [he (w.called op reply.state) rfl, he (w'.called op reply.state) hw.waited]
      exact ih _ (ht.2 _) (hw.move t)
    · rw [he (w.called op reply.state) rfl, he (w'.called op reply.state) hw.waited]
      exact ⟨rfl, hw.move t⟩

end Task

/-! ## Attempts -/

namespace Attempt

variable {I : Interface} {α β γ : Type} {calls : I.Op → Prop} {files : Path → Prop}

/-- What follows a result: nothing follows an error. -/
def after (f : α → Task I (Except Error β)) : Except Error α → Task I (Except Error β)
  | .ok a => f a
  | .error e => .done (.error e)

@[simp] theorem after_ok (f : α → Task I (Except Error β)) (a : α) : after f (.ok a) = f a := rfl

theorem bind_after_assoc (t : Task I (Except Error α)) (f : α → Task I (Except Error β))
    (g : β → Task I (Except Error γ)) :
    (t.bind (after f)).bind (after g) = t.bind (after fun a => (f a).bind (after g)) := by
  rw [Task.bind_assoc]
  congr 1
  funext r
  cases r <;> rfl

theorem bind_after_done (t : Task I (Except Error α)) :
    t.bind (after fun a => .done (.ok a)) = t := by
  have : (after fun a => .done (.ok a)) = (Task.done : Except Error α → Task I _) := by
    funext r; cases r <;> rfl
  rw [this, Task.bind_done]

@[simp] theorem quiet_bind (x : Attempt I α) (f : α → Attempt I β) :
    (x >>= f).run.quiet = x.run.quiet.bind (after fun a => (f a).run.quiet) := by
  show (x.run.bind _).quiet = _
  rw [Task.quiet_bind]
  congr 1
  funext r
  cases r <;> rfl

@[simp] theorem quiet_pure (a : α) : (pure a : Attempt I α).run.quiet = .done (.ok a) := rfl

@[simp] theorem quiet_ofExcept (r : Except Error α) :
    (ofExcept r : Attempt I α).run.quiet = .done r := rfl

@[simp] theorem quiet_note (e : Log.Event) : (note e : Attempt I Unit).run.quiet = .done (.ok ()) :=
  rfl

@[simp] theorem quiet_ofTask (t : Task I α) :
    (ofTask t : Attempt I α).run.quiet = t.quiet.bind fun a => .done (.ok a) :=
  Task.quiet_bind t _

theorem gives_bind {P : Except Error α → Prop} {Q : Except Error β → Prop} {x : Attempt I α}
    {f : α → Attempt I β} (hx : x.run.Gives P) (he : ∀ e, Q (.error e))
    (hf : ∀ a, P (.ok a) → (f a).run.Gives Q) : (x >>= f).run.Gives Q :=
  Task.Gives.bind hx fun r hr => by
    cases r with
    | ok a => exact hf a hr
    | error e => exact he e

theorem within_bind {x : Attempt I α} {f : α → Attempt I β} (hx : x.run.Within calls files)
    (hf : ∀ a, (f a).run.Within calls files) : (x >>= f).run.Within calls files :=
  Task.Within.bind hx fun r => by
    cases r with
    | ok a => exact hf a
    | error e => trivial

theorem within_ofTask {t : Task I α} (ht : t.Within calls files) :
    (ofTask t).run.Within calls files :=
  Task.Within.bind ht fun _ => trivial

theorem within_ofExcept (r : Except Error α) : (ofExcept r : Attempt I α).run.Within calls files :=
  trivial

theorem within_note (e : Log.Event) : (note e : Attempt I Unit).run.Within calls files := trivial

end Attempt

end AwsCredentials
