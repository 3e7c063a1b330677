import AwsCredentials.Proofs.Task.Run
import Mathlib.Data.List.Forall2

/-!
# Two runs side by side

A `Likeness` says which calls, answers and files are alike. Two tasks are twins if they do the same
step by step as long as what comes in is alike: they report the same events, wait alike, read the
same files and make calls that are alike (`Task.Twin`).

* `Task.Twin.bind` and the rules for attempts build the twins;
* `Task.Twin.run`: in worlds that are twins, twins leave worlds that are twins.
-/

namespace AwsCredentials

/-- What counts as alike. -/
structure Likeness (I : Interface) where
  calls : I.Op → I.Op → Prop
  answers : (op op' : I.Op) → I.Answer op → I.Answer op' → Prop
  /-- The contents of a file. -/
  content : Path → Except ReadError String → Except ReadError String → Prop

theorem isSome_of_rel {α β : Type} {R : α → β → Prop} {a : Option α} {b : Option β}
    (h : Option.Rel R a b) : b.isSome = a.isSome := by
  cases h <;> rfl

/-- Two results that are the same error or else values that are related. -/
inductive SameEnd {ε α β : Type} (R : α → β → Prop) : Except ε α → Except ε β → Prop
  | error (e : ε) : SameEnd R (.error e) (.error e)
  | ok {a : α} {b : β} : R a b → SameEnd R (.ok a) (.ok b)

namespace SameEnd

variable {ε α β γ δ : Type} {R : α → β → Prop} {Q : γ → δ → Prop} {x : Except ε α} {y : Except ε β}

theorem bind {f : α → Except ε γ} {g : β → Except ε δ} (h : SameEnd R x y)
    (hf : ∀ a b, R a b → SameEnd Q (f a) (g b)) : SameEnd Q (x >>= f) (y >>= g) := by
  cases h with
  | error e => exact .error e
  | ok hab => exact hf _ _ hab

theorem isOk_eq (h : SameEnd R x y) : y.isOk = x.isOk := by
  cases h <;> rfl

theorem refl {R : α → α → Prop} (x : Except ε α) (h : ∀ a, x = .ok a → R a a) : SameEnd R x x := by
  cases x with
  | error e => exact .error e
  | ok a => exact .ok (h a rfl)

/-- What does not depend on what differs. -/
theorem same (x : Except ε α) : SameEnd Eq x x := refl x fun _ _ => rfl

end SameEnd

namespace Task

variable {I : Interface} {L : Likeness I} {α β γ δ : Type} {R : α → β → Prop} {Q : γ → δ → Prop}

/-- Two tasks that do the same as long as what comes in is alike, with results that are related. -/
inductive Twin (L : Likeness I) (R : α → β → Prop) : Task I α → Task I β → Prop
  | done {a : α} {b : β} : R a b → Twin L R (.done a) (.done b)
  | log (event : Log.Event) {next : Task I α} {next' : Task I β} :
    Twin L R next next' → Twin L R (.log event next) (.log event next')
  | clock {next : Instant → Task I α} {next' : Instant → Task I β} :
    (∀ t, Twin L R (next t) (next' t)) → Twin L R (.clock next) (.clock next')
  | wait (d : Duration) {next : Task I α} {next' : Task I β} :
    Twin L R next next' → Twin L R (.wait d next) (.wait d next')
  | pause {next : Task I α} {next' : Task I β} :
    Twin L R next next' → Twin L R (.pause next) (.pause next')
  | read (path : Path) {next : Except ReadError String → Task I α}
      {next' : Except ReadError String → Task I β} :
    (∀ r r', L.content path r r' → Twin L R (next r) (next' r')) →
      Twin L R (.read path next) (.read path next')
  | call {op op' : I.Op} {next : I.Answer op → Task I α} {next' : I.Answer op' → Task I β} :
    L.calls op op' → (∀ r r', L.answers op op' r r' → Twin L R (next r) (next' r')) →
      Twin L R (.call op next) (.call op' next')

theorem Twin.bind {t : Task I α} {t' : Task I β} {f : α → Task I γ} {f' : β → Task I δ}
    (h : Twin L R t t') (hf : ∀ a b, R a b → Twin L Q (f a) (f' b)) :
    Twin L Q (t.bind f) (t'.bind f') := by
  induction h with
  | done hab => exact hf _ _ hab
  | log event _ ih => exact .log event ih
  | clock _ ih => exact .clock ih
  | wait d _ ih => exact .wait d ih
  | pause _ ih => exact .pause ih
  | read path _ ih => exact .read path ih
  | call hcalls _ ih => exact .call hcalls ih

/-- Both report an event and go on. -/
theorem Twin.noted {event : Log.Event} {f : Unit → Task I α} {f' : Unit → Task I β}
    (h : Twin L R (f ()) (f' ())) : Twin L R (note event >>= f) (note event >>= f') :=
  .log event h

/-- Both ask for the time and go on. -/
theorem twin_now {f : Instant → Task I α} {f' : Instant → Task I β}
    (h : ∀ t, Twin L R (f t) (f' t)) : Twin L R (now >>= f) (now >>= f') :=
  .clock h

/-- Events that do not depend on what differs are reported by both. -/
theorem twin_forM_note (event? : Option Log.Event) :
    Twin L (fun _ _ => True) (event?.forM Task.note : Task I PUnit) (event?.forM Task.note) := by
  cases event? with
  | none => exact .done trivial
  | some event => exact .log event (.done trivial)

end Task

/-! ## Attempts -/

namespace Attempt

variable {I : Interface} {L : Likeness I} {α β γ δ : Type} {R : α → β → Prop} {Q : γ → δ → Prop}

/-- Two attempts that do the same as long as what comes in is alike, and that fail alike. -/
def Twin (L : Likeness I) (R : α → β → Prop) (x : Attempt I α) (x' : Attempt I β) : Prop :=
  Task.Twin L (SameEnd R) x.run x'.run

theorem Twin.bind {x : Attempt I α} {x' : Attempt I β} {f : α → Attempt I γ} {f' : β → Attempt I δ}
    (h : Twin L R x x') (hf : ∀ a b, R a b → Twin L Q (f a) (f' b)) :
    Twin L Q (x >>= f) (x' >>= f') := by
  refine Task.Twin.bind h fun r r' hr => ?_
  cases hr with
  | error e => exact .done (.error e)
  | ok hab => exact hf _ _ hab

theorem twin_pure {a : α} {b : β} (h : R a b) : Twin L R (pure a) (pure b) :=
  .done (.ok h)

theorem twin_throw (e : Error) : Twin L R (throw e) (throw e) :=
  .done (.error e)

theorem twin_ofExcept {x : Except Error α} {y : Except Error β} (h : SameEnd R x y) :
    Twin L R (ofExcept x) (ofExcept y) :=
  .done h

theorem twin_ofTask {t : Task I α} {t' : Task I β} (h : Task.Twin L R t t') :
    Twin L R (ofTask t) (ofTask t') :=
  Task.Twin.bind h fun _ _ hab => .done (.ok hab)

theorem twin_note (event : Log.Event) :
    Twin L (fun _ _ => True) (note event : Attempt I Unit) (note event) :=
  .log event (.done (.ok trivial))

/-- Both report an event and go on. -/
theorem Twin.noted {event : Log.Event} {f : Unit → Attempt I α} {f' : Unit → Attempt I β}
    (h : Twin L R (f ()) (f' ())) : Twin L R (note event >>= f) (note event >>= f') :=
  (twin_note event).bind fun _ _ _ => h

/-- Both ask for the time and go on. -/
theorem twin_now {f : Instant → Attempt I α} {f' : Instant → Attempt I β}
    (h : ∀ t, Twin L R (f t) (f' t)) : Twin L R (ofTask Task.now >>= f) (ofTask Task.now >>= f') :=
  .clock h

/-- Both give way and go on. -/
theorem Twin.yielded {f : Unit → Attempt I α} {f' : Unit → Attempt I β}
    (h : Twin L R (f ()) (f' ())) :
    Twin L R (ofTask Task.yield >>= f) (ofTask Task.yield >>= f') :=
  .pause h

/-- Both read a file and go on. -/
theorem twin_readFile {path : Path} {f : Except ReadError String → Attempt I α}
    {f' : Except ReadError String → Attempt I β}
    (h : ∀ r r', L.content path r r' → Twin L R (f r) (f' r')) :
    Twin L R (ofTask (Task.readFile path) >>= f) (ofTask (Task.readFile path) >>= f') :=
  .read path h

/-- What each step of a fold keeps related stays related. -/
theorem twin_foldlM {R : β → γ → Prop} {f : β → α → Attempt I β} {f' : γ → α → Attempt I γ}
    {as : List α} (hf : ∀ a ∈ as, ∀ b c, R b c → Twin L R (f b a) (f' c a)) {b : β} {c : γ}
    (h : R b c) : Twin L R (as.foldlM f b) (as.foldlM f' c) := by
  induction as generalizing b c with
  | nil => exact twin_pure h
  | cons a rest ih =>
    obtain ⟨hfirst, hrest⟩ := List.forall_mem_cons.1 hf
    rw [List.foldlM_cons, List.foldlM_cons]
    exact (hfirst b c h).bind fun _ _ h => ih hrest h

end Attempt

/-! ## Runs -/

variable {I : Interface} {L : Likeness I} {σ α β : Type} {S : σ → σ → Prop} {R : α → β → Prop}

/-- Two hosts that answer alike what is alike, and at the same time, as long as their states are
related. -/
def Host.Twin (L : Likeness I) (S : σ → σ → Prop) (host host' : Host I σ) : Prop :=
  ∀ op op' now s s', L.calls op op' → S s s' →
    L.answers op op' (host.answer op now s).answer (host'.answer op' now s').answer ∧
      (host'.answer op' now s').delay = (host.answer op now s).delay ∧
      S (host.answer op now s).state (host'.answer op' now s').state

/-- Two worlds with the same clock and the same log, in which alike calls were made at the same times
and the files are alike. -/
structure World.Twin (L : Likeness I) (S : σ → σ → Prop) (w w' : World I σ) : Prop where
  state : S w.state w'.state
  clock : w'.clock = w.clock
  files : ∀ path, L.content path (w.files path) (w'.files path)
  waited : w'.waited = w.waited
  events : w'.events = w.events
  calls : List.Forall₂ (fun made made' => L.calls made.op made'.op ∧ made'.time = made.time)
    w.calls.toList w'.calls.toList

namespace World.Twin

variable {w w' : World I σ}

theorem report (h : Twin L S w w') (event : Log.Event) : Twin L S (w.report event) (w'.report event) :=
  { h with events := by simp [World.report, h.events] }

theorem move (h : Twin L S w w') (t : Nat) :
    Twin L S { w with waited := t } { w' with waited := t } :=
  { h with waited := rfl }

theorem called (h : Twin L S w w') {op op' : I.Op} {s s' : σ} (hop : L.calls op op') (hs : S s s') :
    Twin L S (w.called op s) (w'.called op' s') := by
  refine { h with state := hs, calls := ?_ }
  simp only [World.called, World.record, Array.toList_push]
  exact List.rel_append h.calls (.cons ⟨hop, h.waited⟩ .nil)

theorem late (h : Twin L S w w') (deadline : Option Nat) : w'.late deadline = w.late deadline := by
  simp [World.late, h.waited]

end World.Twin

/-- Twins do the same in worlds that are twins, whether they are cut off or not. -/
theorem Task.Twin.run {host host' : Host I σ} (hhost : Host.Twin L S host host')
    (deadline : Option Nat) {t : Task I α} {t' : Task I β} (h : Twin L R t t') {w w' : World I σ}
    (hw : World.Twin L S w w') :
    Option.Rel R (t.run host deadline w).1 (t'.run host' deadline w').1 ∧
      World.Twin L S (t.run host deadline w).2 (t'.run host' deadline w').2 := by
  induction h generalizing w w' with
  | done hab => exact ⟨.some hab, hw⟩
  | log event _ ih => exact ih (hw.report event)
  | @clock next next' _ ih =>
    simp only [Task.run, hw.clock]
    exact ih w.clock hw
  | read path _ ih => exact ih _ _ (hw.files path) hw
  | pause _ ih =>
    simp only [Task.run, hw.late deadline]
    split
    · exact ⟨.none, hw⟩
    · exact ih hw
  | wait d _ ih =>
    simp only [Task.run]
    obtain ⟨t, he⟩ | ⟨t, he⟩ := World.elapse_cases (I := I) (σ := σ) w.waited deadline d
    · rw [he w rfl, he w' hw.waited]
      exact ih (hw.move t)
    · rw [he w rfl, he w' hw.waited]
      exact ⟨.none, hw.move t⟩
  | @call op op' next next' hop _ ih =>
    simp only [run_call, hw.clock]
    obtain ⟨hanswer, hdelay, hstate⟩ := hhost op op' w.clock w.state w'.state hop hw.state
    rw [hdelay]
    have hcalled := hw.called hop hstate
    obtain ⟨t, he⟩ | ⟨t, he⟩ := World.await_cases (I := I) (σ := σ) w.waited deadline
      (host.answer op w.clock w.state).delay
    · rw [he (w.called op _) rfl, he (w'.called op' _) hw.waited]
      exact ih _ _ hanswer (hcalled.move t)
    · rw [he (w.called op _) rfl, he (w'.called op' _) hw.waited]
      exact ⟨.none, hcalled.move t⟩

end AwsCredentials
