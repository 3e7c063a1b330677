import AwsCredentials.Proofs.Task.Way

/-!
# The calls that a task makes

What can be seen of a way through a task from outside: its calls with their answers, and its result
(`Task.Makes`).

* `makes_bind_iff`: one task after another makes the calls of each, and `Attempt.makes_bind_iff`:
  what follows an attempt that fails makes none;
* `makes_quiet_iff`: the log has no influence;
* `exists_makes_of_run`: a run makes such calls from the first one on, as far as it comes. So what
  holds of them all holds of every run, one that is cut off included.
-/

namespace AwsCredentials

/-- A call with its answer. -/
structure Answered (I : Interface) where
  op : I.Op
  answer : I.Answer op

namespace Task

variable {I : Interface} {σ α β : Type}

/-- The call of an event, if it is one. -/
def Event.answered? : Event I → Option (Answered I)
  | .call op answer => some ⟨op, answer⟩
  | _ => none

/-- The calls among some events. -/
def answered (es : List (Event I)) : List (Answered I) := es.filterMap Event.answered?

/-- Whether a task can make some calls, answered as they are, and come to a result. -/
def Makes (t : Task I α) (cs : List (Answered I)) (a : α) : Prop :=
  ∃ es, Way t es a ∧ answered es = cs

@[simp] theorem answered_append (es es' : List (Event I)) :
    answered (es ++ es') = answered es ++ answered es' :=
  List.filterMap_append

variable {t : Task I α} {f : α → Task I β} {cs : List (Answered I)} {a : α} {b : β}

theorem makes_done_iff {a b : α} : Makes (.done a : Task I α) cs b ↔ cs = [] ∧ b = a := by
  constructor
  · rintro ⟨es, h, rfl⟩
    obtain ⟨rfl, rfl⟩ := way_done_iff.1 h
    exact ⟨rfl, rfl⟩
  · rintro ⟨rfl, rfl⟩
    exact ⟨[], .done, rfl⟩

theorem makes_bind_iff : Makes (t.bind f) cs b ↔
    ∃ cs₁ a cs₂, Makes t cs₁ a ∧ Makes (f a) cs₂ b ∧ cs = cs₁ ++ cs₂ := by
  constructor
  · rintro ⟨es, h, rfl⟩
    obtain ⟨es₁, a, es₂, h₁, h₂, rfl⟩ := way_bind_iff.1 h
    exact ⟨_, a, _, ⟨es₁, h₁, rfl⟩, ⟨es₂, h₂, rfl⟩, answered_append _ _⟩
  · rintro ⟨_, a, _, ⟨es₁, h₁, rfl⟩, ⟨es₂, h₂, rfl⟩, rfl⟩
    exact ⟨es₁ ++ es₂, h₁.bind h₂, answered_append _ _⟩

theorem makes_map_iff {f : α → β} :
    Makes (t.bind fun a => .done (f a)) cs b ↔ ∃ a, Makes t cs a ∧ b = f a := by
  rw [makes_bind_iff]
  constructor
  · rintro ⟨cs₁, a, cs₂, h₁, h₂, rfl⟩
    obtain ⟨rfl, rfl⟩ := makes_done_iff.1 h₂
    exact ⟨a, by rwa [List.append_nil], rfl⟩
  · rintro ⟨a, h, rfl⟩
    exact ⟨cs, a, [], h, makes_done_iff.2 ⟨rfl, rfl⟩, (List.append_nil cs).symm⟩

theorem makes_log_iff {e : Log.Event} {next : Task I α} :
    Makes (.log e next) cs a ↔ Makes next cs a := by
  constructor
  · rintro ⟨_, h, rfl⟩
    cases h with | log h => exact ⟨_, h, rfl⟩
  · rintro ⟨es, h, rfl⟩; exact ⟨_, .log h, rfl⟩

theorem makes_clock_iff {next : Instant → Task I α} :
    Makes (.clock next) cs a ↔ ∃ t, Makes (next t) cs a := by
  constructor
  · rintro ⟨_, h, rfl⟩
    cases h with | clock h => exact ⟨_, _, h, rfl⟩
  · rintro ⟨t, es, h, rfl⟩; exact ⟨_, .clock h, rfl⟩

theorem makes_wait_iff {d : Duration} {next : Task I α} :
    Makes (.wait d next) cs a ↔ Makes next cs a := by
  constructor
  · rintro ⟨_, h, rfl⟩
    cases h with | wait h => exact ⟨_, h, rfl⟩
  · rintro ⟨es, h, rfl⟩; exact ⟨_, .wait h, rfl⟩

theorem makes_pause_iff {next : Task I α} : Makes (.pause next) cs a ↔ Makes next cs a := by
  constructor
  · rintro ⟨_, h, rfl⟩
    cases h with | pause h => exact ⟨_, h, rfl⟩
  · rintro ⟨es, h, rfl⟩; exact ⟨_, .pause h, rfl⟩

theorem makes_read_iff {path : Path} {next : Except ReadError String → Task I α} :
    Makes (.read path next) cs a ↔ ∃ r, Makes (next r) cs a := by
  constructor
  · rintro ⟨_, h, rfl⟩
    cases h with | read h => exact ⟨_, _, h, rfl⟩
  · rintro ⟨r, es, h, rfl⟩; exact ⟨_, .read h, rfl⟩

theorem makes_call_iff {op : I.Op} {next : I.Answer op → Task I α} :
    Makes (.call op next) cs a ↔ ∃ r cs', Makes (next r) cs' a ∧ cs = ⟨op, r⟩ :: cs' := by
  constructor
  · rintro ⟨_, h, rfl⟩
    cases h with | call h => exact ⟨_, _, ⟨_, h, rfl⟩, rfl⟩
  · rintro ⟨r, _, ⟨es, h, rfl⟩, rfl⟩; exact ⟨_, .call h, rfl⟩

theorem makes_call_done_iff {op : I.Op} {r : I.Answer op} :
    Makes (.call op .done) cs r ↔ cs = [⟨op, r⟩] := by
  rw [makes_call_iff]
  constructor
  · rintro ⟨r, cs', h, rfl⟩
    obtain ⟨rfl, rfl⟩ := makes_done_iff.1 h
    rfl
  · rintro rfl
    exact ⟨r, [], makes_done_iff.2 ⟨rfl, rfl⟩, rfl⟩

theorem makes_quiet_iff : Makes t.quiet cs a ↔ Makes t cs a := by
  induction t generalizing cs with
  | done b => exact Iff.rfl
  | log e next ih => exact ih.trans makes_log_iff.symm
  | clock next ih => simp only [quiet, makes_clock_iff, ih]
  | wait d next ih => simp only [quiet, makes_wait_iff, ih]
  | pause next ih => simp only [quiet, makes_pause_iff, ih]
  | read path next ih => simp only [quiet, makes_read_iff, ih]
  | call op next ih => simp only [quiet, makes_call_iff, ih]

theorem makes_iff_of_quiet {u : Task I α} (h : t.quiet = u.quiet) :
    Makes t cs a ↔ Makes u cs a := by
  rw [← makes_quiet_iff, h, makes_quiet_iff]

theorem makes_iff_of_quiet_done {b : α} (h : t.quiet = .done b) :
    Makes t cs a ↔ cs = [] ∧ a = b := by
  rw [← makes_quiet_iff, h, makes_done_iff]

/-- A task that stays within some calls makes no others. -/
theorem Makes.within {calls : I.Op → Prop} {files : Path → Prop} (h : Makes t cs a)
    (ht : t.Within calls files) : ∀ c ∈ cs, calls c.op := by
  induction t generalizing cs with
  | done b =>
    obtain ⟨rfl, -⟩ := makes_done_iff.1 h
    exact nofun
  | log e next ih => exact ih (makes_log_iff.1 h) ht
  | clock next ih =>
    obtain ⟨t, h⟩ := makes_clock_iff.1 h
    exact ih t h (ht t)
  | wait d next ih => exact ih (makes_wait_iff.1 h) ht
  | pause next ih => exact ih (makes_pause_iff.1 h) ht
  | read path next ih =>
    obtain ⟨r, h⟩ := makes_read_iff.1 h
    exact ih r h (ht.2 r)
  | call op next ih =>
    obtain ⟨r, cs', hnext, rfl⟩ := makes_call_iff.1 h
    exact List.forall_mem_cons.2 ⟨ht.1, ih r hnext (ht.2 r)⟩

theorem Makes.eq_nil (h : Makes t cs a) (ht : t.Within (fun _ => False) fun _ => True) :
    cs = [] :=
  List.eq_nil_iff_forall_not_mem.2 (h.within ht)

/-- What makes no calls leaves all of them to the task before it. -/
theorem Makes.of_bind (h : Makes (t.bind f) cs b)
    (hf : ∀ a, (f a).Within (fun _ => False) fun _ => True) : ∃ a, Makes t cs a := by
  obtain ⟨cs₁, a, cs₂, h₁, h₂, rfl⟩ := makes_bind_iff.1 h
  rw [h₂.eq_nil (hf a), List.append_nil]
  exact ⟨a, h₁⟩

/-! ## Runs -/

/-- Whether a run makes the calls `cs` in their order as far as it comes, and comes to no other
result than `a`, with which it has made them all. -/
def RunsAlong (host : Host I σ) (deadline : Option Nat) (t : Task I α) (w : World I σ)
    (cs : List (Answered I)) (a : α) : Prop :=
  ∃ made : List I.Op,
    (t.run host deadline w).2.calls.toList.map Made.op = w.calls.toList.map Made.op ++ made ∧
    made <+: cs.map Answered.op ∧
    ∀ b, (t.run host deadline w).1 = some b → b = a ∧ made = cs.map Answered.op

/-- Whether the answers are those of a host. -/
def AnsweredBy (host : Host I σ) (cs : List (Answered I)) : Prop :=
  ∀ c ∈ cs, ∃ now state, c.answer = (host.answer c.op now state).answer

/-- A run makes calls that the task can make, and the host answers them. -/
theorem exists_makes_of_run (host : Host I σ) (deadline : Option Nat) (t : Task I α)
    (w : World I σ) :
    ∃ cs a, Makes t cs a ∧ AnsweredBy host cs ∧ RunsAlong host deadline t w cs a := by
  induction t generalizing w with
  | done b =>
    exact ⟨[], b, makes_done_iff.2 ⟨rfl, rfl⟩, List.forall_mem_nil _, [], by simp [run],
      List.prefix_refl _, fun c h => ⟨(Option.some.inj h).symm, rfl⟩⟩
  | log e next ih =>
    obtain ⟨cs, a, h, hby, hrun⟩ := ih (w.report e)
    exact ⟨cs, a, makes_log_iff.2 h, hby, hrun⟩
  | clock next ih =>
    obtain ⟨cs, a, h, hby, hrun⟩ := ih w.clock w
    exact ⟨cs, a, makes_clock_iff.2 ⟨_, h⟩, hby, hrun⟩
  | read path next ih =>
    obtain ⟨cs, a, h, hby, hrun⟩ := ih (w.files path) w
    exact ⟨cs, a, makes_read_iff.2 ⟨_, h⟩, hby, hrun⟩
  | pause next ih =>
    obtain ⟨cs, a, h, hby, hrun⟩ := ih w
    refine ⟨cs, a, makes_pause_iff.2 h, hby, ?_⟩
    rw [RunsAlong, run]
    split
    · exact ⟨[], by simp, List.nil_prefix, by rintro _ ⟨⟩⟩
    · exact hrun
  | wait d next ih =>
    simp only [RunsAlong, run]
    obtain ⟨t, he⟩ | ⟨t, he⟩ := World.elapse_cases (I := I) (σ := σ) w.waited deadline d
    · obtain ⟨cs, a, h, hby, hrun⟩ := ih { w with waited := t }
      rw [he w rfl]
      exact ⟨cs, a, makes_wait_iff.2 h, hby, hrun⟩
    · obtain ⟨cs, a, h, hby, -⟩ := ih w
      rw [he w rfl]
      exact ⟨cs, a, makes_wait_iff.2 h, hby, [], by simp, List.nil_prefix,
        by rintro _ ⟨⟩⟩
  | call op next ih =>
    simp only [RunsAlong, run_call]
    have hanswer : ∃ now state, (host.answer op w.clock w.state).answer =
        (host.answer op now state).answer := ⟨w.clock, w.state, rfl⟩
    generalize host.answer op w.clock w.state = reply at hanswer
    obtain ⟨t, he⟩ | ⟨t, he⟩ := World.await_cases (I := I) (σ := σ) w.waited deadline reply.delay
    · obtain ⟨cs, a, h, hby, made, hmade, hpre, hend⟩ :=
        ih reply.answer { w.called op reply.state with waited := t }
      rw [he (w.called op reply.state) rfl]
      refine ⟨_, a, makes_call_iff.2 ⟨_, cs, h, rfl⟩, List.forall_mem_cons.2 ⟨hanswer, hby⟩,
        op :: made, ?_, List.cons_prefix_cons.2 ⟨rfl, hpre⟩, fun b hb => ?_⟩
      · simpa [World.called, World.record] using hmade
      · exact ⟨(hend b hb).1, congrArg (op :: ·) (hend b hb).2⟩
    · -- what would follow is not reached, but the answer tells how the calls go on
      obtain ⟨cs, a, h, hby, -⟩ := ih reply.answer w
      rw [he (w.called op reply.state) rfl]
      refine ⟨_, a, makes_call_iff.2 ⟨_, cs, h, rfl⟩, List.forall_mem_cons.2 ⟨hanswer, hby⟩,
        [op], ?_, List.cons_prefix_cons.2 ⟨rfl, List.nil_prefix⟩, by rintro _ ⟨⟩⟩
      simp [World.called, World.record]

end Task

/-! ## Attempts -/

namespace Attempt

open AwsCredentials.Task (Makes)

variable {I : Interface} {α β : Type} {x : Attempt I α} {f : α → Attempt I β}
  {cs : List (Answered I)} {r : Except Error β}

/-- What follows an attempt is only done if it succeeds. -/
theorem makes_bind_iff : Makes (x >>= f).run cs r ↔
    (∃ cs₁ a cs₂, Makes x.run cs₁ (.ok a) ∧ Makes (f a).run cs₂ r ∧ cs = cs₁ ++ cs₂) ∨
      ∃ e, Makes x.run cs (.error e) ∧ r = .error e := by
  refine Iff.trans Task.makes_bind_iff ?_
  constructor
  · rintro ⟨cs₁, a | a, cs₂, h₁, h₂, rfl⟩
    · obtain ⟨rfl, rfl⟩ := Task.makes_done_iff.1 h₂
      exact .inr ⟨a, by rwa [List.append_nil], rfl⟩
    · exact .inl ⟨cs₁, a, cs₂, h₁, h₂, rfl⟩
  · rintro (⟨cs₁, a, cs₂, h₁, h₂, rfl⟩ | ⟨e, h, rfl⟩)
    · exact ⟨cs₁, .ok a, cs₂, h₁, h₂, rfl⟩
    · exact ⟨cs, .error e, [], h, Task.makes_done_iff.2 ⟨rfl, rfl⟩, by simp⟩

theorem makes_pure_iff {a : α} {r : Except Error α} :
    Makes (pure a : Attempt I α).run cs r ↔ cs = [] ∧ r = .ok a :=
  Task.makes_done_iff

theorem makes_throw_iff {e : Error} {r : Except Error α} :
    Makes (throw e : Attempt I α).run cs r ↔ cs = [] ∧ r = .error e :=
  Task.makes_done_iff

theorem makes_ofTask_bind_iff {t : Task I α} : Makes (ofTask t >>= f).run cs r ↔
    ∃ cs₁ a cs₂, Makes t cs₁ a ∧ Makes (f a).run cs₂ r ∧ cs = cs₁ ++ cs₂ := by
  have lifted : (ofTask t >>= f).run = t.bind fun a => (f a).run := by
    show (t.bind fun a => Task.done (Except.ok a)).bind _ = _
    rw [Task.bind_assoc]
    rfl
  rw [lifted]
  exact Task.makes_bind_iff

theorem makes_ofExcept_bind_iff {y : Except Error α} : Makes (ofExcept y >>= f).run cs r ↔
    (∃ a, y = .ok a ∧ Makes (f a).run cs r) ∨ ∃ e, y = .error e ∧ cs = [] ∧ r = .error e := by
  refine makes_bind_iff.trans (or_congr ?_ (exists_congr fun e => ?_))
  · constructor
    · rintro ⟨cs₁, a, cs₂, h₁, h₂, rfl⟩
      obtain ⟨rfl, h⟩ := Task.makes_done_iff.1 h₁
      exact ⟨a, h.symm, h₂⟩
    · rintro ⟨a, rfl, h⟩
      exact ⟨[], a, cs, Task.makes_done_iff.2 ⟨rfl, rfl⟩, h, rfl⟩
  · rw [show Makes (ofExcept y : Attempt I α).run cs (.error e) ↔ _ from Task.makes_done_iff]
    exact ⟨fun ⟨⟨hcs, hy⟩, hr⟩ => ⟨hy.symm, hcs, hr⟩, fun ⟨hy, hcs, hr⟩ => ⟨⟨hcs, hy.symm⟩, hr⟩⟩

@[simp] theorem makes_note_bind_iff {e : Log.Event} {f : Unit → Attempt I β} :
    Makes (note e >>= f).run cs r ↔ Makes (f ()).run cs r :=
  Task.makes_log_iff

end Attempt

end AwsCredentials
