import AwsCredentials.Proofs.Retry.Budget
import AwsCredentials.Proofs.Task.Calls

/-!
# One request, made again

A call that is made again is one and the same request each time. `Tried` says what can be seen of
it: every answer but the last one is an error, and the last one is the result (`makes_perform`). Told
by the outcomes, the calls are those up to the last one (`makes_perform_iff`).
-/

namespace AwsCredentials

open AwsCredentials.Task (Event Makes Way answered)

variable {I : Interface} {α : Type} {call : Task I (Except ApiError α)}
  {one : Except ApiError α → Answered I} {cs : List (Answered I)} {r : Except ApiError α}

/-- Whether some calls are a request that is made until it is answered with `r`, after errors only.
`one` is the call with its answer. -/
def Tried (one : Except ApiError α → Answered I) (cs : List (Answered I)) (r : Except ApiError α) :
    Prop :=
  ∃ earlier : List (Except ApiError α),
    (∀ r ∈ earlier, ∃ e, r = .error e) ∧ cs = earlier.map one ++ [one r]

theorem Tried.forall_mem {P : Answered I → Prop} (h : Tried one cs r) (hone : ∀ r, P (one r)) :
    ∀ c ∈ cs, P c := by
  obtain ⟨earlier, -, rfl⟩ := h
  refine List.forall_mem_append.2 ⟨List.forall_mem_map.2 fun r _ => hone r, ?_⟩
  exact List.forall_mem_singleton.2 (hone r)

theorem Tried.ne_nil (h : Tried one cs r) : cs ≠ [] := by
  obtain ⟨earlier, -, rfl⟩ := h
  simp

theorem Tried.getLast? (h : Tried one cs r) : cs.getLast? = some (one r) := by
  obtain ⟨earlier, -, rfl⟩ := h
  simp

namespace RetryPolicy

variable {p : RetryPolicy}

theorem answered_between (k : Nat) (r : Except ApiError α) :
    answered (p.between k r : List (Event I)) = [] := by
  cases r <;> rfl

theorem answered_ending (n : Nat) (r : Except ApiError α) :
    answered (ending n r : List (Event I)) = [] :=
  filterMap_ending (fun _ => rfl) n r

/-- Of the way through all attempts nothing can be seen but the calls. -/
theorem answered_story {o : Nat → Except ApiError α} {ts : Nat → List (Event I)} {n : Nat}
    (hn : 0 < n) (hts : ∀ k, 0 < k → k ≤ n → answered (ts k) = [one (o k)]) :
    answered (p.story 0 o ts n) = ((List.range' 1 (n - 1)).map o).map one ++ [one (o n)] := by
  have hcall (k : Nat) (hpos : 0 < k) (hlt : k < n) :
      answered (ts k ++ p.between k (o k)) = [one (o k)] := by
    rw [Task.answered_append, answered_between, hts k hpos (Nat.le_of_lt hlt), List.append_nil]
  have hlast : answered (ts n ++ ending n (o n)) = [one (o n)] := by
    rw [Task.answered_append, answered_ending, hts n hn (Nat.le_refl n), List.append_nil]
  rw [answered, filterMap_story hcall hlast, List.map_map, List.map_eq_flatMap]
  rfl

/-- A request is made again after errors only, and its last answer is the result. -/
theorem makes_execute {a : Attempted α} (hcall : ∀ cs r, Makes call cs r → cs = [one r])
    (h : Makes (p.execute call) cs a) : Tried one cs a.result := by
  obtain ⟨es, hway, rfl⟩ := h
  obtain ⟨o, ts, n, hts, hlast, rfl, rfl⟩ := way_execute_iff.1 hway
  refine ⟨(List.range' 1 (n - 1)).map o, ?_, ?_⟩
  · refine List.forall_mem_map.2 fun k hk => ?_
    obtain ⟨hpos, hlt⟩ := List.mem_range'_1.1 hk
    obtain ⟨e, he, -⟩ := hlast.exists_error hpos (by omega)
    exact ⟨e, he⟩
  · exact answered_story hlast.lt fun k hpos hle => hcall _ _ ⟨_, hts k hpos hle, rfl⟩

theorem makes_perform (hcall : ∀ cs r, Makes call cs r → cs = [one r])
    (h : Makes (p.perform call) cs r) : Tried one cs r := by
  obtain ⟨cs₁, a, cs₂, h₁, h₂, rfl⟩ := Task.makes_bind_iff.1 h
  obtain ⟨rfl, rfl⟩ : cs₂ = [] ∧ r = a.result := by
    revert h₂
    cases a.history? with
    | none => exact Task.makes_done_iff.1
    | some event => exact fun h₂ => Task.makes_done_iff.1 (Task.makes_log_iff.1 h₂)
  rw [List.append_nil]
  exact makes_execute hcall h₁

/-- A request whose answer decides on the result, with no call after it. -/
theorem makes_performed {β : Type} {k : Except ApiError α → Attempt I β}
    {f : Except ApiError α → Except Error β} {r : Except Error β}
    (hcall : ∀ cs r, Makes call cs r → cs = [one r])
    (hk : ∀ answer cs r, Makes (k answer).run cs r → cs = [] ∧ r = f answer)
    (h : Makes (Attempt.ofTask (p.perform call) >>= k).run cs r) :
    ∃ answer, Tried one cs answer ∧ r = f answer := by
  obtain ⟨cs₁, answer, cs₂, h₁, h₂, rfl⟩ := Attempt.makes_ofTask_bind_iff.1 h
  obtain ⟨rfl, rfl⟩ := hk answer cs₂ r h₂
  rw [List.append_nil]
  exact ⟨answer, makes_perform hcall h₁, rfl⟩

/-! ## Told by the outcomes -/

/-- The first `n` calls, whose outcomes are given. -/
def callsTo (one : Except ApiError α → Answered I) (o : Nat → Except ApiError α) (n : Nat) :
    List (Answered I) :=
  (List.range' 1 n).map fun k => one (o k)

theorem callsTo_of_pos {o : Nat → Except ApiError α} {n : Nat} (hn : 0 < n) :
    callsTo one o n = ((List.range' 1 (n - 1)).map o).map one ++ [one (o n)] := by
  obtain ⟨m, rfl⟩ := Nat.exists_eq_add_of_lt hn
  rw [callsTo, Nat.zero_add, List.range'_1_concat, Nat.add_comm 1 m]
  simp

theorem makes_execute_iff {a : Attempted α} (hcall : ∀ cs r, Makes call cs r ↔ cs = [one r]) :
    Makes (p.execute call) cs a ↔
      ∃ o n, p.IsLast 0 o n ∧ cs = callsTo one o n ∧ a = ⟨o n, failures 0 o n⟩ := by
  constructor
  · rintro ⟨es, hway, rfl⟩
    obtain ⟨o, ts, n, hts, hlast, rfl, ha⟩ := way_execute_iff.1 hway
    refine ⟨o, n, hlast, ?_, ha⟩
    rw [callsTo_of_pos hlast.lt]
    exact answered_story hlast.lt fun k hpos hle => (hcall _ _).1 ⟨_, hts k hpos hle, rfl⟩
  · rintro ⟨o, n, hlast, rfl, ha⟩
    have hmakes (k : Nat) : Makes call [one (o k)] (o k) := (hcall _ _).2 rfl
    choose ts hts hseen using hmakes
    refine ⟨p.story 0 o ts n, way_execute_iff.2 ⟨o, ts, n, fun k _ _ => hts k, hlast, rfl, ha⟩, ?_⟩
    rw [callsTo_of_pos hlast.lt]
    exact answered_story hlast.lt fun k _ _ => hseen k

/-- A request is made up to the last call that its outcomes allow, whose outcome is the result. -/
theorem makes_perform_iff (hcall : ∀ cs r, Makes call cs r ↔ cs = [one r]) :
    Makes (p.perform call) cs r ↔ ∃ o n, p.IsLast 0 o n ∧ cs = callsTo one o n ∧ r = o n := by
  have result (a : Attempted α) (cs : List (Answered I)) (r : Except ApiError α) :
      Makes (do a.history?.forM Task.note; return a.result : Task I (Except ApiError α)) cs r ↔
        cs = [] ∧ r = a.result := by
    cases a.history? with
    | none => exact Task.makes_done_iff
    | some event => exact Task.makes_log_iff.trans Task.makes_done_iff
  refine Task.makes_bind_iff.trans ⟨?_, ?_⟩
  · rintro ⟨cs₁, a, cs₂, h₁, h₂, rfl⟩
    obtain ⟨o, n, hlast, rfl, rfl⟩ := (makes_execute_iff hcall).1 h₁
    obtain ⟨rfl, rfl⟩ := (result _ _ _).1 h₂
    exact ⟨o, n, hlast, List.append_nil _, rfl⟩
  · rintro ⟨o, n, hlast, rfl, rfl⟩
    exact ⟨_, _, [], (makes_execute_iff hcall).2 ⟨o, n, hlast, rfl, rfl⟩, (result _ _ _).2 ⟨rfl, rfl⟩,
      (List.append_nil _).symm⟩

end RetryPolicy

end AwsCredentials
