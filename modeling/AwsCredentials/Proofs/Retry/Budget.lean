import AwsCredentials.Retry
import AwsCredentials.Proofs.Task.Way
import Mathlib.Data.List.Basic
import Mathlib.Data.Nat.Find
import Mathlib.Logic.ExistsUnique

/-!
# When the calls end

The `k`th call is the last one if it succeeds, or if it fails in a way that has no more than `k`
calls. Which calls are made, what lies between them and what is recorded follows from this alone:

* `existsUnique_isLast`: every sequence of outcomes has one last call, which is at most the number
  of attempts of the policy;
* `way_attempt_iff`: one turn of the loop, and `way_attempt_iff_exists`: all turns that are left;
* `way_execute_iff`: the ways of `execute` are told by the outcomes up to the last one;
* `ApiError.isExpired_iff`: which failures say that the session is over.
-/

namespace AwsCredentials.ApiError

/-- Whether a failed call says that the session is over: by its code, or by a phrase in its message,
whatever the case of the letters. -/
def SaysExpired (e : ApiError) : Prop :=
  (∃ code ∈ ["ExpiredToken", "ExpiredTokenException", "RequestExpired"], e.code = some code) ∨
    ∃ phrase ∈ ["security token included in the request is expired", "token has expired"],
      ∃ before after, Text.asciiLower e.message = before ++ phrase ++ after

variable {e : ApiError}

theorem codeIn_iff {codes : List String} :
    e.codeIn codes = true ↔ ∃ code ∈ codes, e.code = some code := by
  rw [codeIn]
  cases e.code with
  | none => simp
  | some code => simp

theorem mentions_iff {phrases : List String} :
    e.mentions phrases = true ↔ ∃ phrase ∈ phrases,
      ∃ before after, Text.asciiLower e.message = before ++ phrase ++ after := by
  simp only [mentions, List.any_eq_true, Text.contains_iff]

theorem isExpired_iff : e.isExpired = true ↔ e.SaysExpired := by
  rw [isExpired, Bool.or_eq_true, codeIn_iff, mentions_iff]
  exact Iff.rfl

theorem classify_of_saysExpired (h : e.SaysExpired) : e.classify = .terminal :=
  if_pos (isExpired_iff.2 h)

end AwsCredentials.ApiError

namespace AwsCredentials.RetryPolicy

open AwsCredentials.Task (Way Event)

variable {I : Interface} {α : Type} (p : RetryPolicy)

/-- Whether the `k`th call is the last one, by how it ends. -/
def Stops (k : Nat) : Except ApiError α → Prop
  | .ok _ => True
  | .error e => p.budget e.classify ≤ k

instance (k : Nat) (r : Except ApiError α) : Decidable (p.Stops k r) :=
  match r with
  | .ok _ => inferInstanceAs (Decidable True)
  | .error e => inferInstanceAs (Decidable (p.budget e.classify ≤ k))

/-- Whether the `n`th outcome is the first one after the `j`th that stops. -/
structure IsLast (j : Nat) (o : Nat → Except ApiError α) (n : Nat) : Prop where
  lt : j < n
  stops : p.Stops n (o n)
  goes_on : ∀ k, j < k → k < n → ¬ p.Stops k (o k)

/-- The record of the `k`th outcome of `n`. -/
def record? (n k : Nat) : Except ApiError α → Option Failure
  | .ok _ => none
  | .error e => some ⟨e, decide (e.classify ≠ .terminal), decide (k < n)⟩

/-- The failures among the outcomes from the one after the `j`th up to the `n`th. -/
def failures (j : Nat) (o : Nat → Except ApiError α) (n : Nat) : List Failure :=
  (List.range' (j + 1) (n - j)).filterMap fun k => record? n k (o k)

/-- What lies between the `k`th call and the one after it. -/
def between (k : Nat) : Except ApiError α → List (Event I)
  | .ok _ => []
  | .error e => [.log (p.retrying k e), .wait (p.backoff k)]

/-- What follows the last call, which is the `n`th one. -/
def ending (n : Nat) : Except ApiError α → List (Event I)
  | .ok _ => []
  | .error e => ((gaveUp? n e).map Event.log).toList

/-- The way from the call after the `j`th to the `n`th, which is the last one. -/
def story (j : Nat) (o : Nat → Except ApiError α) (ts : Nat → List (Event I)) (n : Nat) :
    List (Event I) :=
  ((List.range' (j + 1) (n - (j + 1))).flatMap fun k => ts k ++ p.between k (o k)) ++
    ts n ++ ending n (o n)

variable {p}

/-! ## The last call -/

theorem Stops.of_le {k : Nat} (r : Except ApiError α) (h : p.maxAttempts ≤ k) : p.Stops k r := by
  cases r with
  | ok a => trivial
  | error e => exact Nat.le_trans (p.budget_le _) h

/-- Every sequence of outcomes has one last call. -/
theorem existsUnique_isLast (o : Nat → Except ApiError α) : ∃! n, p.IsLast 0 o n := by
  have stops : ∃ n, 0 < n ∧ p.Stops n (o n) :=
    ⟨p.maxAttempts, p.one_le_maxAttempts, Stops.of_le _ (Nat.le_refl _)⟩
  refine ⟨Nat.find stops, ⟨(Nat.find_spec stops).1, (Nat.find_spec stops).2, ?_⟩, ?_⟩
  · exact fun k hk hlt hstop => Nat.find_min stops hlt ⟨hk, hstop⟩
  · intro n h
    refine ((Nat.find_eq_iff stops).2 ⟨⟨h.lt, h.stops⟩, ?_⟩).symm
    exact fun k hlt hk => h.goes_on k hk.1 hlt hk.2

variable {j n : Nat} {o : Nat → Except ApiError α}

theorem IsLast.le_maxAttempts (h : p.IsLast j o n) (hj : j < p.maxAttempts) : n ≤ p.maxAttempts :=
  Nat.le_of_not_lt fun hlt => h.goes_on _ hj hlt (Stops.of_le _ (Nat.le_refl _))

/-- Only failures go on. -/
theorem IsLast.exists_error (h : p.IsLast j o n) {k : Nat} (hj : j < k) (hk : k < n) :
    ∃ e, o k = .error e ∧ k < p.budget e.classify := by
  have goes_on := h.goes_on k hj hk
  revert goes_on
  cases o k with
  | ok a => exact fun goes_on => absurd trivial goes_on
  | error e => exact fun goes_on => ⟨e, rfl, Nat.lt_of_not_le goes_on⟩

/-- The last call is the one after the `j`th, if that one stops. -/
theorem isLast_succ (h : p.Stops (j + 1) (o (j + 1))) : p.IsLast j o (j + 1) :=
  ⟨Nat.lt_succ_self j, h, fun _ hj hk => absurd hk (Nat.not_lt.2 hj)⟩

theorem IsLast.eq_succ (h : p.IsLast j o n) (hs : p.Stops (j + 1) (o (j + 1))) : n = j + 1 := by
  rcases Nat.lt_or_eq_of_le (Nat.succ_le_of_lt h.lt) with hlt | heq
  · exact absurd hs (h.goes_on _ (Nat.lt_succ_self j) hlt)
  · exact heq.symm

/-- If the call after the `j`th goes on, the last call is looked for after it. -/
theorem isLast_iff_succ (h : ¬ p.Stops (j + 1) (o (j + 1))) :
    p.IsLast j o n ↔ p.IsLast (j + 1) o n := by
  constructor
  · intro hl
    refine ⟨Nat.lt_of_le_of_ne hl.lt ?_, hl.stops, fun k hj hk => hl.goes_on k (by omega) hk⟩
    rintro rfl
    exact h hl.stops
  · intro hl
    refine ⟨Nat.lt_of_succ_lt hl.lt, hl.stops, fun k hj hk => ?_⟩
    rcases Nat.lt_or_eq_of_le (Nat.succ_le_of_lt hj) with hlt | rfl
    · exact hl.goes_on k hlt hk
    · exact h

theorem IsLast.congr {o' : Nat → Except ApiError α} (h : p.IsLast j o n)
    (ho : ∀ k, j < k → o' k = o k) : p.IsLast j o' n :=
  ⟨h.lt, (ho n h.lt).symm ▸ h.stops, fun k hj hk => (ho k hj).symm ▸ h.goes_on k hj hk⟩

/-! ## The records and the way -/

theorem failures_succ : failures j o (j + 1) = (record? (j + 1) (j + 1) (o (j + 1))).toList := by
  simp only [failures, Nat.add_sub_cancel_left, List.range'_one, List.filterMap_cons,
    List.filterMap_nil]
  cases record? (j + 1) (j + 1) (o (j + 1)) <;> rfl

theorem failures_of_lt (h : j + 1 < n) :
    failures j o n = (record? n (j + 1) (o (j + 1))).toList ++ failures (j + 1) o n := by
  obtain ⟨d, rfl⟩ := Nat.exists_eq_add_of_lt h
  simp only [failures, show j + 1 + d + 1 - j = d + 1 + 1 by omega,
    show j + 1 + d + 1 - (j + 1) = d + 1 by omega, List.range'_succ, List.filterMap_cons]
  cases record? (j + 1 + d + 1) (j + 1) (o (j + 1)) <;> rfl

theorem failures_congr {o' : Nat → Except ApiError α} (ho : ∀ k, j < k → o k = o' k) :
    failures j o n = failures j o' n :=
  List.filterMap_congr fun k hk => by rw [ho k (List.mem_range'_1.1 hk).1]

variable {ts : Nat → List (Event I)}

theorem story_succ : p.story j o ts (j + 1) = ts (j + 1) ++ ending (j + 1) (o (j + 1)) := by
  simp [story]

theorem story_of_lt (h : j + 1 < n) :
    p.story j o ts n = ts (j + 1) ++ p.between (j + 1) (o (j + 1)) ++ p.story (j + 1) o ts n := by
  obtain ⟨d, rfl⟩ := Nat.exists_eq_add_of_lt h
  simp only [story, show j + 1 + d + 1 - (j + 1) = d + 1 by omega,
    show j + 1 + d + 1 - (j + 1 + 1) = d by omega, List.range'_succ, List.flatMap_cons,
    List.append_assoc]

theorem story_congr {o' : Nat → Except ApiError α} {ts' : Nat → List (Event I)} (hn : j < n)
    (ho : ∀ k, j < k → o k = o' k) (ht : ∀ k, j < k → ts k = ts' k) :
    p.story j o ts n = p.story j o' ts' n := by
  rw [story, story, ho n hn, ht n hn]
  congr 2
  refine List.flatMap_congr fun k hk => ?_
  have hk := (List.mem_range'_1.1 hk).1
  rw [ho k hk, ht k hk]

section

variable {β : Type} {f : Event I → Option β} {g : Nat → List β} {l : List β}

/-- After the last call there is a report at most. -/
theorem filterMap_ending (hf : ∀ event, f (.log event) = none) (n : Nat) (r : Except ApiError α) :
    (ending n r).filterMap f = [] := by
  cases r with
  | ok a => rfl
  | error e =>
    rw [ending]
    cases gaveUp? n e with
    | none => rfl
    | some event => simp [hf]

/-- What is looked for on the way is looked for from one call to the next. -/
theorem filterMap_story
    (hcall : ∀ k, j < k → k < n → (ts k ++ p.between k (o k)).filterMap f = g k)
    (hlast : (ts n ++ ending n (o n)).filterMap f = l) :
    (p.story j o ts n).filterMap f = (List.range' (j + 1) (n - (j + 1))).flatMap g ++ l := by
  rw [story, List.append_assoc, List.filterMap_append, hlast, List.filterMap_flatMap]
  congr 1
  refine List.flatMap_congr fun k hk => ?_
  obtain ⟨hj, hn⟩ := List.mem_range'_1.1 hk
  exact hcall k hj (by omega)

end

/-! ## The loop -/

variable {call : Task I (Except ApiError α)} {left : Nat} {fs : List Failure}
  {es : List (Event I)} {a : Attempted α}

theorem record?_error (n k : Nat) (e : ApiError) :
    record? n k (.error e : Except ApiError α) =
      some ⟨e, e.classify.isRetryable, decide (k < n)⟩ := by
  rw [record?]
  cases e.classify <;> rfl

theorem way_giveUp_iff {e : ApiError} {n : Nat} (hn : n = fs.length + 1) :
    Way (giveUp fs e) es a ↔ es = ending n (.error e : Except ApiError α) ∧
      a = ⟨.error e, fs ++ (record? n n (.error e : Except ApiError α)).toList⟩ := by
  subst hn
  rw [record?_error, decide_eq_false (Nat.lt_irrefl _)]
  simp only [giveUp, ending]
  cases gaveUp? (fs.length + 1) e with
  | none => exact Task.way_done_iff
  | some event =>
    refine Task.way_log_iff.trans ?_
    constructor
    · rintro ⟨es', h, rfl⟩
      obtain ⟨rfl, rfl⟩ := Task.way_done_iff.1 h
      exact ⟨rfl, rfl⟩
    · rintro ⟨rfl, rfl⟩
      exact ⟨[], Way.done, rfl⟩

/-- What the loop does with the result of a call. -/
def follow (p : RetryPolicy) (call : Task I (Except ApiError α)) (left : Nat) (fs : List Failure) :
    Except ApiError α → Task I (Attempted α)
  | .ok a => .done ⟨.ok a, fs⟩
  | .error e =>
    match left with
    | 0 => giveUp fs e
    | left + 1 =>
      if fs.length + 1 < p.budget e.classify then
        .log (p.retrying (fs.length + 1) e) <| .wait (p.backoff (fs.length + 1)) <|
          p.attempt call left (fs ++ [⟨e, e.classify.isRetryable, true⟩])
      else
        giveUp fs e

theorem attempt_eq : p.attempt call left fs = call.bind (p.follow call left fs) := by
  rw [attempt]
  show call.bind _ = _
  congr 1

theorem follow_of_stops {e : ApiError} {k : Nat} (hk : k = fs.length + 1)
    (h : p.Stops k (.error e : Except ApiError α)) :
    p.follow call left fs (.error e) = giveUp fs e := by
  cases left with
  | zero => rfl
  | succ left => exact if_neg (Nat.not_lt.2 (hk ▸ h))

theorem follow_of_not_stops {e : ApiError} {k : Nat} (hk : k = fs.length + 1)
    (h : ¬ p.Stops k (.error e : Except ApiError α)) :
    p.follow call (left + 1) fs (.error e) = .log (p.retrying k e) (.wait (p.backoff k)
      (p.attempt call left (fs ++ [⟨e, e.classify.isRetryable, true⟩]))) := by
  subst hk
  exact if_pos (Nat.lt_of_not_le h)

/-- One turn of the loop: a call is made, and either it was the last one, or a report, a wait and
the next turn follow. -/
theorem way_attempt_iff {k : Nat} (hk : k = fs.length + 1) (h : left + k = p.maxAttempts) :
    Way (p.attempt call left fs) es a ↔ ∃ t r, Way call t r ∧
      (p.Stops k r ∧ es = t ++ ending k r ∧ a = ⟨r, fs ++ (record? k k r).toList⟩ ∨
        ∃ e left' es', r = .error e ∧ ¬ p.Stops k r ∧ left = left' + 1 ∧
          Way (p.attempt call left' (fs ++ [⟨e, e.classify.isRetryable, true⟩])) es' a ∧
          es = t ++ p.between k r ++ es') := by
  rw [attempt_eq, Task.way_bind_iff]
  refine exists_congr fun t => exists_congr fun r => ?_
  rw [exists_and_left]
  refine and_congr_right fun _ => ?_
  cases r with
  | ok b =>
    constructor
    · rintro ⟨es', hes', rfl⟩
      obtain ⟨rfl, rfl⟩ := Task.way_done_iff.1 hes'
      exact .inl ⟨trivial, rfl, by simp [record?]⟩
    · rintro (⟨-, rfl, rfl⟩ | ⟨e, -, -, he, -⟩)
      · exact ⟨[], Task.way_done_iff.2 ⟨rfl, by simp [record?]⟩, rfl⟩
      · cases he
  | error e =>
    by_cases hs : p.Stops k (.error e : Except ApiError α)
    · simp only [follow_of_stops hk hs, way_giveUp_iff hk]
      constructor
      · rintro ⟨es', ⟨rfl, rfl⟩, rfl⟩
        exact .inl ⟨hs, rfl, rfl⟩
      · rintro (⟨-, rfl, rfl⟩ | ⟨e', -, -, -, hgo, -⟩)
        · exact ⟨_, ⟨rfl, rfl⟩, rfl⟩
        · exact absurd hs hgo
    · obtain ⟨left, rfl⟩ : ∃ left', left = left' + 1 :=
        Nat.exists_eq_succ_of_ne_zero fun h0 => hs (Stops.of_le _ (by omega))
      rw [follow_of_not_stops hk hs]
      constructor
      · rintro ⟨es', hes', rfl⟩
        obtain ⟨es₁, hes₁, rfl⟩ := Task.way_log_iff.1 hes'
        obtain ⟨es₂, hes₂, rfl⟩ := Task.way_wait_iff.1 hes₁
        exact .inr ⟨e, left, es₂, rfl, hs, rfl, hes₂, by simp [between]⟩
      · rintro (⟨hstop, -⟩ | ⟨e', left', es', he, -, hl, hes', rfl⟩)
        · exact absurd hstop hs
        · obtain rfl := Except.error.inj he
          obtain rfl := Nat.succ.inj hl
          exact ⟨_, .log (.wait hes'), by simp [between]⟩

/-- All turns that are left: the ways through them are told by the outcomes of their calls. -/
theorem way_attempt_iff_exists (h : left + (fs.length + 1) = p.maxAttempts) :
    Way (p.attempt call left fs) es a ↔ ∃ o ts n,
      (∀ k, fs.length < k → k ≤ n → Way call (ts k) (o k)) ∧ p.IsLast fs.length o n ∧
        es = p.story fs.length o ts n ∧ a = ⟨o n, fs ++ failures fs.length o n⟩ := by
  induction left using Nat.strongRecOn generalizing fs es with | ind left ih => ?_
  constructor
  · intro hway
    obtain ⟨t, r, ht, ⟨hs, rfl, rfl⟩ | ⟨e, left, es', rfl, hgo, rfl, hes', rfl⟩⟩ :=
      (way_attempt_iff rfl h).1 hway
    · exact ⟨fun _ => r, fun _ => t, fs.length + 1, fun _ _ _ => ht, isLast_succ hs,
        by rw [story_succ], by rw [failures_succ]⟩
    · obtain ⟨o, ts, n, hcalls, hlast, rfl, rfl⟩ := (ih left (Nat.lt_succ_self left)
        (by simp only [List.length_append, List.length_singleton]; omega)).1 hes'
      simp only [List.length_append, List.length_singleton] at hcalls hlast ⊢
      -- the outcome of this turn stands before those of the turns that follow
      have old {β : Type} (b : β) (f : Nat → β) (k : Nat) (hk : fs.length + 1 < k) :
          Function.update f (fs.length + 1) b k = f k :=
        Function.update_of_ne (Nat.ne_of_gt hk) b f
      have new {β : Type} (b : β) (f : Nat → β) :
          Function.update f (fs.length + 1) b (fs.length + 1) = b := Function.update_self _ b f
      refine ⟨Function.update o (fs.length + 1) (.error e), Function.update ts (fs.length + 1) t, n,
        fun k hj hk => ?_, (isLast_iff_succ (by rwa [new])).2 (hlast.congr (old _ o)), ?_, ?_⟩
      · rcases Nat.lt_or_eq_of_le (Nat.succ_le_of_lt hj) with hlt | rfl
        · rw [old _ o k hlt, old _ ts k hlt]
          exact hcalls k hlt hk
        · rw [new, new]
          exact ht
      · rw [story_of_lt hlast.lt, new, new,
          story_congr hlast.lt (old (.error e) o) (old t ts)]
      · rw [failures_of_lt hlast.lt, new, failures_congr (old (.error e) o), old _ o n hlast.lt,
          record?_error, decide_eq_true hlast.lt, List.append_assoc]
        rfl
  · rintro ⟨o, ts, n, hcalls, hlast, rfl, rfl⟩
    refine (way_attempt_iff rfl h).2 ⟨ts (fs.length + 1), o (fs.length + 1),
      hcalls _ (Nat.lt_succ_self _) hlast.lt, ?_⟩
    by_cases hs : p.Stops (fs.length + 1) (o (fs.length + 1))
    · obtain rfl := hlast.eq_succ hs
      exact .inl ⟨hs, story_succ, by rw [failures_succ]⟩
    · have hlast' := (isLast_iff_succ hs).1 hlast
      obtain ⟨e, he, -⟩ := hlast.exists_error (Nat.lt_succ_self _) hlast'.lt
      obtain ⟨left, rfl⟩ : ∃ left', left = left' + 1 :=
        Nat.exists_eq_succ_of_ne_zero fun h0 => hs (Stops.of_le _ (by omega))
      have hlen (f : Failure) : (fs ++ [f]).length = fs.length + 1 := by simp
      refine .inr ⟨e, left, p.story (fs.length + 1) o ts n, he, hs, rfl, ?_, story_of_lt hlast'.lt⟩
      refine (ih left (Nat.lt_succ_self left) (by rw [hlen]; omega)).2
        ⟨o, ts, n, fun k hj => hcalls k (by rw [hlen] at hj; omega), by rwa [hlen], by rw [hlen], ?_⟩
      rw [failures_of_lt hlast'.lt, he, record?_error, decide_eq_true hlast'.lt, hlen,
        List.append_assoc]
      rfl

/-- The ways of a call that is made again while its budget lasts. -/
theorem way_execute_iff :
    Way (p.execute call) es a ↔ ∃ o ts n,
      (∀ k, 0 < k → k ≤ n → Way call (ts k) (o k)) ∧ p.IsLast 0 o n ∧
        es = p.story 0 o ts n ∧ a = ⟨o n, failures 0 o n⟩ :=
  way_attempt_iff_exists (by have := p.one_le_maxAttempts; simp; omega)

/-! ## What the records tell -/

/-- From the last call back to the first one. -/
theorem IsLast.induct {motive : Nat → Prop} (h : p.IsLast j o n)
    (last : ∀ j, n = j + 1 → motive j)
    (goes_on : ∀ j e, j + 1 < n → o (j + 1) = .error e → j + 1 < p.budget e.classify →
      motive (j + 1) → motive j) : motive j := by
  obtain ⟨d, rfl⟩ := Nat.exists_eq_add_of_lt h.lt
  induction d generalizing j with
  | zero => exact last j rfl
  | succ d ih =>
    obtain ⟨e, he, hb⟩ := h.exists_error (Nat.lt_succ_self j) (by omega)
    have hgo := h.goes_on _ (Nat.lt_succ_self j) (by omega)
    have hn : j + (d + 1) + 1 = j + 1 + d + 1 := by omega
    rw [hn] at h last goes_on
    exact goes_on j e (by omega) he hb (ih ((isLast_iff_succ hgo).1 h) last goes_on)

/-- There is one record for each call, but for a last one that succeeded. -/
theorem IsLast.length_failures (h : p.IsLast j o n) :
    (failures j o n).length + (match o n with | .ok _ => 1 | .error _ => 0) = n - j := by
  refine h.induct (motive := fun j => (failures j o n).length +
    (match o n with | .ok _ => 1 | .error _ => 0) = n - j) (fun j hn => ?_) fun j e hlt he _ ih => ?_
  · subst hn
    rw [failures_succ]
    cases o (j + 1) <;> simp [record?]
  · rw [failures_of_lt hlt, he, record?_error, List.length_append]
    simp only [Option.toList_some, List.length_singleton]
    omega

theorem IsLast.attemptCount (h : p.IsLast 0 o n) :
    Attempted.attemptCount ⟨o n, failures 0 o n⟩ = n := by
  have := h.length_failures
  revert this
  simp only [Attempted.attemptCount]
  cases o n <;> exact id

/-- No call follows a failure that another attempt would not change. -/
theorem IsLast.eq_of_terminal (h : p.IsLast j o n) {k : Nat} {e : ApiError} (hj : j < k)
    (hk : k ≤ n) (he : o k = .error e) (ht : e.classify = .terminal) : k = n := by
  refine Nat.le_antisymm hk (Nat.le_of_not_lt fun hlt => ?_)
  obtain ⟨e', he', hb⟩ := h.exists_error hj hlt
  obtain rfl := Except.error.inj (he.symm.trans he')
  rw [ht] at hb
  exact absurd hb (Nat.not_lt.2 (Nat.succ_le_of_lt (Nat.zero_lt_of_lt hj)))

/-- How many failures to reach the network are recorded. -/
def unreached (fs : List Failure) : Nat := fs.countP fun f => f.error.classify = .network

theorem unreached_record?_le (n k : Nat) (r : Except ApiError α) :
    unreached (record? n k r).toList ≤ 1 := by
  refine Nat.le_trans List.countP_le_length ?_
  cases r <;> simp [record?]

/-- After the first call only the last one can fail to reach the network. -/
theorem IsLast.unreached_le_one (h : p.IsLast j o n) : 0 < j → unreached (failures j o n) ≤ 1 := by
  refine h.induct (motive := fun j => 0 < j → unreached (failures j o n) ≤ 1)
    (fun j hn _ => ?_) fun j e hlt he hb ih hj => ?_
  · rw [hn, failures_succ]
    exact unreached_record?_le _ _ _
  · have hc : e.classify ≠ .network := by
      intro hc
      rw [hc] at hb
      exact absurd (Nat.lt_of_lt_of_le hb (Nat.min_le_left _ _)) (by simp [networkAttempts]; omega)
    rw [failures_of_lt hlt, he, record?_error, unreached, List.countP_append]
    simp only [Option.toList_some, List.countP_singleton, hc, decide_false]
    simpa [unreached] using ih (Nat.succ_pos j)

theorem IsLast.unreached_le_two (h : p.IsLast 0 o n) : unreached (failures 0 o n) ≤ 2 := by
  by_cases hn : n = 1
  · rw [hn, failures_succ]
    exact Nat.le_succ_of_le (unreached_record?_le _ _ _)
  · have hlt : 0 + 1 < n := by have := h.lt; omega
    have hrest := ((isLast_iff_succ (h.goes_on 1 Nat.one_pos hlt)).1 h).unreached_le_one Nat.one_pos
    rw [failures_of_lt hlt, unreached, List.countP_append]
    exact Nat.add_le_add (unreached_record?_le _ _ _) hrest

/-- Every sequence of outcomes has one last call. The ways of `execute` are exactly those that make
the calls up to it, report and wait `backoff k` after the `k`th, and give the last outcome with the
failures before it; a run that gives a result makes the calls of such a way. As many calls are made
as are counted, no more than the policy allows, none after a failure that says that the session is
over or that another attempt would not change, and at most two of them fail to reach the network. -/
theorem execute_spends_budget (p : RetryPolicy) (call : Task I (Except ApiError α)) :
    (p.budget .terminal = 1 ∧ p.budget .network = min 2 p.maxAttempts ∧
      p.budget .transient = p.maxAttempts) ∧
    (∀ o : Nat → Except ApiError α, ∃! n, p.IsLast 0 o n) ∧
    (∀ es a, Way (p.execute call) es a ↔ ∃ o ts n,
      (∀ k, 0 < k → k ≤ n → Way call (ts k) (o k)) ∧ p.IsLast 0 o n ∧
        es = p.story 0 o ts n ∧ a = ⟨o n, failures 0 o n⟩) ∧
    (∀ {σ : Type} (host : Host I σ) deadline (w w' : World I σ) a,
      (p.execute call).run host deadline w = (some a, w') → ∃ o ts n,
        (∀ k, 0 < k → k ≤ n → Way call (ts k) (o k)) ∧ p.IsLast 0 o n ∧
          a = ⟨o n, failures 0 o n⟩ ∧ w'.calls.toList.map Made.op =
            w.calls.toList.map Made.op ++ (p.story 0 o ts n).filterMap Event.op?) ∧
    ∀ (o : Nat → Except ApiError α) (n : Nat), p.IsLast 0 o n →
      Attempted.attemptCount ⟨o n, failures 0 o n⟩ = n ∧ n ≤ p.maxAttempts ∧
      (∀ m initial limit, p = (ofAttempts m).withBackoff initial limit → n ≤ max 1 m) ∧
      (∀ k e, 0 < k → k ≤ n → o k = .error e → e.SaysExpired ∨ e.classify = .terminal →
        k = n) ∧
      unreached (failures 0 o n) ≤ 2 ∧
      (p.maxAttempts ≤ Text.max32 → ∀ k, k ≤ n → k ≤ Text.max32) := by
  refine ⟨⟨rfl, rfl, rfl⟩, existsUnique_isLast, fun es a => way_execute_iff, ?_, fun o n h => ?_⟩
  · intro σ host deadline w w' a hrun
    obtain ⟨es, hway, hcalls⟩ := Task.exists_way_of_run hrun
    obtain ⟨o, ts, n, hts, hlast, rfl, ha⟩ := way_execute_iff.1 hway
    exact ⟨o, ts, n, hts, hlast, ha, hcalls⟩
  · have hle := h.le_maxAttempts p.one_le_maxAttempts
    refine ⟨h.attemptCount, hle, ?_, ?_, h.unreached_le_two, ?_⟩
    · rintro m initial limit rfl
      exact Nat.le_trans hle (Nat.le_of_eq (Nat.max_comm m 1))
    · rintro k e hk hkn he (hexp | hterm)
      · exact h.eq_of_terminal hk hkn he (ApiError.classify_of_saysExpired hexp)
      · exact h.eq_of_terminal hk hkn he hterm
    · exact fun hmax k hk => Nat.le_trans (Nat.le_trans hk hle) hmax

/-- The network is lost before and after a timeout: the third call is the last one of five. A session
that is over ends the calls, whatever the status that comes with it. -/
theorem failures_alternate :
    let lost : ApiError := ⟨"AssumeRole", .dispatch, none, "connection refused", none⟩
    let late : ApiError := ⟨"AssumeRole", .timeout, none, "timed out", none⟩
    let expired : ApiError := ⟨"AssumeRole", .service, some "ExpiredToken", "", some 503⟩
    let o (k : Nat) : Except ApiError Unit := .error (if k = 2 then late else lost)
    let o' (k : Nat) : Except ApiError Unit := .error (if k = 2 then expired else late)
    (ofAttempts 5).IsLast 0 o 3 ∧
      failures 0 o 3 = [⟨lost, true, true⟩, ⟨late, true, true⟩, ⟨lost, true, false⟩] ∧
      Attempted.attemptCount ⟨o 3, failures 0 o 3⟩ = 3 ∧
      expired.mayPass = true ∧ expired.SaysExpired ∧ (ofAttempts 5).IsLast 0 o' 2 := by
  intro lost late expired o o'
  have last : (ofAttempts 5).IsLast 0 o 3 := by
    refine ⟨by decide, by decide, fun k hk hlt => ?_⟩
    obtain rfl | rfl : k = 1 ∨ k = 2 := by omega
    · decide
    · decide
  obtain ⟨-, unique, -, -, rule⟩ := execute_spends_budget (I := ⟨Empty, Empty.elim⟩) (α := Unit)
    (ofAttempts 5) (.done (.ok ()))
  have ended : expired.SaysExpired := .inl ⟨"ExpiredToken", by decide, rfl⟩
  obtain ⟨n, last', -⟩ := unique o'
  have one : n ≠ 1 := by
    rintro rfl
    exact absurd last'.stops (by decide)
  have two : 2 ≤ n := by
    have hpos := last'.lt
    omega
  obtain rfl : 2 = n := (rule o' n last').2.2.2.1 2 expired Nat.two_pos two rfl (.inl ended)
  exact ⟨last, by decide, (rule o 3 last).1, by decide, ended, last'⟩

end AwsCredentials.RetryPolicy
