import AwsCredentials.Proofs.Retry.Budget
import Mathlib.Algebra.Group.Nat.Defs

/-!
# How long the waits are

The wait after the `n`th attempt is the first wait times a power of two, and at most the limit. A
product that is no duration counts as the limit. A power beyond 32 bits does not: it counts as the
largest number of 32 bits. So the waits grow to `reach`, the first wait times that number, and a
limit beyond it is never waited for.

* `factor_eq_min`, `backoff_eq`: the wait in exact arithmetic;
* `Fit`: what the policies have in common that are built from durations, and `Fit.backsOff`: what
  follows for their waits;
* `backoff_doubles_within_reach`: the waits of the policies that can be built;
* `Fit.waits_execute`: the waits of a call that is made again.
-/

namespace AwsCredentials

namespace Duration

theorem eq_iff {a b : Duration} : a = b ↔ a.nanos = b.nanos := by
  cases a; cases b; simp

theorem le_iff {a b : Duration} : a ≤ b ↔ a.nanos ≤ b.nanos := Iff.rfl

@[simp] theorem nanos_min (a b : Duration) : (min a b).nanos = min a.nanos b.nanos := rfl

end Duration

namespace Task

variable {I : Interface}

/-- The length of the wait, if it is one. -/
def Event.wait? : Event I → Option Duration
  | .wait d => some d
  | _ => none

/-- The waits on a way. -/
def waits (es : List (Event I)) : List Duration := es.filterMap Event.wait?

@[simp] theorem waits_append (es es' : List (Event I)) :
    waits (es ++ es') = waits es ++ waits es' := List.filterMap_append

end Task

namespace RetryPolicy

open AwsCredentials.Task (Way Event waits waits_append)

/-! ## Exact arithmetic -/

/-- The wait after the `n`th attempt, if it starts with one and doubles each time up to a cap. -/
def doubled (initial cap : Duration) (n : Nat) : Duration :=
  min ⟨initial.nanos * 2 ^ (n - 1)⟩ cap

/-- How long the waits can get that start with one. -/
def reach (initial : Duration) : Duration := ⟨initial.nanos * Text.max32⟩

@[simp] theorem nanos_doubled (initial cap : Duration) (n : Nat) :
    (doubled initial cap n).nanos = min (initial.nanos * 2 ^ (n - 1)) cap.nanos := rfl

@[simp] theorem nanos_reach (initial : Duration) :
    (reach initial).nanos = initial.nanos * Text.max32 := rfl

theorem two_pow_le_max32_iff (n : Nat) : 2 ^ (n - 1) ≤ Text.max32 ↔ n ≤ 32 := by
  have hpow : 2 ^ (n - 1) < 2 ^ 32 ↔ n - 1 < 32 := Nat.pow_lt_pow_iff_right (by decide)
  rw [show Text.max32 = 2 ^ 32 - 1 from rfl]
  omega

/-- The product with the power itself is within reach while the power is a number of 32 bits. -/
theorem product_le_reach_iff (initial : Duration) (n : Nat) :
    initial.nanos * 2 ^ (n - 1) ≤ (reach initial).nanos ↔ n ≤ 32 ∨ initial = .zero := by
  rw [nanos_reach, Duration.eq_iff]
  rcases Nat.eq_zero_or_pos initial.nanos with hzero | hpos
  · simp [hzero, Duration.zero]
  · rw [Nat.mul_le_mul_left_iff hpos, two_pow_le_max32_iff]
    exact (or_iff_left (Nat.ne_of_gt hpos)).symm

theorem factor_eq_min (n : Nat) : factor n = min (2 ^ (n - 1)) Text.max32 := by
  have hle := two_pow_le_max32_iff n
  rw [factor, Nat.pow_eq]
  split <;> omega

/-- The factor is a number of 32 bits. -/
theorem factor_le_max32 (n : Nat) : factor n ≤ Text.max32 := by
  rw [factor_eq_min]
  exact Nat.min_le_right _ _

theorem one_le_factor (n : Nat) : 1 ≤ factor n := by
  rw [factor_eq_min]
  exact Nat.le_min.2 ⟨Nat.one_le_two_pow, by decide⟩

theorem factor_mono {m n : Nat} (h : m ≤ n) : factor m ≤ factor n := by
  have hpow : 2 ^ (m - 1) ≤ 2 ^ (n - 1) := Nat.pow_le_pow_right (by decide) (by omega)
  rw [factor_eq_min, factor_eq_min]
  omega

variable {p : RetryPolicy}

/-- A product beyond the longest duration is beyond the limit, too. -/
theorem backoff_eq (h : p.limit ≤ .longest) (n : Nat) :
    p.backoff n = min ⟨p.initial.nanos * factor n⟩ p.limit := by
  rw [backoff]
  split
  · rfl
  · next hlong =>
    rw [Duration.le_iff] at h hlong
    rw [Duration.eq_iff, Duration.nanos_min]
    exact (Nat.min_eq_right (by omega)).symm

/-! ## The law of the waits -/

/-- How waits grow from a first one up to a cap: they double, but not beyond their reach. So they
fail to double up to the cap exactly if it is out of reach, and then from the 33rd attempt on. -/
structure BacksOff (wait : Nat → Duration) (initial cap : Duration) : Prop where
  eq_min : ∀ n, wait n = min (doubled initial cap n) (reach initial)
  eq_doubled_iff : ∀ n, wait n = doubled initial cap n ↔
    n ≤ 32 ∨ initial = .zero ∨ cap ≤ reach initial
  mono : ∀ m n, m ≤ n → wait m ≤ wait n
  initial_le : ∀ n, initial ≤ wait n
  le_cap : ∀ n, wait n ≤ cap
  cap_le : cap ≤ .longest
  /-- From the 33rd attempt on the waits are equal. -/
  settled : ∀ n, 32 < n → wait n = min cap (reach initial)
  reaches_iff : (∃ n, wait n = cap) ↔ cap ≤ reach initial
  stays : ∀ m n, wait m = cap → m ≤ n → wait n = cap

/-- What holds of every policy that is built from durations: the first wait is no longer than the
limit, and the limit is a duration that can be waited for. -/
structure Fit (p : RetryPolicy) : Prop where
  initial_le : p.initial ≤ p.limit
  limit_le : p.limit ≤ .longest

theorem fit_ofAttempts (k : Nat) : (ofAttempts k).Fit where
  initial_le := (by decide : Duration.ofMillis 500 ≤ .ofSeconds 20)
  limit_le := (by decide : Duration.ofSeconds 20 ≤ .longest)

theorem fit_withBackoff (p : RetryPolicy) {initial limit : Duration}
    (hinitial : initial ≤ .longest) (hlimit : limit ≤ .longest) :
    (p.withBackoff initial limit).Fit where
  initial_le := Nat.le_max_right _ _
  limit_le := Nat.max_le.2 ⟨hlimit, hinitial⟩

namespace Fit

theorem nanos_backoff (h : p.Fit) (n : Nat) :
    (p.backoff n).nanos = min (p.initial.nanos * factor n) p.limit.nanos := by
  rw [backoff_eq h.limit_le, Duration.nanos_min]

theorem initial_le_backoff (h : p.Fit) (n : Nat) : p.initial ≤ p.backoff n := by
  rw [Duration.le_iff, h.nanos_backoff]
  exact Nat.le_min.2 ⟨Nat.le_mul_of_pos_right _ (one_le_factor n), h.initial_le⟩

theorem backoff_le_limit (h : p.Fit) (n : Nat) : p.backoff n ≤ p.limit := by
  rw [Duration.le_iff, h.nanos_backoff]
  exact Nat.min_le_right _ _

theorem backoff_mono (h : p.Fit) {m n : Nat} (hmn : m ≤ n) : p.backoff m ≤ p.backoff n := by
  have hprod := Nat.mul_le_mul_left p.initial.nanos (factor_mono hmn)
  rw [Duration.le_iff, h.nanos_backoff, h.nanos_backoff]
  omega

/-- The wait doubles up to the limit, and is cut at its reach. -/
theorem backoff_eq_min_doubled (h : p.Fit) (n : Nat) :
    p.backoff n = min (doubled p.initial p.limit n) (reach p.initial) := by
  rw [Duration.eq_iff, h.nanos_backoff, factor_eq_min, ← Nat.mul_min_mul_left]
  simp only [nanos_doubled, nanos_reach, Duration.nanos_min]
  omega

/-- The wait is the doubled one exactly if that is within reach. -/
theorem backoff_eq_doubled_iff (h : p.Fit) (n : Nat) :
    p.backoff n = doubled p.initial p.limit n ↔
      n ≤ 32 ∨ p.initial = .zero ∨ p.limit ≤ reach p.initial := by
  have hproduct := product_le_reach_iff p.initial n
  rw [h.backoff_eq_min_doubled, Duration.eq_iff, Duration.le_iff, ← or_assoc, ← hproduct]
  simp only [nanos_doubled, nanos_reach, Duration.nanos_min]
  omega

/-- Once the power is beyond 32 bits, the wait is what can be reached of the limit. -/
theorem backoff_of_lt (h : p.Fit) {n : Nat} (hn : 32 < n) :
    p.backoff n = min p.limit (reach p.initial) := by
  have hpow : Text.max32 ≤ 2 ^ (n - 1) := by
    have := two_pow_le_max32_iff n
    omega
  have hproduct := Nat.mul_le_mul_left p.initial.nanos hpow
  rw [h.backoff_eq_min_doubled, Duration.eq_iff]
  simp only [nanos_doubled, nanos_reach, Duration.nanos_min]
  omega

theorem exists_backoff_eq_limit_iff (h : p.Fit) :
    (∃ n, p.backoff n = p.limit) ↔ p.limit ≤ reach p.initial := by
  constructor
  · rintro ⟨n, hn⟩
    rw [← hn, h.backoff_eq_min_doubled]
    exact Nat.min_le_right _ _
  · intro hle
    refine ⟨33, ?_⟩
    rw [h.backoff_of_lt (by decide), Duration.eq_iff]
    exact Nat.min_eq_left hle

theorem backoff_stays (h : p.Fit) {m n : Nat} (hm : p.backoff m = p.limit) (hmn : m ≤ n) :
    p.backoff n = p.limit := by
  have hmono := h.backoff_mono hmn
  rw [hm] at hmono
  exact Duration.eq_iff.2 (Nat.le_antisymm (h.backoff_le_limit n) hmono)

theorem backsOff (h : p.Fit) : BacksOff p.backoff p.initial p.limit where
  eq_min := h.backoff_eq_min_doubled
  eq_doubled_iff := h.backoff_eq_doubled_iff
  mono _ _ := h.backoff_mono
  initial_le := h.initial_le_backoff
  le_cap := h.backoff_le_limit
  cap_le := h.limit_le
  settled _ := h.backoff_of_lt
  reaches_iff := h.exists_backoff_eq_limit_iff
  stays _ _ := h.backoff_stays

end Fit

/-- No factor is beyond 32 bits. The waits of a policy start with half a second and have a cap of
twenty seconds, unless others are chosen. Then they start with the chosen one, and the cap is the
chosen limit, or the first wait if that is longer. -/
theorem backoff_doubles_within_reach (k : Nat) (p : RetryPolicy) {initial limit : Duration}
    (hinitial : initial ≤ .longest) (hlimit : limit ≤ .longest) :
    (∀ n, factor n ≤ Text.max32) ∧
      BacksOff (ofAttempts k).backoff (.ofMillis 500) (.ofSeconds 20) ∧
      BacksOff (p.withBackoff initial limit).backoff initial (max limit initial) :=
  ⟨factor_le_max32, (fit_ofAttempts k).backsOff, (fit_withBackoff p hinitial hlimit).backsOff⟩

/-- A first wait of 2⁴⁰ seconds times 2³¹ is no duration, and the longest one is waited for. -/
theorem product_without_duration_is_capped :
    let initial : Duration := .ofSeconds (2 ^ 40)
    initial ≤ .longest ∧ Duration.longest ≤ .longest ∧
      Duration.longest < ⟨initial.nanos * 2 ^ 31⟩ ∧
      ((ofAttempts 5).withBackoff initial .longest).backoff 32 = .longest := by
  intro initial
  have hinitial : initial ≤ .longest := by decide
  have hlimit : Duration.longest ≤ .longest := by decide
  have hlaw := (backoff_doubles_within_reach 5 (ofAttempts 5) hinitial hlimit).2.2
  have hwait := (hlaw.eq_doubled_iff 32).2 (.inl (by decide))
  exact ⟨hinitial, hlimit, by decide, hwait.trans (by decide +kernel)⟩

/-- From a nanosecond the waits double to 2³¹ nanoseconds. The next one has 2³² - 1 and is the last
to grow: a limit of five seconds is never waited for. -/
theorem doubling_stops_short_of_limit :
    let initial : Duration := ⟨1⟩
    let limit : Duration := .ofSeconds 5
    let p := (ofAttempts 3).withBackoff initial limit
    p.backoff 32 = ⟨2147483648⟩ ∧ p.backoff 33 = ⟨4294967295⟩ ∧
      doubled initial (max limit initial) 33 = ⟨4294967296⟩ ∧
      ∀ n, p.backoff n ≠ max limit initial := by
  intro initial limit p
  have hfit : p.Fit := fit_withBackoff _ (by decide) (by decide)
  refine ⟨by decide +kernel, by decide +kernel, by decide +kernel, fun n hn => ?_⟩
  exact absurd (hfit.exists_backoff_eq_limit_iff.1 ⟨n, hn⟩) (by decide)

/-! ## The waits of a call -/

section Waits

variable {I : Interface} {α : Type} {call : Task I (Except ApiError α)} {es : List (Event I)}
  {a : Attempted α}

/-- Between two calls lies one wait. -/
theorem waits_story {o : Nat → Except ApiError α} {ts : Nat → List (Event I)} {n : Nat}
    (hlast : p.IsLast 0 o n) (hts : ∀ k, 0 < k → k ≤ n → waits (ts k) = []) :
    waits (p.story 0 o ts n) = (List.range' 1 (n - 1)).map p.backoff := by
  have hcall (k : Nat) (hpos : 0 < k) (hlt : k < n) :
      waits (ts k ++ p.between k (o k)) = [p.backoff k] := by
    obtain ⟨e, he, -⟩ := hlast.exists_error hpos hlt
    rw [waits_append, hts k hpos (Nat.le_of_lt hlt), he]
    rfl
  have hend : waits (ts n ++ ending n (o n)) = [] := by
    rw [waits_append, hts n hlast.lt (Nat.le_refl n)]
    exact filterMap_ending (fun _ => rfl) n (o n)
  rw [waits, filterMap_story hcall hend, List.append_nil, List.map_eq_flatMap]

/-- A call that does not wait itself is made again after one wait for each attempt but the last. The
waits rise, each lies between the first one and the limit, and there are fewer than attempts are
allowed. -/
theorem Fit.waits_execute (h : p.Fit) (hcall : ∀ es r, Way call es r → waits es = [])
    (hway : Way (p.execute call) es a) :
    waits es = (List.range' 1 (a.attemptCount - 1)).map p.backoff ∧
      (waits es).Pairwise (· ≤ ·) ∧ (∀ d ∈ waits es, p.initial ≤ d ∧ d ≤ p.limit) ∧
      (waits es).length < p.maxAttempts := by
  obtain ⟨o, ts, n, hts, hlast, rfl, rfl⟩ := way_execute_iff.1 hway
  have hwaits := waits_story hlast fun k hpos hle => hcall _ _ (hts k hpos hle)
  rw [hlast.attemptCount, hwaits]
  refine ⟨rfl, ?_, ?_, ?_⟩
  · refine List.pairwise_map.2 ((List.pairwise_lt_range' 1 Nat.one_pos).imp fun hlt => ?_)
    exact h.backoff_mono (Nat.le_of_lt hlt)
  · exact List.forall_mem_map.2 fun k _ => ⟨h.initial_le_backoff k, h.backoff_le_limit k⟩
  · have hle := hlast.le_maxAttempts p.one_le_maxAttempts
    have hpos := hlast.lt
    rw [List.length_map, List.length_range']
    omega

end Waits

end RetryPolicy

end AwsCredentials
