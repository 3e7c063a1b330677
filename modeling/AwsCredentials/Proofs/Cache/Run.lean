import AwsCredentials.Cache

/-!
# Runs of the cache

A run of the cache is any sequence of its moves, mixed with changes of the clock: callers come, get
the lock, fetch, and go away while they wait or in the middle of a fetch. Nothing is said of who
comes and what a fetch answers, so a statement about all runs holds for any callers and any
provider.

* `Step`: what can happen at a moment, and what it leads to;
* `grant_cases`: all that can become of the caller that gets the lock;
* `Step.nodup_ids`: the callers that are there have different names;
* `Run.underWay_eq`: the fetches that were started and did not end are the one that the cache
  knows of.
-/

namespace AwsCredentials.Cache

/-- A cache and the time. -/
structure Moment where
  cache : Cache
  now : Instant

/-- What can happen to a cache. -/
inductive Happening where
  /-- A caller came and stands in line. -/
  | arrived (caller : CacheCaller)
  /-- The first caller in line got the lock. -/
  | granted (g : Granted)
  /-- The fetch of a caller ended, and the caller has its result. -/
  | fetched (id : Nat) (result : Except Error Credentials)
  /-- A caller in line went away. -/
  | left (id : Nat)
  /-- A caller went away in the middle of its fetch. -/
  | abandoned (id : Nat)
  /-- The clock was set, forward or back. -/
  | clockSet (now : Instant)

/-- Whether a fetch starts. -/
def Happening.isStart : Happening → Bool
  | .granted (.fetches _ _) => true
  | _ => false

/-- The names of the callers in line. -/
def line (cache : Cache) : List Nat := cache.waiting.map CacheCaller.id

/-- The names of all callers that are there. -/
def ids (cache : Cache) : List Nat := cache.fetching.toList ++ cache.line

/-- What can happen at a moment, and the moment that follows. A caller that comes has a name of its
own; only a caller that is in line can leave it, and only a fetch that is under way can end. -/
inductive Step : Moment → Happening → Moment → Prop
  | arrive {m : Moment} {caller : CacheCaller} : caller.id ∉ m.cache.ids →
    Step m (.arrived caller) ⟨m.cache.arrive caller, m.now⟩
  | grant {m : Moment} {cache : Cache} {g : Granted} : m.cache.grant m.now = (cache, some g) →
    Step m (.granted g) ⟨cache, m.now⟩
  | complete {m : Moment} {id : Nat} {result : Except Error Credentials} :
    m.cache.fetching = some id → Step m (.fetched id result) ⟨m.cache.complete result, m.now⟩
  | leave {m : Moment} {id : Nat} : id ∈ m.cache.line →
    Step m (.left id) ⟨m.cache.leave id, m.now⟩
  | abandon {m : Moment} {id : Nat} : m.cache.fetching = some id →
    Step m (.abandoned id) ⟨m.cache.leave id, m.now⟩
  | setClock {m : Moment} {now : Instant} : Step m (.clockSet now) ⟨m.cache, now⟩

/-- A run from a moment to another one, with all that happened in its order. -/
inductive Run (start : Moment) : List Happening → Moment → Prop
  | nil : Run start [] start
  | snoc {hs : List Happening} {m m' : Moment} {h : Happening} :
    Run start hs m → Step m h m' → Run start (hs ++ [h]) m'

/-- The fetches under way after something happened, from those before. -/
def track (ids : List Nat) : Happening → List Nat
  | .granted (.fetches id _) => id :: ids
  | .fetched id _ | .abandoned id => ids.erase id
  | _ => ids

/-- The fetches that were started and have not ended, by the names of their callers. -/
def underWay (hs : List Happening) : List Nat := hs.foldl track []

/-- Nothing is stored, or it ends before the buffer is over. -/
def Stale (stored : Option Credentials) (now : Instant) : Prop :=
  ∀ c, stored = some c → ∃ e, c.expiration = some e ∧ e ≤ now.add buffer

/-! ## The moves -/

theorem expiredAt_eq_true_iff {c : Credentials} {now : Instant} {d : Duration} :
    c.expiredAt now d = true ↔ ∃ e, c.expiration = some e ∧ e ≤ now.add d := by
  cases he : c.expiration with
  | none => simp [Credentials.expiredAt, he]
  | some e => simp [Credentials.expiredAt, he]

theorem good?_eq_none_iff {stored : Option Credentials} {now : Instant} :
    good? stored now = none ↔ Stale stored now := by
  cases stored with
  | none => simp [good?, Stale]
  | some c => simp [good?, Stale, Option.filter_eq_none_iff, expiredAt_eq_true_iff]

theorem good?_eq_some_iff {stored : Option Credentials} {now : Instant} {c : Credentials} :
    good? stored now = some c ↔ stored = some c ∧ c.expiredAt now buffer = false := by
  simp [good?, Option.filter_eq_some_iff]

/-- The lock is free when it is given, and the first caller in line throws the stored credentials
away, takes them, or starts a fetch because they are stale. -/
theorem grant_cases {cache cache' : Cache} {now : Instant} {g : Granted}
    (h : cache.grant now = (cache', some g)) :
    cache.fetching = none ∧ ∃ caller rest, cache.waiting = caller :: rest ∧
      ((g = .invalidated caller.id ∧ cache' = ⟨none, rest, none⟩) ∨
        (∃ c, good? cache.stored now = some c ∧ g = .served caller.id c ∧
          cache' = ⟨cache.stored, rest, none⟩) ∨
        (Stale cache.stored now ∧ g = .fetches caller.id cache.stored.isSome ∧
          cache' = ⟨cache.stored, rest, some caller.id⟩)) := by
  rw [grant] at h
  split at h
  · rename_i caller rest hfree hline
    refine ⟨hfree, caller, rest, hline, ?_⟩
    split at h
    · simp only [Prod.mk.injEq, Option.some.injEq] at h
      exact .inl ⟨h.2.symm, h.1.symm⟩
    · rename_i c _ hgood
      simp only [Prod.mk.injEq, Option.some.injEq] at h
      exact .inr (.inl ⟨c, hgood, h.2.symm, h.1.symm⟩)
    · rename_i _ hgood
      simp only [Prod.mk.injEq, Option.some.injEq] at h
      exact .inr (.inr ⟨good?_eq_none_iff.1 hgood, h.2.symm, h.1.symm⟩)
  · simp at h

theorem ids_arrive (cache : Cache) (caller : CacheCaller) :
    (cache.arrive caller).ids = cache.ids ++ [caller.id] := by
  simp [ids, line, arrive]

theorem complete_fetching (cache : Cache) (result : Except Error Credentials) :
    (cache.complete result).fetching = none := by
  cases result <;> rfl

theorem complete_waiting (cache : Cache) (result : Except Error Credentials) :
    (cache.complete result).waiting = cache.waiting := by
  cases result <;> rfl

theorem line_leave (cache : Cache) (id : Nat) :
    (cache.leave id).line = cache.line.filter (· ≠ id) := by
  simp [line, leave, List.filter_map, Function.comp_def]

/-- A caller that leaves the line does not end the fetch of another one. -/
theorem leave_fetching {cache : Cache} {id : Nat} (hn : cache.ids.Nodup) (h : id ∈ cache.line) :
    (cache.leave id).fetching = cache.fetching := by
  cases hf : cache.fetching with
  | none => simp [leave, hf]
  | some holder =>
    have hne : holder ≠ id := by
      rintro rfl
      simp [ids, hf, h] at hn
    simp [leave, hf, hne]

theorem abandon_fetching {cache : Cache} {id : Nat} (h : cache.fetching = some id) :
    (cache.leave id).fetching = none := by
  simp [leave, h]

/-! ## The callers that are there -/

/-- Different callers keep different names. -/
theorem Step.nodup_ids {m m' : Moment} {h : Happening} (step : Step m h m')
    (hn : m.cache.ids.Nodup) : m'.cache.ids.Nodup := by
  cases step with
  | @arrive caller hfresh =>
    rw [ids_arrive, List.nodup_append]
    refine ⟨hn, by simp, fun a ha b hb => ?_⟩
    rw [List.mem_singleton.1 hb]
    rintro rfl
    exact hfresh ha
  | grant hg =>
    obtain ⟨hfree, caller, rest, hline, hcase⟩ := grant_cases hg
    have hn' : (caller.id :: rest.map CacheCaller.id).Nodup := by
      simpa [ids, line, hfree, hline] using hn
    obtain ⟨-, rfl⟩ | ⟨c, -, -, rfl⟩ | ⟨-, -, rfl⟩ := hcase
    · simpa [ids, line] using (List.nodup_cons.1 hn').2
    · simpa [ids, line] using (List.nodup_cons.1 hn').2
    · simpa [ids, line] using hn'
  | complete _ =>
    have := (List.nodup_append.1 hn).2.1
    simpa [ids, line, complete_fetching, complete_waiting] using this
  | leave hmem =>
    rw [ids, leave_fetching hn hmem, line_leave]
    exact hn.sublist (List.Sublist.append_left List.filter_sublist _)
  | abandon hf =>
    rw [ids, abandon_fetching hf, line_leave]
    exact (List.nodup_append.1 hn).2.1.sublist List.filter_sublist
  | setClock => exact hn

theorem Run.nodup_ids {start m : Moment} {hs : List Happening} (run : Run start hs m)
    (hn : start.cache.ids.Nodup) : m.cache.ids.Nodup := by
  induction run with
  | nil => exact hn
  | snoc _ step ih => exact step.nodup_ids ih

theorem ids_holding (stored : Option Credentials) : (holding stored).ids = [] := rfl

/-! ## The fetches under way -/

/-- What happens to the fetch that the cache knows of happens to the fetches under way. -/
theorem Step.track_eq {m m' : Moment} {h : Happening} (step : Step m h m')
    (hn : m.cache.ids.Nodup) : track m.cache.fetching.toList h = m'.cache.fetching.toList := by
  cases step with
  | arrive _ => rfl
  | grant hg =>
    obtain ⟨hfree, caller, rest, -, hcase⟩ := grant_cases hg
    obtain ⟨rfl, rfl⟩ | ⟨c, -, rfl, rfl⟩ | ⟨-, rfl, rfl⟩ := hcase <;> simp [track, hfree]
  | complete hf => simp [track, hf, complete_fetching]
  | leave hmem => rw [leave_fetching hn hmem]; rfl
  | abandon hf => simp [track, hf, abandon_fetching]
  | setClock => rfl

theorem Run.underWay_eq {start m : Moment} {hs : List Happening} (run : Run start hs m)
    (hn : start.cache.ids.Nodup) (hfree : start.cache.fetching = none) :
    underWay hs = m.cache.fetching.toList := by
  induction run with
  | nil => simp [underWay, hfree]
  | snoc run step ih =>
    rw [underWay, List.foldl_append, ← underWay, ih]
    exact step.track_eq (run.nodup_ids hn)

end AwsCredentials.Cache
