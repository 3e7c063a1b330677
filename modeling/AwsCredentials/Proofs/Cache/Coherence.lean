import AwsCredentials.Proofs.Cache.SingleFlight

/-!
# What the cache hands out

What is stored is told by what happened: it is what the latest successful fetch gave, unless it was
thrown away since. Nothing else writes to it, since a fetch that is under way keeps the lock.

* `Step.stored_eq`: what each happening does to the stored credentials, and `Run.latest`, which
  reads them off a run;
* `Fetching`, `Run.fetching`: the caller in the middle of a fetch is the one that started it, and
  what is stored has not changed since;
* `run_coherent`: what the callers get, for the runs of an idle cache.
-/

namespace AwsCredentials.Cache

/-- What is stored after something happened, from what was stored before. -/
def keep (stored : Option Credentials) : Happening → Option Credentials
  | .fetched _ (.ok c) => some c
  | .granted (.invalidated _) => none
  | _ => stored

namespace Happening

/-- Whether a fetch succeeds. -/
def isSuccess : Happening → Bool
  | .fetched _ (.ok _) => true
  | _ => false

/-- Whether the stored credentials are replaced or thrown away. -/
def writes : Happening → Bool
  | .granted (.invalidated _) => true
  | h => h.isSuccess

/-- Whether it can happen while another caller has the lock. -/
def isAside : Happening → Bool
  | .arrived _ | .left _ | .clockSet _ => true
  | _ => false

/-- The caller that has the answer to its request for credentials, and the answer. -/
def answer? : Happening → Option (Nat × Except Error Credentials)
  | .granted (.served id c) => some (id, .ok c)
  | .fetched id result => some (id, result)
  | _ => none

end Happening

/-- Whether the latest successful fetch gave `c`, or no fetch succeeded and `c` was there at first,
and it was not thrown away since. -/
def Latest (stored : Option Credentials) (hs : List Happening) (c : Credentials) : Prop :=
  (stored = some c ∧ ∀ h ∈ hs, h.writes = false) ∨
    ∃ before id after, hs = before ++ .fetched id (.ok c) :: after ∧ ∀ h ∈ after, h.writes = false

/-- Whether the caller `id` is in the middle of the fetch that it started at `n`. -/
def Fetching (start : Moment) (hs : List Happening) (id : Nat) (n m : Moment) : Prop :=
  ∃ before expired n' after, hs = before ++ .granted (.fetches id expired) :: after ∧
    Run start before n ∧ Step n (.granted (.fetches id expired)) n' ∧ Run n' after m ∧
    ∀ h ∈ after, h.isAside = true

/-! ## The stored credentials -/

/-- What is stored after something happened was just fetched or had been there before. -/
theorem keep_cases (stored : Option Credentials) (h : Happening) :
    (∃ id c, h = .fetched id (.ok c) ∧ keep stored h = some c) ∨
      (∃ id, h = .granted (.invalidated id) ∧ keep stored h = none) ∨
      (h.writes = false ∧ keep stored h = stored) := by
  cases h with
  | granted g =>
    cases g with
    | served id c => exact .inr (.inr ⟨rfl, rfl⟩)
    | invalidated id => exact .inr (.inl ⟨id, rfl, rfl⟩)
    | fetches id expired => exact .inr (.inr ⟨rfl, rfl⟩)
  | fetched id result =>
    cases result with
    | ok c => exact .inl ⟨id, c, rfl, rfl⟩
    | error e => exact .inr (.inr ⟨rfl, rfl⟩)
  | _ => exact .inr (.inr ⟨rfl, rfl⟩)

theorem keep_of_writes {stored : Option Credentials} {h : Happening} (hw : h.writes = false) :
    keep stored h = stored := by
  obtain ⟨id, c, rfl, -⟩ | ⟨id, rfl, -⟩ | ⟨-, hkeep⟩ := keep_cases stored h
  · cases hw
  · cases hw
  · exact hkeep

theorem writes_of_isAside {h : Happening} (ha : h.isAside = true) : h.writes = false := by
  cases h with
  | granted g => cases ha
  | fetched id result => cases ha
  | abandoned id => cases ha
  | _ => rfl

theorem Step.stored_eq {m m' : Moment} {h : Happening} (step : Step m h m') :
    m'.cache.stored = keep m.cache.stored h := by
  cases step with
  | grant hg =>
    obtain ⟨-, caller, rest, -, hcase⟩ := grant_cases hg
    obtain ⟨rfl, rfl⟩ | ⟨c, -, rfl, rfl⟩ | ⟨-, rfl, rfl⟩ := hcase <;> rfl
  | @complete id result _ => cases result <;> rfl
  | _ => rfl

theorem Run.stored_eq {start m : Moment} {hs : List Happening} (run : Run start hs m) :
    m.cache.stored = hs.foldl keep start.cache.stored := by
  induction run with
  | nil => rfl
  | snoc _ step ih => rw [step.stored_eq, ih, List.foldl_append]; rfl

/-- Credentials that are stored have been there since the latest write. -/
theorem Run.latest {start m : Moment} {hs : List Happening} {c : Credentials}
    (run : Run start hs m) (hc : m.cache.stored = some c) : Latest start.cache.stored hs c := by
  induction run with
  | nil => exact .inl ⟨hc, by simp⟩
  | @snoc hs m m' h run step ih =>
    rw [step.stored_eq] at hc
    obtain ⟨id, c', rfl, hkeep⟩ | ⟨id, rfl, hkeep⟩ | ⟨hw, hkeep⟩ := keep_cases m.cache.stored h
    · obtain rfl := Option.some.inj (hkeep.symm.trans hc)
      exact .inr ⟨hs, id, [], rfl, by simp⟩
    · cases hkeep.symm.trans hc
    · have old {xs : List Happening} (hall : ∀ x ∈ xs, x.writes = false) :
          ∀ x ∈ xs ++ [h], x.writes = false := List.forall_mem_append.2 ⟨hall, by simp [hw]⟩
      obtain ⟨hfirst, hall⟩ | ⟨before, id, after, rfl, hall⟩ := ih (hkeep.symm.trans hc)
      · exact .inl ⟨hfirst, old hall⟩
      · exact .inr ⟨before, id, after ++ [h], by simp, old hall⟩

/-- Nothing is stored from when it is thrown away until a fetch succeeds. -/
theorem Run.stored_eq_none {start m : Moment} {before after : List Happening} {id : Nat}
    (run : Run start (before ++ .granted (.invalidated id) :: after) m)
    (h : ∀ x ∈ after, x.isSuccess = false) : m.cache.stored = none := by
  rw [run.stored_eq, List.foldl_append, List.foldl_cons]
  generalize before.foldl keep start.cache.stored = stored
  show after.foldl keep none = none
  clear run
  induction after with
  | nil => rfl
  | cons x after ih =>
    obtain ⟨hx, hafter⟩ := List.forall_mem_cons.1 h
    have hkeep : keep none x = none := by
      obtain ⟨i, c, rfl, -⟩ | ⟨i, rfl, hkeep⟩ | ⟨-, hkeep⟩ := keep_cases none x
      · cases hx
      · exact hkeep
      · exact hkeep
    rw [List.foldl_cons, hkeep]
    exact ih hafter

/-! ## The caller that has the lock -/

/-- While a fetch is under way, it ends, or what happens does not concern the lock. -/
theorem Step.aside_or_ends {m m' : Moment} {h : Happening} {id : Nat} (step : Step m h m')
    (hn : m.cache.ids.Nodup) (hf : m.cache.fetching = some id) :
    (h.isAside = true ∧ m'.cache.fetching = some id) ∨ m'.cache.fetching = none := by
  cases step with
  | arrive _ => exact .inl ⟨rfl, hf⟩
  | grant hg => exact absurd (grant_cases hg).1 (by simp [hf])
  | complete _ => exact .inr (complete_fetching _ _)
  | leave hmem => exact .inl ⟨rfl, (leave_fetching hn hmem).trans hf⟩
  | abandon hf' => exact .inr (abandon_fetching hf')
  | setClock => exact .inl ⟨rfl, hf⟩

/-- The lock goes to a fetch only by the start of that fetch. -/
theorem Step.starts_of_free {m m' : Moment} {h : Happening} {id : Nat} (step : Step m h m')
    (hn : m.cache.ids.Nodup) (hfree : m.cache.fetching = none)
    (hf : m'.cache.fetching = some id) : ∃ expired, h = .granted (.fetches id expired) := by
  cases step with
  | arrive _ => exact absurd (hfree.symm.trans hf) nofun
  | grant hg =>
    obtain ⟨-, caller, rest, -, hcase⟩ := grant_cases hg
    obtain ⟨rfl, rfl⟩ | ⟨c, -, rfl, rfl⟩ | ⟨-, rfl, rfl⟩ := hcase
    · cases hf
    · cases hf
    · obtain rfl := Option.some.inj hf
      exact ⟨_, rfl⟩
  | complete hf' => simp [hfree] at hf'
  | leave hmem => exact absurd ((leave_fetching hn hmem).symm.trans hf) (by simp [hfree])
  | abandon hf' => simp [hfree] at hf'
  | setClock => exact absurd (hfree.symm.trans hf) nofun

theorem Run.fetching {start m : Moment} {hs : List Happening} {id : Nat} (run : Run start hs m)
    (hn : start.cache.ids.Nodup) (hfree : start.cache.fetching = none)
    (hf : m.cache.fetching = some id) : ∃ n, Fetching start hs id n m := by
  induction run with
  | nil => exact absurd (hfree.symm.trans hf) nofun
  | @snoc hs m m' h run step ih =>
    have hnodup := run.nodup_ids hn
    cases hbefore : m.cache.fetching with
    | none =>
      obtain ⟨expired, rfl⟩ := step.starts_of_free hnodup hbefore hf
      exact ⟨m, hs, expired, m', [], rfl, run, step, .nil, by simp⟩
    | some id' =>
      obtain ⟨haside, hf'⟩ | hfree' := step.aside_or_ends hnodup hbefore
      · obtain rfl : id' = id := Option.some.inj (hf'.symm.trans hf)
        obtain ⟨n, before, expired, n', after, rfl, hto, hstart, hafter, hall⟩ := ih hbefore
        refine ⟨n, before, expired, n', after ++ [h], by simp, hto, hstart, hafter.snoc step, ?_⟩
        exact List.forall_mem_append.2 ⟨hall, by simp [haside]⟩
      · exact absurd (hfree'.symm.trans hf) nofun

/-- What is stored does not change from the start of a fetch to its end. -/
theorem Fetching.stored_eq {start n m : Moment} {hs : List Happening} {id : Nat}
    (h : Fetching start hs id n m) : m.cache.stored = n.cache.stored := by
  obtain ⟨before, expired, n', after, -, -, hstart, hafter, hall⟩ := h
  refine Eq.trans ?_ hstart.stored_eq
  induction hafter with
  | nil => rfl
  | snoc _ step ih =>
    obtain ⟨hall, hlast⟩ := List.forall_mem_append.1 hall
    rw [step.stored_eq, keep_of_writes (writes_of_isAside (hlast _ (List.mem_singleton_self _)))]
    exact ih hall

/-- A caller that wants credentials and gets the lock when nothing is stored has to fetch. -/
theorem grant_of_stored_eq_none {cache cache' : Cache} {now : Instant} {g : Granted}
    {caller : CacheCaller} {rest : List CacheCaller} (h : cache.grant now = (cache', some g))
    (hline : cache.waiting = caller :: rest) (hr : caller.request = .credentials)
    (hnone : cache.stored = none) :
    g = .fetches caller.id false ∧ cache'.fetching = some caller.id := by
  have hfree := (grant_cases h).1
  have hgood : good? none now = none := rfl
  simp only [grant, hfree, hline, hr, hnone, hgood, Prod.mk.injEq, Option.some.injEq] at h
  exact ⟨h.2.symm, by rw [← h.1]⟩

/-! ## The answers -/

/-- In every run of an idle cache, a caller that did not fetch is served what is stored: the latest
of what fetches gave, or what was there at first, not thrown away since and good for more than ten
seconds. A caller that did fetch has the answer of the fetch that it started itself; what a
successful fetch gave is stored, and an error changes nothing from the start of the fetch on. Nor
does a caller that goes away, in the middle of its fetch or in line. From when the stored
credentials are thrown away until a fetch succeeds, whoever wants credentials and gets the lock has
to fetch. -/
theorem run_coherent {stored : Option Credentials} {now : Instant} {hs : List Happening}
    {m m' : Moment} {h : Happening} (run : Run ⟨holding stored, now⟩ hs m) (step : Step m h m') :
    (∀ id result, h.answer? = some (id, result) →
      (∃ c, h = .granted (.served id c) ∧ result = .ok c ∧ m.cache.stored = some c ∧
        m'.cache.stored = some c ∧ Latest stored hs c ∧
        ∀ e, c.expiration = some e → m.now.nanos + 10000000000 < e.nanos) ∨
      (h = .fetched id result ∧ ∃ n, Fetching ⟨holding stored, now⟩ hs id n m ∧
        (∀ c, result = .ok c → m'.cache.stored = some c) ∧
        ∀ e, result = .error e → m'.cache.stored = n.cache.stored)) ∧
    (∀ id, h = .abandoned id →
      ∃ n, Fetching ⟨holding stored, now⟩ hs id n m ∧ m'.cache.stored = n.cache.stored) ∧
    (∀ id, h = .left id → m'.cache.stored = m.cache.stored) ∧
    ∀ before id after, hs = before ++ .granted (.invalidated id) :: after →
      (∀ x ∈ after, x.isSuccess = false) →
      ∀ caller rest g, m.cache.waiting = caller :: rest → caller.request = .credentials →
        h = .granted g → g = .fetches caller.id false ∧ m'.cache.fetching = some caller.id := by
  have own {id : Nat} (hf : m.cache.fetching = some id) :
      ∃ n, Fetching ⟨holding stored, now⟩ hs id n m := run.fetching (by simp [ids_holding]) rfl hf
  refine ⟨fun id result hanswer => ?_, ?_, ?_, ?_⟩
  · cases h with
    | granted g =>
      cases g with
      | served i c =>
        obtain ⟨rfl, rfl⟩ := Prod.mk.inj (Option.some.inj hanswer)
        obtain ⟨hc, hgood⟩ := step.served_good
        exact .inl ⟨c, rfl, rfl, hc, step.stored_eq.trans hc, run.latest hc, hgood⟩
      | invalidated i => cases hanswer
      | fetches i expired => cases hanswer
    | fetched i r =>
      obtain ⟨rfl, rfl⟩ := Prod.mk.inj (Option.some.inj hanswer)
      have hstored := step.stored_eq
      cases step with | complete hf => ?_
      obtain ⟨n, hn⟩ := own hf
      refine .inr ⟨rfl, n, hn, ?_, ?_⟩
      · rintro c rfl
        exact hstored
      · rintro e rfl
        exact hstored.trans hn.stored_eq
    | _ => cases hanswer
  · rintro id rfl
    have hstored := step.stored_eq
    cases step with | abandon hf => ?_
    obtain ⟨n, hn⟩ := own hf
    exact ⟨n, hn, hstored.trans hn.stored_eq⟩
  · rintro id rfl
    exact step.stored_eq
  · rintro before id after rfl hall caller rest g hline hr rfl
    cases step with | grant hg => ?_
    exact grant_of_stored_eq_none hg hline hr (run.stored_eq_none hall)

/-- An invalidation waits behind a fetch. What the fetch gives is thrown away at once, so the caller
behind the invalidation has to fetch again, good as it was. -/
theorem invalidation_behind_a_fetch :
    let c := Credentials.longLived "AKIA" "secret" none .static
    let hs : List Happening := [.arrived ⟨0, .credentials⟩, .granted (.fetches 0 false),
      .arrived ⟨1, .invalidation⟩, .arrived ⟨2, .credentials⟩, .fetched 0 (.ok c),
      .granted (.invalidated 1)]
    ∃ m m', Run ⟨holding none, ⟨0⟩⟩ hs m ∧ Step m (.granted (.fetches 2 false)) m' ∧
      m.cache.stored = none ∧ m'.cache.fetching = some 2 := by
  intro c hs
  have run : Run ⟨holding none, ⟨0⟩⟩ hs ⟨⟨none, [⟨2, .credentials⟩], none⟩, ⟨0⟩⟩ :=
    .snoc (.snoc (.snoc (.snoc (.snoc (.snoc .nil
      (.arrive (by decide))) (.grant rfl)) (.arrive (by decide))) (.arrive (by decide)))
      (.complete rfl)) (.grant rfl)
  have step : Step ⟨⟨none, [⟨2, .credentials⟩], none⟩, ⟨0⟩⟩ (.granted (.fetches 2 false))
      ⟨⟨none, [], some 2⟩, ⟨0⟩⟩ := .grant rfl
  exact ⟨_, _, run, step, rfl, ((run_coherent run step).2.2.2 (hs.take 5) 1 [] rfl (by simp)
    ⟨2, .credentials⟩ [] _ rfl rfl rfl).2⟩

end AwsCredentials.Cache
