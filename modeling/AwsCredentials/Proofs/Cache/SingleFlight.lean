import AwsCredentials.Proofs.Cache.Run

/-!
# One fetch at a time

The lock is kept over a whole fetch, so whatever the callers do, at most one fetch is under way, and
a fetch only starts when there is nothing good to take. What lies between two starts is therefore a
reason to fetch again:

* `Since`: what can have become of a fetch while no other one was started, and `Since.step`, which
  carries it over whatever happens;
* `Undisturbed.all_served`: after a fetch that nothing disturbs, every caller is served what it
  gave;
* `run_single_flight`: all of it for the runs of an idle cache.
-/

namespace AwsCredentials.Cache

/-! ## Who gets the lock -/

theorem le_add_buffer {e now : Instant} :
    e ≤ now.add buffer ↔ e.nanos ≤ now.nanos + 10000000000 := Iff.rfl

theorem stale_iff {stored : Option Credentials} {now : Instant} :
    Stale stored now ↔ stored = none ∨ ∃ c e, stored = some c ∧ c.expiration = some e ∧
      e.nanos ≤ now.nanos + 10000000000 := by
  cases stored with
  | none => simp [Stale]
  | some c => simp [Stale, le_add_buffer]

theorem grant_fetches {cache cache' : Cache} {now : Instant} {id : Nat} {expired : Bool}
    (h : cache.grant now = (cache', some (.fetches id expired))) :
    cache.fetching = none ∧ Stale cache.stored now ∧ cache'.fetching = some id := by
  obtain ⟨hfree, caller, rest, -, ⟨hg, -⟩ | ⟨c, -, hg, -⟩ | ⟨hstale, hg, rfl⟩⟩ := grant_cases h
  · cases hg
  · cases hg
  · exact ⟨hfree, hstale, by rw [(Granted.fetches.inj hg).1]⟩

theorem Step.start_free {m m' : Moment} {id : Nat} {expired : Bool}
    (step : Step m (.granted (.fetches id expired)) m') : m.cache.fetching = none := by
  cases step with | grant hg => exact (grant_fetches hg).1

theorem Step.start_fetching {m m' : Moment} {id : Nat} {expired : Bool}
    (step : Step m (.granted (.fetches id expired)) m') : m'.cache.fetching = some id := by
  cases step with | grant hg => exact (grant_fetches hg).2.2

theorem Step.start_stale {m m' : Moment} {id : Nat} {expired : Bool}
    (step : Step m (.granted (.fetches id expired)) m') :
    m.cache.stored = none ∨ ∃ c e, m.cache.stored = some c ∧ c.expiration = some e ∧
      e.nanos ≤ m.now.nanos + 10000000000 := by
  cases step with | grant hg => exact stale_iff.1 (grant_fetches hg).2.1

theorem Step.served_good {m m' : Moment} {id : Nat} {c : Credentials}
    (step : Step m (.granted (.served id c)) m') :
    m.cache.stored = some c ∧ ∀ e, c.expiration = some e →
      m.now.nanos + 10000000000 < e.nanos := by
  cases step with | grant hg => ?_
  obtain ⟨-, caller, rest, -, ⟨h, -⟩ | ⟨c', hgood, h, -⟩ | ⟨-, h, -⟩⟩ := grant_cases hg
  · cases h
  · obtain ⟨-, rfl⟩ := Granted.served.inj h
    obtain ⟨hc, hgood⟩ := good?_eq_some_iff.1 hgood
    refine ⟨hc, fun e he => Int.not_le.1 fun hle => ?_⟩
    rw [expiredAt_eq_true_iff.2 ⟨e, he, le_add_buffer.2 hle⟩] at hgood
    cases hgood
  · cases h

/-! ## What follows a start -/

/-- What became of the fetch that the caller `id` started, if no other one was started since. -/
inductive Since (id : Nat) (hs : List Happening) (m : Moment) : Prop
  | underWay : m.cache.fetching = some id → Since id hs m
  | failed {e : Error} : .fetched id (.error e) ∈ hs → Since id hs m
  | abandoned : .abandoned id ∈ hs → Since id hs m
  | invalidated {i : Nat} : .granted (.invalidated i) ∈ hs → Since id hs m
  | stored {c : Credentials} : m.cache.fetching = none → .fetched id (.ok c) ∈ hs →
    m.cache.stored = some c → Since id hs m

/-- Whatever happens, but for another start, one of the cases holds again. -/
theorem Since.step {id : Nat} {hs : List Happening} {m m' : Moment} {h : Happening}
    (since : Since id hs m) (step : Step m h m') (hn : m.cache.ids.Nodup)
    (hstart : h.isStart = false) : Since id (hs ++ [h]) m' := by
  have old : ∀ {x}, x ∈ hs → x ∈ hs ++ [h] := List.mem_append_left _
  have new : h ∈ hs ++ [h] := List.mem_append_right _ (List.mem_singleton_self h)
  cases since with
  | failed he => exact .failed (old he)
  | abandoned ha => exact .abandoned (old ha)
  | invalidated hi => exact .invalidated (old hi)
  | underWay hf =>
    cases step with
    | arrive _ => exact .underWay hf
    | grant hg => exact absurd (grant_cases hg).1 (by simp [hf])
    | @complete id' result hf' =>
      obtain rfl : id = id' := Option.some.inj (hf.symm.trans hf')
      cases result with
      | ok c => exact .stored (complete_fetching _ _) new rfl
      | error e => exact .failed new
    | leave hmem => exact .underWay ((leave_fetching hn hmem).trans hf)
    | abandon hf' =>
      obtain rfl := Option.some.inj (hf.symm.trans hf')
      exact .abandoned new
    | setClock => exact .underWay hf
  | stored hfree hok hc =>
    cases step with
    | arrive _ => exact .stored hfree (old hok) hc
    | grant hg =>
      obtain ⟨-, caller, rest, -, hcase⟩ := grant_cases hg
      obtain ⟨rfl, rfl⟩ | ⟨c, -, rfl, rfl⟩ | ⟨-, rfl, rfl⟩ := hcase
      · exact .invalidated new
      · exact .stored rfl (old hok) hc
      · simp [Happening.isStart] at hstart
    | complete hf => simp [hfree] at hf
    | leave hmem => exact .stored ((leave_fetching hn hmem).trans hfree) (old hok) hc
    | abandon hf => simp [hfree] at hf
    | setClock => exact .stored hfree (old hok) hc

theorem Run.since {id : Nat} {start m : Moment} {hs : List Happening} (run : Run start hs m)
    (hn : start.cache.ids.Nodup) (hf : start.cache.fetching = some id)
    (hstart : ∀ h ∈ hs, h.isStart = false) : Since id hs m := by
  induction run with
  | nil => exact .underWay hf
  | snoc run step ih =>
    rw [List.forall_mem_append] at hstart
    exact (ih hstart.1).step step (run.nodup_ids hn) (hstart.2 _ (List.mem_singleton_self _))

/-- The fetch of the caller `id`, which is under way at the start, gives `c`, and `c` is good
whenever the lock is given; nobody abandons the fetch or throws `c` away. -/
structure Undisturbed (start : Moment) (id : Nat) (c : Credentials) (hs : List Happening) : Prop where
  succeeds : ∀ result, .fetched id result ∈ hs → result = .ok c
  stays : .abandoned id ∉ hs
  kept : ∀ i, .granted (.invalidated i) ∉ hs
  good : ∀ before g after m, hs = before ++ .granted g :: after → Run start before m →
    c.expiredAt m.now buffer = false

/-- An undisturbed fetch serves every caller that gets the lock. -/
theorem Undisturbed.all_served {id : Nat} {start m : Moment} {c : Credentials}
    {hs : List Happening} (run : Run start hs m) (h : Undisturbed start id c hs)
    (hn : start.cache.ids.Nodup) (hf : start.cache.fetching = some id) :
    ∀ g, .granted g ∈ hs → ∃ i, g = .served i c := by
  induction run with
  | nil => simp
  | @snoc hs m m' last run step ih =>
    have served := ih ⟨fun r hr => h.succeeds r (List.mem_append_left _ hr),
      fun ha => h.stays (List.mem_append_left _ ha), fun i hi => h.kept i (List.mem_append_left _ hi),
      fun before g after mid he => h.good before g (after ++ [last]) mid (by simp [he])⟩
    intro g hg
    rcases List.mem_append.1 hg with hmem | hlast
    · exact served g hmem
    obtain rfl := List.mem_singleton.1 hlast
    -- the lock is given at `m`, where no caller before has started a fetch
    have hstart : ∀ x ∈ hs, x.isStart = false := by
      intro x hx
      cases x with
      | granted g' => obtain ⟨i, rfl⟩ := served g' hx; rfl
      | _ => rfl
    cases step with | grant hgrant => ?_
    obtain ⟨hfree, caller, rest, -, hcase⟩ := grant_cases hgrant
    have hgood := h.good hs g [] m rfl run
    cases run.since hn hf hstart with
    | underWay hw => simp [hfree] at hw
    | failed he => simpa using h.succeeds _ (List.mem_append_left _ he)
    | abandoned ha => exact absurd (List.mem_append_left _ ha) h.stays
    | invalidated hi => exact absurd (List.mem_append_left _ hi) (h.kept _)
    | stored _ hok hc =>
      obtain rfl := Except.ok.inj (h.succeeds _ (List.mem_append_left _ hok))
      have hsome := good?_eq_some_iff.2 ⟨hc, hgood⟩
      obtain ⟨rfl, -⟩ | ⟨c', hc', rfl, -⟩ | ⟨hstale, -, -⟩ := hcase
      · exact absurd hg (h.kept _)
      · exact ⟨caller.id, by rw [Option.some.inj (hc'.symm.trans hsome)]⟩
      · simp [good?_eq_none_iff.2 hstale] at hsome

/-- In every run of an idle cache at most one fetch is under way. A fetch starts only when nothing is
stored or what is stored ends within ten seconds, and what is taken from the cache does not. Between
two starts the first fetch failed or was abandoned, or the stored credentials were thrown away, or
they came within ten seconds of their end. An undisturbed fetch is the only one, however many
callers get the lock after it. -/
theorem run_single_flight {stored : Option Credentials} {now : Instant} {hs : List Happening}
    {m : Moment} (run : Run ⟨holding stored, now⟩ hs m) :
    (underWay hs).length ≤ 1 ∧
    (∀ id c m', Step m (.granted (.served id c)) m' →
      m.cache.stored = some c ∧ ∀ e, c.expiration = some e →
        m.now.nanos + 10000000000 < e.nanos) ∧
    ∀ id expired m', Step m (.granted (.fetches id expired)) m' →
      (m.cache.stored = none ∨ ∃ c e, m.cache.stored = some c ∧ c.expiration = some e ∧
        e.nanos ≤ m.now.nanos + 10000000000) ∧
      ∀ since n, Run m' since n →
        (∀ id' expired' n', (∀ h ∈ since, h.isStart = false) →
          Step n (.granted (.fetches id' expired')) n' →
          (∃ e, .fetched id (.error e) ∈ since) ∨ .abandoned id ∈ since ∨
            (∃ i, .granted (.invalidated i) ∈ since) ∨
            ∃ c e, .fetched id (.ok c) ∈ since ∧ n.cache.stored = some c ∧
              c.expiration = some e ∧ e.nanos ≤ n.now.nanos + 10000000000) ∧
        ∀ c, Undisturbed m' id c since →
          (.granted (.fetches id expired) :: since).countP Happening.isStart = 1 ∧
            ∀ g, .granted g ∈ since → ∃ i, g = .served i c := by
  have hn : m.cache.ids.Nodup := run.nodup_ids (by simp [ids_holding])
  refine ⟨?_, fun id c m' step => ?_, fun id expired m' step => ⟨?_, fun since n run' => ⟨?_, ?_⟩⟩⟩
  · rw [run.underWay_eq (by simp [ids_holding]) rfl]
    exact Option.length_toList_le
  · exact step.served_good
  · exact step.start_stale
  · intro id' expired' n' hstart step'
    have hn' := step.nodup_ids hn
    cases run'.since hn' step.start_fetching hstart with
    | underWay hw => exact absurd step'.start_free (by simp [hw])
    | failed he => exact .inl ⟨_, he⟩
    | abandoned ha => exact .inr (.inl ha)
    | invalidated hi => exact .inr (.inr (.inl ⟨_, hi⟩))
    | stored _ hok hc =>
      obtain hnone | ⟨c, e, hc', he, hle⟩ := step'.start_stale
      · simp [hc] at hnone
      · obtain rfl := Option.some.inj (hc.symm.trans hc')
        exact .inr (.inr (.inr ⟨_, e, hok, hc, he, hle⟩))
  · intro c h
    have served := h.all_served run' (step.nodup_ids hn) step.start_fetching
    refine ⟨?_, served⟩
    rw [List.countP_cons, List.countP_eq_zero.2]
    · rfl
    · intro x hx
      cases x with
      | granted g => obtain ⟨i, rfl⟩ := served g hx; simp [Happening.isStart]
      | _ => simp [Happening.isStart]

/-- Two callers come to an empty cache; the first one fetches, and both have what it fetched. -/
theorem two_callers_share_a_fetch :
    let c := Credentials.longLived "AKIA" "secret" none .static
    let fetching : Moment := ⟨⟨none, [⟨1, .credentials⟩], some 0⟩, ⟨0⟩⟩
    ∃ m n, Run ⟨holding none, ⟨0⟩⟩ [.arrived ⟨0, .credentials⟩, .arrived ⟨1, .credentials⟩] m ∧
      Step m (.granted (.fetches 0 false)) fetching ∧
      Run fetching [.fetched 0 (.ok c), .granted (.served 1 c)] n ∧
      Undisturbed fetching 0 c [.fetched 0 (.ok c), .granted (.served 1 c)] ∧
      [.granted (.fetches 0 false), .fetched 0 (.ok c), .granted (.served 1 c)].countP
        Happening.isStart = 1 := by
  intro c fetching
  have run : Run ⟨holding none, ⟨0⟩⟩ [.arrived ⟨0, .credentials⟩, .arrived ⟨1, .credentials⟩]
      ⟨⟨none, [⟨0, .credentials⟩, ⟨1, .credentials⟩], none⟩, ⟨0⟩⟩ :=
    .snoc (.snoc .nil (.arrive (by decide))) (.arrive (by decide))
  have start : Step ⟨⟨none, [⟨0, .credentials⟩, ⟨1, .credentials⟩], none⟩, ⟨0⟩⟩
      (.granted (.fetches 0 false)) fetching := .grant rfl
  have run' : Run fetching [.fetched 0 (.ok c), .granted (.served 1 c)] ⟨holding (some c), ⟨0⟩⟩ :=
    .snoc (.snoc .nil (.complete rfl)) (.grant rfl)
  have calm : Undisturbed fetching 0 c [.fetched 0 (.ok c), .granted (.served 1 c)] :=
    ⟨by simp, by simp, by simp, fun _ _ _ _ _ _ => rfl⟩
  exact ⟨_, _, run, start, run', calm,
    (((run_single_flight run).2.2 _ _ _ start).2 _ _ run').2 c calm |>.1⟩

end AwsCredentials.Cache
