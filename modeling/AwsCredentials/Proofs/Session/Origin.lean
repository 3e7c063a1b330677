import AwsCredentials.Proofs.Cache.Coherence
import AwsCredentials.Proofs.Chain.Issued
import AwsCredentials.Proofs.Secrecy.Flow

/-!
# Where credentials come from and whether they end

Credentials that are issued for a role end, and those that were written down never do. A session
that starts with written ones keeps them: whatever the clock shows, they are handed out again, and
nothing is called.

* `Cache.Run.rests`: a cache that holds credentials without an end serves them to every caller, as
  long as no one throws them away;
* `Session.use_of_endless`: so does a session, in whatever way it is used;
* `Session.origin_tells_end`: what the origin tells of credentials that are fetched, and of a session.
-/

namespace AwsCredentials

open AwsCredentials.Task (Makes)

variable {c : Credentials}

/-! ## Credentials without an end in the cache -/

namespace Cache

/-- Whether a cache holds some credentials and nobody fetches others. -/
structure Rests (cache : Cache) (c : Credentials) : Prop where
  stored : cache.stored = some c
  free : cache.fetching = none

theorem good?_of_endless (hc : c.expiration = none) (now : Instant) :
    good? (some c) now = some c := by
  have hnot : c.expiredAt now buffer = false := by simp [Credentials.expiredAt, hc]
  exact good?_eq_some_iff.2 ⟨rfl, hnot⟩

/-- Whatever happens but an invalidation, the cache rests, no fetch starts, and a caller that is
answered has the credentials. -/
theorem Step.rests {m m' : Moment} {h : Happening} (step : Step m h m')
    (hc : c.expiration = none) (hm : m.cache.Rests c)
    (hkeep : ∀ id, h ≠ .granted (.invalidated id)) :
    m'.cache.Rests c ∧ h.isStart = false ∧
      ∀ id result, h.answer? = some (id, result) → result = .ok c := by
  have free {id : Nat} (hf : m.cache.fetching = some id) : False := by
    rw [hm.free] at hf
    cases hf
  cases step with
  | arrive _ => exact ⟨⟨hm.stored, hm.free⟩, rfl, by rintro _ _ ⟨⟩⟩
  | grant hg =>
    obtain ⟨-, caller, rest, -, hcase⟩ := grant_cases hg
    obtain ⟨rfl, -⟩ | ⟨c', hgood, rfl, rfl⟩ | ⟨hstale, -, -⟩ := hcase
    · exact absurd rfl (hkeep _)
    · rw [hm.stored, good?_of_endless hc] at hgood
      obtain rfl := Option.some.inj hgood
      refine ⟨⟨hm.stored, rfl⟩, rfl, fun id result hanswer => ?_⟩
      exact (Prod.mk.inj (Option.some.inj hanswer)).2.symm
    · -- a fetch only starts when what is stored has an end
      obtain ⟨e, he, -⟩ := hstale c hm.stored
      rw [hc] at he
      cases he
  | complete hf => exact (free hf).elim
  | @leave id _ =>
    have hfree : (m.cache.leave id).fetching = none := by simp [Cache.leave, hm.free]
    exact ⟨⟨hm.stored, hfree⟩, rfl, by rintro _ _ ⟨⟩⟩
  | abandon hf => exact (free hf).elim
  | setClock => exact ⟨⟨hm.stored, hm.free⟩, rfl, by rintro _ _ ⟨⟩⟩

theorem Run.rests {start m : Moment} {hs : List Happening} (run : Run start hs m)
    (hc : c.expiration = none) (hstart : start.cache.Rests c)
    (hkeep : ∀ h ∈ hs, ∀ id, h ≠ .granted (.invalidated id)) :
    m.cache.Rests c ∧ ∀ h ∈ hs, h.isStart = false ∧
      ∀ id result, h.answer? = some (id, result) → result = .ok c := by
  induction run with
  | nil => exact ⟨hstart, List.forall_mem_nil _⟩
  | snoc _ step ih =>
    obtain ⟨hbefore, hlast⟩ := List.forall_mem_append.1 hkeep
    obtain ⟨hm, hall⟩ := ih hbefore
    obtain ⟨hm', hanswers⟩ := step.rests hc hm (hlast _ (List.mem_singleton_self _))
    exact ⟨hm', List.forall_mem_append.2 ⟨hall, List.forall_mem_singleton.2 hanswers⟩⟩

end Cache

/-! ## Credentials without an end in a session -/

/-- Whether a move asks for credentials. -/
def SessionMove.asks : SessionMove → Bool
  | .credentials _ => true
  | .clock _ => false

namespace Session

variable {σ : Type} {s : Session}

theorem run_credentials_of_endless (hcache : s.cache = .holding (some c))
    (hc : c.expiration = none) (host : Host Services σ) (deadline : Option Nat)
    (w : World Services σ) :
    s.credentials.run host deadline w = (some (s, some (.ok c)), w) := by
  have hgrant : (s.cache.arrive ⟨0, .credentials⟩).grant w.clock =
      (s.cache, some (.served 0 c)) := by
    have hgood : Cache.good? (some c) w.clock = some c := Cache.good?_of_endless hc _
    simp [hcache, Cache.arrive, Cache.grant, Cache.holding, hgood]
  have hget : (s.cache.get (s.settings.fetch s.retry)).run host deadline w =
      (some (s.cache, some (.ok c)), w) := by
    have hnow : (Task.now : ServiceTask Instant).run host deadline w = (some w.clock, w) := rfl
    refine (Task.run_bind host deadline _ _ w).trans ?_
    rw [hnow]
    dsimp only
    rw [hgrant]
    rfl
  refine (Task.run_bind host deadline _ _ w).trans ?_
  rw [hget]
  rfl

/-- A session with credentials that do not end hands them out each time, and leaves the world as it
is but for the clock. -/
theorem use_of_endless (hcache : s.cache = .holding (some c)) (hc : c.expiration = none)
    (host : Host Services σ) (moves : List SessionMove) (w : World Services σ) :
    ∃ now, s.use host moves w =
      (List.replicate (moves.countP SessionMove.asks) (some (.ok c)), { w with clock := now }) := by
  induction moves generalizing w with
  | nil => exact ⟨w.clock, rfl⟩
  | cons move rest ih =>
    cases move with
    | clock now =>
      obtain ⟨now', hrest⟩ := ih { w with clock := now }
      have hcount : (SessionMove.clock now :: rest).countP SessionMove.asks =
          rest.countP SessionMove.asks := List.countP_cons_of_neg Bool.false_ne_true
      exact ⟨now', by rw [hcount]; exact hrest⟩
    | credentials deadline =>
      obtain ⟨now, hrest⟩ := ih w
      have hcount : (SessionMove.credentials deadline :: rest).countP SessionMove.asks =
          rest.countP SessionMove.asks + 1 := List.countP_cons_of_pos rfl
      refine ⟨now, ?_⟩
      rw [use, run_credentials_of_endless hcache hc, hcount, List.replicate_succ]
      simp only [hrest]

end Session

/-! ## What the origin tells -/

/-- The base and the roles are all that it takes to fetch credentials. -/
theorem Settings.makes_fetch_of_roles {s : Settings} {retry : RetryPolicy} {c₀ : Credentials}
    {base roles : List (Answered Services)} {r : Except Error Credentials}
    (hbase : Makes (s.base retry).run base (.ok c₀))
    (hroles : Makes (retry.assumeRoles c₀ s.chainRoles).run roles r) :
    Makes (s.fetch retry).run (base ++ roles) r := by
  rw [Task.makes_iff_of_quiet (s.quiet_fetch retry)]
  exact Attempt.makes_bind_iff.2 (.inl ⟨base, c₀, roles, hbase, hroles, rfl⟩)

theorem DelegatesAsDefault.mono {cs cs' : List (Answered Services)} (h : DelegatesAsDefault cs)
    (hsub : cs' ⊆ cs) : DelegatesAsDefault cs' :=
  fun source c hmem => h source c (hsub hmem)

namespace Session

/-- A session starts with what was fetched, and tells the origin of that. -/
theorem exists_given_of_makes_resolve {config : Config} {env : Environment}
    {given : Option RetryPolicy} {cs : List (Answered Services)} {session : Session}
    (h : Makes (resolve config env given).run cs (.ok session)) (hdelegates : DelegatesAsDefault cs) :
    ∃ fetched c, Given fetched c ∧ session.cache = .holding (some c) ∧ session.origin = c.origin := by
  obtain ⟨e, -, -, he⟩ | ⟨s, st, -, hstaged, rfl⟩ := makes_resolve h
  · cases he
  generalize hr : (.ok session : Except Error Session) = r at hstaged
  cases hstaged with
  | base => cases hr
  | roles => cases hr
  | owner => cases hr
  | @account base roles owner users lists c₀ c caller lookup hbase hroles =>
    cases hr
    have hsub : base ++ roles ⊆ base ++ roles ++ owner ++ users ++ lists := by
      simp only [List.append_assoc]
      exact List.append_subset.2 ⟨List.subset_append_left _ _, by simp⟩
    have hfetch := Settings.makes_fetch_of_roles hbase hroles
    exact ⟨_, c, Settings.given_of_makes_fetch hfetch (hdelegates.mono hsub), rfl, rfl⟩

/-- Let delegate sources give credentials of the default chain only. Whenever credentials are
fetched, their origin is a role exactly if something was issued for one meanwhile, and they are what
was issued last. If their origin is one of those that were written down, nothing was called, and they
have neither an end nor a principal. A session of such an origin hands out the credentials that it
starts with each time it is asked, whatever the clock shows, and leaves all but the clock as it is.
This goes for any callers of its cache at once, in line or gone, until one of them throws the
credentials away: no fetch starts, and whoever is answered has those credentials. A run that is cut
off makes such calls as far as it comes. -/
theorem origin_tells_end (s : Settings) (retry : RetryPolicy) (config : Config) (env : Environment)
    (given : Option RetryPolicy) :
    (∀ cs c, Makes (s.fetch retry).run cs (.ok c) → DelegatesAsDefault cs →
      (c.origin.isRoleDerived = true ↔ issuedBy cs ≠ []) ∧
      (∀ issued, (issuedBy cs).getLast? = some issued → c.Carries issued) ∧
      (c.origin.isLongLived = true → cs = [] ∧ c.expiration = none ∧ c.principalArn = none)) ∧
    (∀ cs session, Makes (resolve config env given).run cs (.ok session) →
      DelegatesAsDefault cs → session.origin.isLongLived = true →
      ∃ c, session.cache = .holding (some c) ∧ c.origin = session.origin ∧
        (∀ {σ : Type} (host : Host Services σ) (moves : List SessionMove) (w : World Services σ),
          ∃ now, session.use host moves w =
            (List.replicate (moves.countP SessionMove.asks) (some (.ok c)),
              { w with clock := now })) ∧
        ∀ now hs m, Cache.Run ⟨session.cache, now⟩ hs m →
          (∀ h ∈ hs, ∀ id, h ≠ .granted (.invalidated id)) →
          ∀ h ∈ hs, h.isStart = false ∧
            ∀ id result, h.answer? = some (id, result) → result = .ok c) ∧
    ∀ {σ : Type} (host : Host Services σ) (deadline : Option Nat) (w : World Services σ),
      (∃ cs r, Makes (s.fetch retry).run cs r ∧ Task.AnsweredBy host cs ∧
        Task.RunsAlong host deadline (s.fetch retry).run w cs r) ∧
      ∃ cs r, Makes (resolve config env given).run cs r ∧ Task.AnsweredBy host cs ∧
        Task.RunsAlong host deadline (resolve config env given).run w cs r := by
  refine ⟨fun cs c h hdelegates => ?_, fun cs session h hdelegates horigin => ?_,
    fun host deadline w => ⟨Task.exists_makes_of_run host deadline _ w,
      Task.exists_makes_of_run host deadline _ w⟩⟩
  · have hgiven := Settings.given_of_makes_fetch h hdelegates
    refine ⟨hgiven.isRoleDerived_iff, fun issued => hgiven.carries, fun horigin => ?_⟩
    obtain ⟨hcalls, hlong⟩ := hgiven.longLived horigin
    exact ⟨hcalls, hlong.expiration, hlong.principalArn⟩
  · obtain ⟨fetched, c, hgiven, hcache, ho⟩ := exists_given_of_makes_resolve h hdelegates
    rw [ho] at horigin
    obtain ⟨-, hlong⟩ := hgiven.longLived horigin
    refine ⟨c, hcache, ho.symm, use_of_endless hcache hlong.expiration, ?_⟩
    intro now hs m run hkeep
    have hrests : session.cache.Rests c := by
      rw [hcache]
      exact ⟨rfl, rfl⟩
    exact (run.rests hlong.expiration hrests hkeep).2

/-- Written keys are kept as long as time lasts. Credentials of the default chain, which a role is
assumed with, give way to what is issued. -/
theorem written_keys_are_kept :
    let config : Config :=
      { accessKey := some "AKIA", secretKey := some "secret", skipValidation := true
        skipAccountLookup := true }
    let s : Settings := { (default : Settings) with roles := [{ arn := "a" }] }
    let host := confiding "secret"
    let w : World Services Unit := .start () ⟨0⟩ fun _ => .error .notFound
    (∃ cs session c now, Makes (resolve config ⟨[], none⟩ none).run cs (.ok session) ∧
      c.origin = .static ∧
      session.use host [.credentials none, .clock ⟨1000000000000000000⟩, .credentials (some 0)] w =
        ([some (.ok c), some (.ok c)], { w with clock := now })) ∧
    ∃ cs c, Makes (s.fetch (.ofAttempts 1)).run cs (.ok c) ∧ cs.length = 2 ∧
      c.origin = .assumeRole ∧ issuedBy cs ≠ [] := by
  intro config s host w
  -- of what the services answer, only the default chain is a delegate source's
  have delegates {cs : List (Answered Services)} (hby : Task.AnsweredBy host cs) :
      DelegatesAsDefault cs := by
    intro source c hmem
    obtain ⟨now, state, hanswer⟩ := hby _ hmem
    cases hanswer
    rfl
  obtain ⟨hfetched, hkept, hrun⟩ :=
    origin_tells_end s (.ofAttempts 1) config ⟨[], none⟩ none
  obtain ⟨⟨cs, r, hmakes, hby, made, hmade, -, hend⟩, cs', r', hmakes', hby', made', -, -, hend'⟩ :=
    hrun host none w
  refine ⟨?_, ?_⟩
  · have horigin : ((resolve config ⟨[], none⟩ none).run.run host none w).1.map
        (Except.map Session.origin) = some (.ok .static) := by decide +kernel
    obtain ⟨e | session, hresult, hsession⟩ := Option.map_eq_some_iff.1 horigin
    · cases hsession
    obtain ⟨rfl, -⟩ := hend' _ hresult
    have hstatic : session.origin = .static := Except.ok.inj hsession
    obtain ⟨c, -, hc, huse, -⟩ := hkept cs' session hmakes' (delegates hby') (by rw [hstatic]; rfl)
    obtain ⟨now, hnow⟩ := huse host _ w
    exact ⟨cs', session, c, now, hmakes', hc.trans hstatic, hnow⟩
  · let c : Credentials := ⟨"a", "secret", some "secret", some ⟨0⟩, .assumeRole, none⟩
    obtain ⟨rfl, hops⟩ := hend (.ok c) (by decide +kernel)
    have hlength : cs.length = 2 := by
      have hcalls := congrArg List.length hmade
      simp only [hops, List.length_map, List.length_append] at hcalls
      exact (Nat.zero_add _).symm.trans (hcalls.symm.trans (by decide +kernel))
    exact ⟨cs, c, hmakes, hlength, rfl, (hfetched cs c hmakes (delegates hby)).1.1 rfl⟩

end Session

end AwsCredentials
