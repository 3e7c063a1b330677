import AwsCredentials.Proofs.Chain.Base
import AwsCredentials.Proofs.Session.Identity
import AwsCredentials.Proofs.Settings.Layers

/-!
# The stages of a resolution

A resolution asks for the base, assumes the roles, asks for the owner and looks for the account, in
this order. `Stages` holds its calls stage by stage, and `Staged` says how far it came: a stage that
fails is the last one, but for the account, whose failure is kept in the session.

* `makes_resolveWith`: every resolution goes through the stages;
* `Staged.ordered`: which calls the stages hold;
* `Staged.error_cases`: where an error may come from;
* `resolve_in_stages`: the stages of a whole resolution, and what a session tells of them.
-/

namespace AwsCredentials

open AwsCredentials.Task (Makes)

/-- The calls of a resolution stage by stage. -/
structure Stages where
  base : List (Answered Services)
  roles : List (Answered Services)
  /-- The credentials after all roles, if it came so far. -/
  final : Option Credentials
  owner : List (Answered Services)
  users : List (Answered Services)
  lists : List (Answered Services)

/-- All calls in their order. -/
def Stages.calls (st : Stages) : List (Answered Services) :=
  st.base ++ st.roles ++ st.owner ++ st.users ++ st.lists

variable {s : Settings} {retry : RetryPolicy} {st : Stages} {r : Except Error Session}

/-- Whether settings lead through some stages to a result. -/
inductive Staged (s : Settings) (retry : RetryPolicy) : Stages → Except Error Session → Prop
  /-- There is no base. -/
  | base {base : List (Answered Services)} {e : Error} :
    Makes (s.base retry).run base (.error e) →
    Staged s retry ⟨base, [], none, [], [], []⟩ (.error e)
  /-- A role fails. -/
  | roles {base roles : List (Answered Services)} {c₀ : Credentials} {e : Error} :
    Makes (s.base retry).run base (.ok c₀) →
    Makes (retry.assumeRoles c₀ s.chainRoles).run roles (.error e) →
    Staged s retry ⟨base, roles, none, [], [], []⟩ (.error e)
  /-- The owner is not told. -/
  | owner {base roles owner : List (Answered Services)} {c₀ c : Credentials} {e : Error} :
    Makes (s.base retry).run base (.ok c₀) →
    Makes (retry.assumeRoles c₀ s.chainRoles).run roles (.ok c) →
    Makes (Session.validate s retry c).run owner (.error e) →
    Staged s retry ⟨base, roles, some c, owner, [], []⟩ (.error e)
  /-- There is a session, whatever the account. -/
  | account {base roles owner users lists : List (Answered Services)} {c₀ c : Credentials}
    {caller : Option CallerIdentity} {lookup : AccountLookup} :
    Makes (s.base retry).run base (.ok c₀) →
    Makes (retry.assumeRoles c₀ s.chainRoles).run roles (.ok c) →
    Makes (Session.validate s retry c).run owner (.ok caller) →
    Makes (retry.findAccount c s.region caller s.skipAccountLookup) (users ++ lists) lookup →
    (users = [] ∨ ∃ answer, Tried (Answered.getUser c) users answer) →
    (lists = [] ∨ ∃ answer, Tried (Answered.listRoles c) lists answer) →
    Staged s retry ⟨base, roles, some c, owner, users, lists⟩ (.ok {
      settings := s, retry, cache := .holding (some c), origin := c.origin
      account := lookup.account, caller, accountError := lookup.incomplete })

/-- Credentials that are fetched come from the base and the roles. -/
theorem Settings.makes_fetch {cs : List (Answered Services)} {r : Except Error Credentials}
    (h : Makes (s.fetch retry).run cs r) :
    (∃ e, Makes (s.base retry).run cs (.error e) ∧ r = .error e) ∨
    ∃ base c₀ roles, Makes (s.base retry).run base (.ok c₀) ∧
      Makes (retry.assumeRoles c₀ s.chainRoles).run roles r ∧ cs = base ++ roles := by
  rw [Task.makes_iff_of_quiet (s.quiet_fetch retry)] at h
  obtain ⟨base, c₀, roles, hbase, hroles, rfl⟩ | ⟨e, hbase, rfl⟩ := Attempt.makes_bind_iff.1 h
  · exact .inr ⟨base, c₀, roles, hbase, hroles, rfl⟩
  · exact .inl ⟨e, hbase, rfl⟩

namespace Session

/-- Every resolution goes through the stages. -/
theorem makes_resolveWith {cs : List (Answered Services)}
    (h : Makes (resolveWith s retry).run cs r) : ∃ st, Staged s retry st r ∧ cs = st.calls := by
  obtain ⟨cs₁, c, cs₂, hfetch, hrest, rfl⟩ | ⟨e, hfetch, rfl⟩ := Attempt.makes_bind_iff.1 h
  · obtain ⟨e, -, he⟩ | ⟨base, c₀, roles, hbase, hroles, rfl⟩ := Settings.makes_fetch hfetch
    · cases he
    obtain ⟨owner, caller, cs₃, howner, hend, rfl⟩ | ⟨e, howner, rfl⟩ :=
      Attempt.makes_bind_iff.1 hrest
    · obtain ⟨cs₄, lookup, cs₅, hlookup, hpure, rfl⟩ := Attempt.makes_ofTask_bind_iff.1 hend
      rw [Attempt.makes_note_bind_iff] at hpure
      obtain ⟨rfl, rfl⟩ := Attempt.makes_pure_iff.1 hpure
      obtain ⟨users, lists, rfl, husers, hlists⟩ := RetryPolicy.makes_findAccount hlookup
      exact ⟨_, .account hbase hroles howner hlookup husers hlists, by simp [Stages.calls]⟩
    · exact ⟨_, .owner hbase hroles howner, by simp [Stages.calls]⟩
  · obtain ⟨e', hbase, he⟩ | ⟨base, c₀, roles, hbase, hroles, rfl⟩ := Settings.makes_fetch hfetch
    · cases he
      exact ⟨_, .base hbase, by simp [Stages.calls]⟩
    · exact ⟨_, .roles hbase hroles, by simp [Stages.calls]⟩

end Session

/-! ## The calls of the stages -/

/-- Whether the stages hold the calls that belong there. After the roles all of them are signed with
the final credentials. -/
structure Stages.Ordered (s : Settings) (st : Stages) : Prop where
  base : ∀ x ∈ st.base, s.deciding.Calls x.op ∧
    ∀ signer request, x.op ≠ ServiceCall.assumeRole signer request
  oneBase : ∀ x ∈ st.base, ∀ y ∈ st.base, x.op = y.op
  roles : ∀ x ∈ st.roles, ∃ signer request, x.op = ServiceCall.assumeRole signer request
  owner : ∀ x ∈ st.owner, ∃ c ∈ st.final, x.op = ServiceCall.getCallerIdentity c
  users : ∀ x ∈ st.users, ∃ c ∈ st.final, x.op = ServiceCall.getUser c
  lists : ∀ x ∈ st.lists, ∃ c ∈ st.final, x.op = ServiceCall.listRoles c 1

theorem op_of_assumeRoles {base : Credentials} {specs : List RoleSpec}
    {cs : List (Answered Services)} {r : Except Error Credentials}
    (h : Makes (retry.assumeRoles base specs).run cs r) :
    ∀ x ∈ cs, ∃ signer request, x.op = ServiceCall.assumeRole signer request := by
  obtain ⟨turns, rfl, hthread⟩ := RetryPolicy.makes_assumeRoles h
  intro x hx
  obtain ⟨t, ht, hx⟩ := List.mem_flatMap.1 hx
  exact (hthread.made t ht).op_eq x hx

theorem op_of_validate {c : Credentials} {cs : List (Answered Services)}
    {r : Except Error (Option CallerIdentity)} (h : Makes (Session.validate s retry c).run cs r) :
    ∀ x ∈ cs, x.op = ServiceCall.getCallerIdentity c := by
  have hcalls := Session.makes_validate h
  split at hcalls
  · simp [hcalls.1]
  · obtain ⟨answer, htried, -⟩ := hcalls
    exact htried.forall_mem fun _ => rfl

theorem op_of_tried {α : Type} {one : Except ApiError α → Answered Services} {op : Services.Op}
    {cs : List (Answered Services)} (h : cs = [] ∨ ∃ answer, Tried one cs answer)
    (hone : ∀ r, (one r).op = op) : ∀ x ∈ cs, x.op = op := by
  obtain rfl | ⟨answer, htried⟩ := h
  · simp
  · exact htried.forall_mem hone

theorem Staged.ordered (h : Staged s retry st r) : st.Ordered s := by
  cases h with
  | base hbase =>
    have hcalls := Settings.makes_base hbase
    exact ⟨hcalls.of_deciding, hcalls.same_op, by simp, by simp, by simp, by simp⟩
  | roles hbase hroles =>
    have hcalls := Settings.makes_base hbase
    exact ⟨hcalls.of_deciding, hcalls.same_op, op_of_assumeRoles hroles, by simp, by simp, by simp⟩
  | owner hbase hroles howner =>
    have hcalls := Settings.makes_base hbase
    exact ⟨hcalls.of_deciding, hcalls.same_op, op_of_assumeRoles hroles,
      fun x hx => ⟨_, rfl, op_of_validate howner x hx⟩, by simp, by simp⟩
  | account hbase hroles howner _ husers hlists =>
    have hcalls := Settings.makes_base hbase
    exact ⟨hcalls.of_deciding, hcalls.same_op, op_of_assumeRoles hroles,
      fun x hx => ⟨_, rfl, op_of_validate howner x hx⟩,
      fun x hx => ⟨_, rfl, op_of_tried husers (fun _ => rfl) x hx⟩,
      fun x hx => ⟨_, rfl, op_of_tried hlists (fun _ => rfl) x hx⟩⟩

/-! ## Errors -/

/-- Where an error comes from: it is found before anything is called, it is the answer of an outside
source, it is found in the request for a role, or it is what a failed call leads to. -/
theorem Staged.error_cases {e : Error} (h : Staged s retry st (.error e)) :
    (st.calls = [] ∧ e.isConfiguration = true) ∨
    (∃ source, Answered.outside source (.error e) ∈ st.calls) ∨
    (∃ role ∈ s.chainRoles, ∃ now, role.request now = .error e) ∨
    (st.calls ≠ [] ∧ e.isConfiguration = false ∧ e.kind ≠ .accountLookup) := by
  generalize hr : (.error e : Except Error Session) = r at h
  cases h with
  | account => cases hr
  | base hbase =>
    cases hr
    obtain ⟨rfl, he⟩ | ⟨source, hmem⟩ | ⟨hne, he⟩ := (Settings.makes_base hbase).error_cases
    · exact .inl ⟨rfl, he⟩
    · exact .inr (.inl ⟨source, by simpa [Stages.calls] using hmem⟩)
    · exact .inr (.inr (.inr ⟨by simpa [Stages.calls] using hne, he⟩))
  | roles hbase hroles =>
    cases hr
    obtain ⟨turns, rfl, hthread⟩ := RetryPolicy.makes_assumeRoles hroles
    obtain ⟨t, ht, hfails⟩ := hthread.fails e rfl
    have hmem : t ∈ turns := List.mem_of_getLast? ht
    -- a request may be refused after calls for the roles before it, a failed call is itself one
    obtain ⟨-, now, reason, hrefused, -⟩ | ⟨call, hanswer, rfl⟩ := hfails
    · have hrole : t.role ∈ s.chainRoles :=
        hthread.roles.subset (List.mem_map_of_mem hmem)
      exact .inr (.inr (.inl ⟨t.role, hrole, now, hrefused⟩))
    · have hne := (hthread.made t hmem).calls_ne_nil hanswer
      refine .inr (.inr (.inr ⟨fun hnil => hne ?_, rfl, nofun⟩))
      simp only [Stages.calls, List.append_eq_nil_iff, List.flatMap_eq_nil_iff] at hnil
      exact hnil.1.1.1.2 t hmem
  | owner hbase hroles howner =>
    cases hr
    have hcalls := Session.makes_validate howner
    split at hcalls
    · cases hcalls.2
    · obtain ⟨answer, htried, hanswer⟩ := hcalls
      cases answer with
      | ok caller => cases hanswer
      | error call =>
        cases hanswer
        refine .inr (.inr (.inr ⟨by simp [Stages.calls, htried.ne_nil], rfl, nofun⟩))

/-! ## Settling -/

theorem Settings.skipValidation_of_ofParts {config : Config} {env : Environment}
    {files : SharedFiles} (h : ofParts config env files = .ok s) :
    s.skipValidation = config.skipValidation := by
  obtain ⟨keys, attempts, useFips, useDualStack, -, rfl⟩ := exists_withFound_of_ofParts _ _ _ h
  rfl

theorem Settings.ofParts_of_makes_settled {config : Config} {env : Environment}
    {files : SharedFiles} {cs : List (Answered Services)}
    (h : Makes (settled config env files).run cs (.ok s)) : ofParts config env files = .ok s := by
  have of_rest {cs : List (Answered Services)} (h : Makes (Attempt.ofExcept (ofParts config env files)
      >>= fun s => Attempt.note s.summary >>= fun _ => pure s).run cs (.ok s)) :
      ofParts config env files = .ok s := by
    obtain ⟨s', hs', hrest⟩ | ⟨e, -, -, he⟩ := Attempt.makes_ofExcept_bind_iff.1 h
    · rw [Attempt.makes_note_bind_iff] at hrest
      obtain ⟨-, hs⟩ := Attempt.makes_pure_iff.1 hrest
      rw [hs', hs]
    · cases he
  unfold settled at h
  dsimp only at h
  split at h
  · exact of_rest (Attempt.makes_note_bind_iff.1 h)
  · exact of_rest h

theorem check_of_forM {specs : List RoleSpec} (h : specs.forM RoleSpec.check = .ok ()) :
    ∀ spec ∈ specs, spec.check = .ok () := by
  induction specs with
  | nil => simp
  | cons spec specs ih =>
    obtain ⟨⟨⟩, hspec, hspecs⟩ := exists_ok_of_bind h
    exact List.forall_mem_cons.2 ⟨hspec, ih hspecs⟩

namespace Session

variable {config : Config} {env : Environment} {cs : List (Answered Services)}

/-- Settled settings check the owner as the configuration says, and their roles have an ARN. -/
theorem of_makes_settle (h : Makes (settle config env).run cs (.ok s)) :
    s.skipValidation = config.skipValidation ∧ ∀ spec ∈ s.roles, spec.check = .ok () := by
  obtain ⟨cs₁, s', cs₂, hresolve, hcheck, rfl⟩ | ⟨e, -, he⟩ := Attempt.makes_bind_iff.1 h
  · obtain ⟨⟨⟩, hroles, hs⟩ | ⟨e, -, -, he⟩ := Attempt.makes_ofExcept_bind_iff.1 hcheck
    · rw [Attempt.makes_note_bind_iff] at hs
      obtain ⟨-, hs⟩ := Attempt.makes_pure_iff.1 hs
      obtain rfl := Except.ok.inj hs
      obtain ⟨cs₃, files, cs₄, -, hsettled, -⟩ | ⟨e, -, he⟩ := Attempt.makes_bind_iff.1 hresolve
      · exact ⟨Settings.skipValidation_of_ofParts (Settings.ofParts_of_makes_settled hsettled),
          check_of_forM hroles⟩
      · cases he
    · cases he
  · cases he

/-- Whether a configuration can settle with some result. No call is made. -/
def Settles (config : Config) (env : Environment) (r : Except Error Settings) : Prop :=
  Makes (settle config env : ServiceAttempt Settings).run [] r

/-- A resolution does not settle, or goes through the stages with settled settings. -/
theorem makes_resolve {given : Option RetryPolicy}
    (h : Makes (resolve config env given).run cs r) :
    (∃ e, Settles config env (.error e) ∧ cs = [] ∧ r = .error e) ∨
    ∃ s st, Settles config env (.ok s) ∧ Staged s (retryPolicy given s) st r ∧ cs = st.calls := by
  obtain ⟨cs₁, s, cs₂, hsettle, hresolve, rfl⟩ | ⟨e, hsettle, rfl⟩ := Attempt.makes_bind_iff.1 h
  · obtain ⟨rfl, -⟩ := silent_settle config env _ _ hsettle
    obtain ⟨st, hstaged, rfl⟩ := makes_resolveWith hresolve
    exact .inr ⟨s, st, hsettle, hstaged, rfl⟩
  · obtain ⟨rfl, -⟩ := silent_settle config env _ _ hsettle
    exact .inl ⟨e, hsettle, rfl, rfl⟩

end Session

/-! ## What the stages tell -/

namespace Staged

variable {e : Error} {session : Session}

/-- Where the owner is not to be asked for, no call asks for it. -/
theorem owner_eq_nil (h : Staged s retry st r) (hskip : s.skipValidation = true) :
    st.owner = [] := by
  have none_made {c : Credentials} {owner : List (Answered Services)}
      {r : Except Error (Option CallerIdentity)}
      (h : Makes (Session.validate s retry c).run owner r) : owner = [] := by
    have hcalls := Session.makes_validate h
    rw [if_pos hskip] at hcalls
    exact hcalls.1
  cases h with
  | base => rfl
  | roles => rfl
  | owner _ _ howner => exact none_made howner
  | account _ _ howner => exact none_made howner

/-- Once the account is looked for, there is a session. -/
theorem ok_of_account (h : Staged s retry st r) (hcalls : st.users ++ st.lists ≠ []) :
    ∃ session, r = .ok session := by
  cases h with
  | base => exact absurd rfl hcalls
  | roles => exact absurd rfl hcalls
  | owner => exact absurd rfl hcalls
  | account => exact ⟨_, rfl⟩

/-- A session starts with the final credentials, whose owner was told at last. -/
theorem of_ok (h : Staged s retry st (.ok session)) :
    ∃ c ∈ st.final, session.cache = .holding (some c) ∧
      (s.skipValidation = false →
        ∃ caller, st.owner.getLast? = some (Answered.getCallerIdentity c (.ok caller))) := by
  generalize hr : (.ok session : Except Error Session) = r at h
  cases h with
  | base => cases hr
  | roles => cases hr
  | owner => cases hr
  | @account base roles owner users lists c₀ c caller lookup _ _ howner =>
    cases hr
    refine ⟨c, rfl, rfl, fun hskip => ?_⟩
    have hcalls := Session.makes_validate howner
    rw [hskip, if_neg Bool.false_ne_true] at hcalls
    obtain ⟨answer, htried, hanswer⟩ := hcalls
    cases answer with
    | error e => cases hanswer
    | ok caller => exact ⟨caller, htried.getLast?⟩

end Staged

/-! ## The rule -/

namespace Session

/-- A resolution makes its calls stage by stage: each stage makes the calls that belong there, and a
stage that fails is the last one and its error the result. There is a session only if the owner was
told at last, or was not to be asked for, and then it is not asked for. All calls after the roles are
signed with the credentials that the session starts with. The account never fails: once it is looked
for there is a session, and no account error is returned but that of an outside source. A run that is
cut off makes such calls as far as it comes. -/
theorem resolve_in_stages (config : Config) (env : Environment) (given : Option RetryPolicy) :
    (∀ cs r, Makes (resolve config env given).run cs r →
      (∃ e, Settles config env (.error e) ∧ cs = [] ∧ r = .error e) ∨
      ∃ s st, Settles config env (.ok s) ∧ Staged s (retryPolicy given s) st r ∧
        cs = st.calls ∧ st.Ordered s ∧
        (config.skipValidation = true → st.owner = []) ∧
        (st.users ++ st.lists ≠ [] → ∃ session, r = .ok session) ∧
        ∀ session, r = .ok session → ∃ c ∈ st.final, session.cache = .holding (some c) ∧
          (config.skipValidation = false →
            ∃ caller, st.owner.getLast? = some (Answered.getCallerIdentity c (.ok caller)))) ∧
    (∀ cs es, Makes (resolve config env given).run cs (.error (.account es)) →
      ∃ source, Answered.outside source (.error (.account es)) ∈ cs) ∧
    ∀ {σ : Type} (host : Host Services σ) (deadline : Option Nat) (w : World Services σ),
      ∃ cs r, Makes (resolve config env given).run cs r ∧ Task.AnsweredBy host cs ∧
        Task.RunsAlong host deadline (resolve config env given).run w cs r := by
  refine ⟨fun cs r h => ?_, fun cs es h => ?_, fun host deadline w =>
    Task.exists_makes_of_run host deadline _ w⟩
  · obtain hfail | ⟨s, st, hsettle, hstaged, rfl⟩ := makes_resolve h
    · exact .inl hfail
    · have hskip := (of_makes_settle hsettle).1
      rw [← hskip]
      refine .inr ⟨s, st, hsettle, hstaged, rfl, hstaged.ordered, hstaged.owner_eq_nil,
        hstaged.ok_of_account, ?_⟩
      rintro session rfl
      exact hstaged.of_ok
  · obtain ⟨e, hsettle, -, he⟩ | ⟨s, st, -, hstaged, rfl⟩ := makes_resolve h
    · have early := (silent_settle config env _ _ hsettle).2
      rw [← Except.error.inj he] at early
      cases early _ rfl
    · obtain ⟨-, he⟩ | hanswer | ⟨role, -, now, hrefused⟩ | ⟨-, -, hkind⟩ := hstaged.error_cases
      · cases he
      · exact hanswer
      · obtain ⟨reason, he⟩ := RoleSpec.role_of_error hrefused
        cases he
      · exact absurd rfl hkind

/-- Where the owner is refused, the account is not looked for. -/
theorem refused_owner_ends_resolution :
    let config : Config := { accessKey := some "AKIA", secretKey := some "secret" }
    let e : Error := .validation ⟨"", .timeout, none, "", none⟩
    ∃ cs s st, Makes (resolve config ⟨[], none⟩ (some (.ofAttempts 1))).run cs (.error e) ∧
      cs.length = 1 ∧ Staged s (.ofAttempts 1) st (.error e) ∧ cs = st.calls ∧
      st.users ++ st.lists = [] := by
  intro config e
  obtain ⟨hstages, -, hrun⟩ := resolve_in_stages config ⟨[], none⟩ (some (.ofAttempts 1))
  obtain ⟨cs, r, hmakes, -, made, hmade, -, hend⟩ :=
    hrun (Settings.offering none) none (.start () ⟨0⟩ fun _ => .error .notFound)
  obtain ⟨rfl, rfl⟩ := hend (.error e) (by decide +kernel)
  have hlength : cs.length = 1 := by
    have hcalls := congrArg List.length hmade
    simp only [List.length_map, List.length_append] at hcalls
    exact (Nat.zero_add _).symm.trans (hcalls.symm.trans (by decide +kernel))
  obtain ⟨e', hsettle, rfl, -⟩ | ⟨s, st, -, hstaged, rfl, -, -, hok, -⟩ := hstages cs _ hmakes
  · cases hlength
  · refine ⟨_, s, st, hmakes, hlength, hstaged, rfl, ?_⟩
    by_contra hcalls
    obtain ⟨session, hsession⟩ := hok hcalls
    cases hsession

end Session

end AwsCredentials
