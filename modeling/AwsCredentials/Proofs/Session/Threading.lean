import AwsCredentials.Proofs.Chain.Walk
import AwsCredentials.Proofs.Session.Stages

/-!
# Credentials from role to role

What can be seen of a resolution up to the credentials that it ends with (`Settings.Threaded`): the
calls of the base, none of which assumes a role, and after them the turns of the roles, each signed
with what the turn before it was issued.

* `threaded_fetch`: credentials are fetched so, by a resolution and by every later refresh;
* `resolution_threads_roles`: where the roles come from, and that nothing follows a role that fails.
-/

namespace AwsCredentials

open AwsCredentials.Task (Makes)

namespace Settings

variable {s : Settings} {retry : RetryPolicy} {cs : List (Answered Services)}

/-- Whether some calls are those of a base, none of which assumes a role, and of the roles that are
assumed with it one after another, and what they come to. -/
inductive Threaded (s : Settings) (retry : RetryPolicy) :
    List (Answered Services) → Except Error Credentials → Prop
  | noBase {base : List (Answered Services)} {e : Error} :
    Makes (s.base retry).run base (.error e) →
    (∀ x ∈ base, ∀ signer request, x.op ≠ ServiceCall.assumeRole signer request) →
    Threaded s retry base (.error e)
  | turns {base : List (Answered Services)} {c : Credentials} {turns : List Turn}
    {r : Except Error Credentials} :
    Makes (s.base retry).run base (.ok c) →
    (∀ x ∈ base, ∀ signer request, x.op ≠ ServiceCall.assumeRole signer request) →
    Thread c s.chainRoles turns r →
    Threaded s retry (base ++ turns.flatMap Turn.calls) r

theorem threaded_of_noBase {e : Error} (h : Makes (s.base retry).run cs (.error e)) :
    s.Threaded retry cs (.error e) :=
  .noBase h fun x hx => ((makes_base h).of_deciding x hx).2

theorem threaded_of_base {base roles : List (Answered Services)} {c : Credentials}
    {r : Except Error Credentials} (hbase : Makes (s.base retry).run base (.ok c))
    (hroles : Makes (retry.assumeRoles c s.chainRoles).run roles r) :
    s.Threaded retry (base ++ roles) r := by
  obtain ⟨turns, rfl, hthread⟩ := RetryPolicy.makes_assumeRoles hroles
  exact .turns hbase (fun x hx => ((makes_base hbase).of_deciding x hx).2) hthread

theorem threaded_fetch {r : Except Error Credentials} (h : Makes (s.fetch retry).run cs r) :
    s.Threaded retry cs r := by
  obtain ⟨e, hbase, rfl⟩ | ⟨base, c, roles, hbase, hroles, rfl⟩ := makes_fetch h
  · exact threaded_of_noBase hbase
  · exact threaded_of_base hbase hroles

theorem exists_walk_of_planned? {plan : ProfilePlan} (h : s.planned? = some plan) :
    ∃ path, s.sharedFiles.Walk s.profileName path ∧
      plan.roles = (path.filterMap Profile.chainedRole?).reverse :=
  SharedFiles.exists_walk_of_plan (s.plan_of_profilePlan? (of_planned? h).2).1

end Settings

/-- After the roles no role is assumed. -/
theorem Stages.Ordered.later {s : Settings} {st : Stages} (h : st.Ordered s) :
    ∀ x ∈ st.owner ++ st.users ++ st.lists, ∀ signer request,
      x.op ≠ ServiceCall.assumeRole signer request := by
  intro x hx signer request hassume
  simp only [List.mem_append, or_assoc] at hx
  obtain hx | hx | hx := hx
  · obtain ⟨c, -, hop⟩ := h.owner x hx
    cases hop.symm.trans hassume
  · obtain ⟨c, -, hop⟩ := h.users x hx
    cases hop.symm.trans hassume
  · obtain ⟨c, -, hop⟩ := h.lists x hx
    cases hop.symm.trans hassume

/-- The first stages are threaded. Nothing follows a failure, and a session starts with what the
roles came to. -/
theorem Staged.threaded {s : Settings} {retry : RetryPolicy} {st : Stages}
    {r : Except Error Session} (h : Staged s retry st r) : ∃ fetched,
    s.Threaded retry (st.base ++ st.roles) fetched ∧
    (∀ e, fetched = .error e → st.owner ++ st.users ++ st.lists = [] ∧ r = .error e) ∧
    ∀ c session, fetched = .ok c → r = .ok session → session.cache = .holding (some c) := by
  cases h with
  | @base base e hbase =>
    have hthreaded : s.Threaded retry (base ++ []) (.error e) := by
      rw [List.append_nil]
      exact Settings.threaded_of_noBase hbase
    refine ⟨_, hthreaded, fun e' he => ?_, fun c session hc => ?_⟩
    · cases he
      exact ⟨rfl, rfl⟩
    · cases hc
  | roles hbase hroles =>
    refine ⟨_, Settings.threaded_of_base hbase hroles, fun e he => ?_, fun c session hc => ?_⟩
    · cases he
      exact ⟨rfl, rfl⟩
    · cases hc
  | owner hbase hroles =>
    refine ⟨_, Settings.threaded_of_base hbase hroles, fun e he => ?_, fun c session _ hr => ?_⟩
    · cases he
    · cases hr
  | account hbase hroles =>
    refine ⟨_, Settings.threaded_of_base hbase hroles, fun e he => ?_, fun c session hc hr => ?_⟩
    · cases he
    · cases hc
      cases hr
      rfl

namespace Session

/-- The roles that are assumed are those that the profiles of the plan name, the innermost first, and
those of the configuration. Whenever credentials are fetched, and so in every resolution, they are
assumed one after another, each with what the one before it was issued. A role that fails ends the
resolution with its error, and no other call assumes a role. A run that is cut off makes such calls as
far as it comes. -/
theorem resolution_threads_roles (s : Settings) (retry : RetryPolicy) :
    (∀ plan, s.planned? = some plan → s.chainRoles = plan.roles ++ s.roles ∧
      ∃ path, s.sharedFiles.Walk s.profileName path ∧
        plan.roles = (path.filterMap Profile.chainedRole?).reverse) ∧
    (s.planned? = none → s.chainRoles = s.roles) ∧
    (∀ cs r, Makes (s.fetch retry).run cs r → s.Threaded retry cs r) ∧
    (∀ cs r, Makes (resolveWith s retry).run cs r → ∃ found fetched rest,
      s.Threaded retry found fetched ∧ cs = found ++ rest ∧
      (∀ x ∈ rest, ∀ signer request, x.op ≠ ServiceCall.assumeRole signer request) ∧
      (∀ e, fetched = .error e → rest = [] ∧ r = .error e) ∧
      ∀ c session, fetched = .ok c → r = .ok session → session.cache = .holding (some c)) ∧
    ∀ {σ : Type} (host : Host Services σ) (deadline : Option Nat) (w : World Services σ),
      ∃ cs r, Makes (resolveWith s retry).run cs r ∧ Task.AnsweredBy host cs ∧
        Task.RunsAlong host deadline (resolveWith s retry).run w cs r := by
  refine ⟨fun plan hplan => ⟨?_, Settings.exists_walk_of_planned? hplan⟩, fun hplan => ?_,
    fun cs r => Settings.threaded_fetch, fun cs r h => ?_,
    fun host deadline w => Task.exists_makes_of_run host deadline _ w⟩
  · simp [Settings.chainRoles, hplan]
  · simp [Settings.chainRoles, hplan]
  · obtain ⟨st, hstaged, rfl⟩ := makes_resolveWith h
    obtain ⟨fetched, hthreaded, hfails, hsession⟩ := hstaged.threaded
    exact ⟨_, fetched, _, hthreaded, by simp [Stages.calls], hstaged.ordered.later, hfails, hsession⟩

/-- Services that issue credentials for a role, which name the role and the key of the signer. All
else is refused. -/
def issuing : Host Services Unit where
  answer op _ _ :=
    let refused : ApiError := ⟨"", .timeout, none, "", none⟩
    let answer : ServiceCall.Answer op := match op with
      | .assumeRole signer request =>
        .ok ⟨request.roleArn, signer.accessKeyId, "token", ⟨0⟩, none⟩
      | .assumeRoleWithWebIdentity _ => .error refused
      | .getCallerIdentity _ => .error refused
      | .getUser _ => .error refused
      | .listRoles _ _ => .error refused
      | .outside _ => .ok none
    ⟨answer, some Duration.zero, ()⟩

/-- Of two roles, the second one is signed with what the first one was issued. -/
theorem second_role_signed_by_first :
    let s : Settings := { (default : Settings) with
      staticKeys := some ⟨"AKIA", "secret", none⟩, roles := [{ arn := "a" }, { arn := "b" }]
      skipValidation := true, skipAccountLookup := true }
    let c : Credentials := ⟨"b", "a", some "token", some ⟨0⟩, .assumeRole, none⟩
    ∃ cs session base turns, Makes (resolveWith s (.ofAttempts 1)).run cs (.ok session) ∧
      session.cache = .holding (some c) ∧ Thread base s.roles turns (.ok c) := by
  intro s c
  let session : Session := {
    settings := s, retry := .ofAttempts 1, cache := .holding (some c), origin := .assumeRole
    account := ⟨"", "aws"⟩, caller := none, accountError := none }
  obtain ⟨-, hroles, -, hresolve, hrun⟩ := resolution_threads_roles s (.ofAttempts 1)
  obtain ⟨cs, r, hmakes, -, made, -, -, hend⟩ := hrun issuing none (.start () ⟨0⟩ fun _ => .ok "")
  obtain ⟨rfl, -⟩ := hend (.ok session) (by decide +kernel)
  obtain ⟨found, fetched, rest, hthreaded, rfl, -, hfails, hsession⟩ := hresolve cs _ hmakes
  cases fetched with
  | error e => cases (hfails e rfl).2
  | ok c' =>
    cases hsession c' session rfl rfl
    cases hthreaded with
    | turns _ _ hthread =>
      rw [hroles rfl] at hthread
      exact ⟨_, session, _, _, hmakes, rfl, hthread⟩

end Session

end AwsCredentials
