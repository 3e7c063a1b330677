import AwsCredentials.Proofs.Chain.Reach
import AwsCredentials.Proofs.Retry.Calls
import Mathlib.Data.List.Chain

/-!
# Roles in turn

When roles are assumed one after another, each role that is come to has its turn: the calls that are
made for it, all of them one request, and the answer to the last one (`Turn`). `Thread` says how the
turns hang together: each is signed with what the one before it was issued, and only the last one may
fail.

* `makes_assumeRole`, `makes_assumeRoleWithWebIdentity`: what can be seen of a single role;
* `makes_assumeRoles`: the turns of a list of roles are a thread, by induction on the list.
-/

namespace AwsCredentials

open AwsCredentials.Task (Makes)

namespace Answered

/-- The call for a role with its answer. -/
def assumeRole (signer : Credentials) (request : RoleRequest)
    (answer : Except ApiError IssuedCredentials) : Answered Services :=
  ⟨ServiceCall.assumeRole signer request, answer⟩

/-- The call for a role that a web identity token proves, with its answer. -/
def assumeRoleWithWebIdentity (request : WebRoleRequest)
    (answer : Except ApiError IssuedCredentials) : Answered Services :=
  ⟨ServiceCall.assumeRoleWithWebIdentity request, answer⟩

end Answered

/-! ## Requests -/

theorem error_of_bind {α β : Type} {x : Except Error α} {f : α → Except Error β} {e : Error}
    (h : x >>= f = .error e) : x = .error e ∨ ∃ a, x = .ok a ∧ f a = .error e := by
  cases x with
  | error e' => cases h; exact .inl rfl
  | ok a => exact .inr ⟨a, rfl, h⟩

theorem checkRoleArn_error {arn : String} {e : Error} (h : checkRoleArn arn = .error e) :
    Text.blank arn = true ∧ e = .role arn "role ARN must not be empty" none := by
  unfold checkRoleArn at h
  split at h
  · next hblank => cases h; exact ⟨hblank, rfl⟩
  · cases h

theorem checkRoleArn_of_blank {arn : String} (h : Text.blank arn = true) :
    checkRoleArn arn = .error (.role arn "role ARN must not be empty" none) :=
  if_pos h

theorem checkRoleArn_of_not_blank {arn : String} (h : Text.blank arn = false) :
    checkRoleArn arn = .ok () := by
  rw [checkRoleArn, h, if_neg Bool.false_ne_true]

theorem sessionSeconds_error {arn : String} {given : Option Duration} {e : Error}
    (h : sessionSeconds arn given = .error e) : ∃ reason, e = .role arn reason none := by
  unfold sessionSeconds at h
  dsimp only at h
  split at h
  · cases h
  · cases h; exact ⟨_, rfl⟩

namespace RoleSpec

variable {spec : RoleSpec} {now : Instant}

theorem roleArn_of_request {request : RoleRequest} (h : spec.request now = .ok request) :
    request.roleArn = spec.arn := by
  obtain ⟨-, -, h⟩ := exists_ok_of_bind h
  obtain ⟨seconds, -, h⟩ := exists_ok_of_bind h
  cases h
  rfl

/-- A request is refused for its ARN or for its duration. -/
theorem error_of_request {e : Error} (h : spec.request now = .error e) :
    spec.check = .error e ∨ sessionSeconds spec.arn spec.duration = .error e := by
  obtain h | ⟨-, -, h⟩ := error_of_bind h
  · exact .inl h
  · obtain h | ⟨seconds, -, h⟩ := error_of_bind h
    · exact .inr h
    · cases h

theorem role_of_error {e : Error} (h : spec.request now = .error e) :
    ∃ reason, e = .role spec.arn reason none := by
  obtain h | h := error_of_request h
  · exact ⟨_, (checkRoleArn_error h).2⟩
  · exact sessionSeconds_error h

end RoleSpec

theorem WebRoleSpec.roleArn_of_request {spec : WebRoleSpec} {token : String} {now : Instant}
    {request : WebRoleRequest} (h : spec.request token now = .ok request) :
    request.roleArn = spec.arn := by
  obtain ⟨-, -, h⟩ := exists_ok_of_bind h
  obtain ⟨seconds, -, h⟩ := exists_ok_of_bind h
  cases h
  rfl

/-! ## A single role -/

/-- What the last answer to the calls for a role comes to. -/
def roleResult (arn call : String) (origin : Origin) :
    Except ApiError IssuedCredentials → Except Error Credentials
  | .ok issued => .ok (issued.credentials origin)
  | .error e => .error (.role arn (call ++ " call failed") (some e))

namespace RetryPolicy

variable {p : RetryPolicy} {base : Credentials} {cs : List (Answered Services)}
  {r : Except Error Credentials}

/-- The calls for a role with what becomes of the issued credentials. The report of a success is
left open. -/
theorem makes_perform? {arn call : String} {origin : Origin} {report : Log.Event}
    {task : ServiceTask (Except ApiError IssuedCredentials)}
    (one : Except ApiError IssuedCredentials → Answered Services)
    (hcall : ∀ cs r, Makes task cs r → cs = [one r])
    (h : Makes (p.perform? arn call task >>= fun issued =>
      Attempt.note report >>= fun _ => pure (issued.credentials origin)).run cs r) :
    ∃ answer, Tried one cs answer ∧ r = roleResult arn call origin answer := by
  rw [perform?, bind_assoc] at h
  refine makes_performed hcall (fun answer cs r hr => ?_) h
  cases answer with
  | ok issued => exact Attempt.makes_pure_iff.1 (Attempt.makes_note_bind_iff.1 hr)
  | error e => exact Attempt.makes_throw_iff.1 hr

/-- A request that depends on the time is refused, or what follows it makes all the calls. -/
theorem makes_request {α β : Type} {request : Instant → Except Error α}
    {k : α → ServiceAttempt β} {r : Except Error β}
    (h : Makes (Attempt.ofTask Task.now >>= fun now => Attempt.ofExcept (request now) >>= k).run
      cs r) :
    (∃ now e, request now = .error e ∧ cs = [] ∧ r = .error e) ∨
    ∃ now a, request now = .ok a ∧ Makes (k a).run cs r := by
  obtain ⟨cs₁, now, cs₂, hnow, hrest, rfl⟩ := Attempt.makes_ofTask_bind_iff.1 h
  obtain ⟨now', hnow⟩ := Task.makes_clock_iff.1 hnow
  obtain ⟨rfl, -⟩ := Task.makes_done_iff.1 hnow
  obtain ⟨a, ha, hcalls⟩ | ⟨e, he, rfl, rfl⟩ := Attempt.makes_ofExcept_bind_iff.1 hrest
  · exact .inr ⟨now, a, ha, hcalls⟩
  · exact .inl ⟨now, e, he, rfl, rfl⟩

/-- A role is refused before its first call, or one request is made for it until it is answered. -/
theorem makes_assumeRole {spec : RoleSpec} (h : Makes (p.assumeRole base spec).run cs r) :
    (∃ now e, spec.request now = .error e ∧ cs = [] ∧ r = .error e) ∨
    ∃ request answer, request.roleArn = spec.arn ∧
      Tried (Answered.assumeRole base request) cs answer ∧
      r = roleResult spec.arn "AssumeRole" .assumeRole answer := by
  obtain hrefused | ⟨now, request, hrequest, hcalls⟩ := makes_request h
  · exact .inl hrefused
  · have harn := RoleSpec.roleArn_of_request hrequest
    simp only [Attempt.makes_note_bind_iff, harn] at hcalls
    obtain ⟨answer, htried, rfl⟩ := makes_perform? (Answered.assumeRole base request)
      (fun cs r => Task.makes_call_done_iff.1) hcalls
    exact .inr ⟨request, answer, harn, htried, rfl⟩

theorem makes_assumeRoleWithWebIdentity {spec : WebRoleSpec} {token : String}
    (h : Makes (p.assumeRoleWithWebIdentity spec token).run cs r) :
    (∃ now e, spec.request token now = .error e ∧ cs = [] ∧ r = .error e) ∨
    ∃ request answer, request.roleArn = spec.arn ∧
      Tried (Answered.assumeRoleWithWebIdentity request) cs answer ∧
      r = roleResult spec.arn "AssumeRoleWithWebIdentity" .assumeRoleWithWebIdentity answer := by
  obtain hrefused | ⟨now, request, hrequest, hcalls⟩ := makes_request h
  · exact .inl hrefused
  · have harn := WebRoleSpec.roleArn_of_request hrequest
    simp only [Attempt.makes_note_bind_iff, harn] at hcalls
    obtain ⟨answer, htried, rfl⟩ := makes_perform? (Answered.assumeRoleWithWebIdentity request)
      (fun cs r => Task.makes_call_done_iff.1) hcalls
    exact .inr ⟨request, answer, harn, htried, rfl⟩

end RetryPolicy

/-! ## One role after another -/

/-- What is done for one of some roles. -/
structure Turn where
  role : RoleSpec
  /-- The credentials that the calls are signed with. -/
  signer : Credentials
  calls : List (Answered Services)
  /-- The answer to the last call, if a call was made. -/
  answer : Option (Except ApiError IssuedCredentials)

namespace Turn

/-- Whether the calls of a turn are one request for its role, which is made by its signer until it is
answered. -/
def Made (t : Turn) : Prop :=
  match t.answer with
  | none => t.calls = []
  | some answer => ∃ request : RoleRequest, request.roleArn = t.role.arn ∧
    Tried (Answered.assumeRole t.signer request) t.calls answer

/-- Whether a turn was issued some credentials by its last call. -/
def Hands (t : Turn) (c : Credentials) : Prop :=
  ∃ issued, t.answer = some (.ok issued) ∧
    c = { accessKeyId := issued.accessKeyId, secretAccessKey := issued.secretAccessKey
          sessionToken := some issued.sessionToken, expiration := some issued.expiration
          origin := .assumeRole, principalArn := issued.assumedRoleArn }

/-- Whether a turn fails with an error: its request is refused before any call, or its last call
failed. -/
def FailsWith (t : Turn) (e : Error) : Prop :=
  (t.answer = none ∧ ∃ now reason, t.role.request now = .error e ∧ e = .role t.role.arn reason none) ∨
  ∃ call, t.answer = some (.error call) ∧
    e = .role t.role.arn "AssumeRole call failed" (some call)

theorem Made.op_eq {t : Turn} (h : t.Made) :
    ∀ x ∈ t.calls, ∃ signer request, x.op = ServiceCall.assumeRole signer request := by
  unfold Made at h
  split at h
  · simp [h]
  · obtain ⟨request, -, htried⟩ := h
    exact htried.forall_mem fun _ => ⟨t.signer, request, rfl⟩

theorem Made.calls_ne_nil {t : Turn} {answer : Except ApiError IssuedCredentials} (h : t.Made)
    (hanswer : t.answer = some answer) : t.calls ≠ [] := by
  rw [Made, hanswer] at h
  obtain ⟨request, -, htried⟩ := h
  exact htried.ne_nil

end Turn

/-- Whether some turns are those of the roles `specs` one after another, from the credentials `base`
to the result `r`. -/
structure Thread (base : Credentials) (specs : List RoleSpec) (turns : List Turn)
    (r : Except Error Credentials) : Prop where
  roles : turns.map Turn.role <+: specs
  made : ∀ t ∈ turns, t.Made
  first : ∀ t ∈ turns.head?, t.signer = base
  next : turns.IsChain fun t u => t.Hands u.signer
  fails : ∀ e, r = .error e → ∃ t ∈ turns.getLast?, t.FailsWith e
  succeeds : ∀ c, r = .ok c → turns.map Turn.role = specs ∧ (turns = [] → c = base) ∧
    ∀ t ∈ turns.getLast?, t.Hands c

namespace Thread

variable {base : Credentials} {specs : List RoleSpec} {turns : List Turn}
  {r : Except Error Credentials}

theorem nil : Thread base [] [] (.ok base) where
  roles := List.prefix_refl _
  made := by simp
  first := by simp
  next := .nil
  fails _ h := by cases h
  succeeds c h := ⟨rfl, fun _ => (Except.ok.inj h).symm, by simp⟩

/-- A turn that fails is the last one. -/
theorem ended {t : Turn} {e : Error} (hmade : t.Made) (hfails : t.FailsWith e) :
    Thread t.signer (t.role :: specs) [t] (.error e) where
  roles := ⟨specs, rfl⟩
  made := by simpa using hmade
  first := by simp
  next := .singleton t
  fails e' h := ⟨t, rfl, by cases h; exact hfails⟩
  succeeds _ h := by cases h

/-- A turn that succeeds is followed by the turns of the other roles. -/
theorem cons {t : Turn} {c : Credentials} (hmade : t.Made) (hhands : t.Hands c)
    (h : Thread c specs turns r) : Thread t.signer (t.role :: specs) (t :: turns) r where
  roles := List.cons_prefix_cons.2 ⟨rfl, h.roles⟩
  made := List.forall_mem_cons.2 ⟨hmade, h.made⟩
  first := by simp
  next := List.isChain_cons.2 ⟨fun u hu => by rw [h.first u hu]; exact hhands, h.next⟩
  fails e he := by
    obtain ⟨u, hu, hfails⟩ := h.fails e he
    exact ⟨u, by simp_all [List.getLast?_cons], hfails⟩
  succeeds c' hc' := by
    obtain ⟨hroles, hnil, hlast⟩ := h.succeeds c' hc'
    refine ⟨congrArg (t.role :: ·) hroles, nofun, fun u hu => ?_⟩
    -- the last turn is this one only if no other follows
    cases turns with
    | nil =>
      obtain rfl : t = u := by simpa using hu
      rw [hnil rfl]
      exact hhands
    | cons t' turns => exact hlast u (by simpa [List.getLast?_cons] using hu)

end Thread

/-- Roles that are assumed one after another are a thread. -/
theorem RetryPolicy.makes_assumeRoles {p : RetryPolicy} {base : Credentials}
    {specs : List RoleSpec} {cs : List (Answered Services)} {r : Except Error Credentials}
    (h : Makes (p.assumeRoles base specs).run cs r) :
    ∃ turns, cs = turns.flatMap Turn.calls ∧ Thread base specs turns r := by
  -- the rest of the roles starts from what this one is issued, so the base has to vary
  induction specs generalizing base cs with
  | nil =>
    obtain ⟨rfl, rfl⟩ := Attempt.makes_pure_iff.1 h
    exact ⟨[], rfl, .nil⟩
  | cons spec specs ih =>
    rw [assumeRoles, List.foldlM_cons] at h
    obtain ⟨cs₁, c, cs₂, h₁, h₂, rfl⟩ | ⟨e, h₁, rfl⟩ := Attempt.makes_bind_iff.1 h
    · obtain ⟨turns, rfl, hthread⟩ := ih h₂
      obtain ⟨-, e, -, -, he⟩ | ⟨request, answer, harn, htried, hr⟩ := makes_assumeRole h₁
      · cases he
      cases answer with
      | error e => cases hr
      | ok issued =>
        let t : Turn := ⟨spec, base, cs₁, some (.ok issued)⟩
        have hhands : t.Hands c := ⟨issued, rfl, Except.ok.inj hr⟩
        have hmade : t.Made := ⟨request, harn, htried⟩
        exact ⟨t :: turns, rfl, .cons hmade hhands hthread⟩
    · obtain ⟨now, e', hrefused, rfl, he⟩ | ⟨request, answer, harn, htried, hr⟩ :=
        makes_assumeRole h₁
      · obtain rfl := Except.error.inj he
        obtain ⟨reason, hreason⟩ := RoleSpec.role_of_error hrefused
        let t : Turn := ⟨spec, base, [], none⟩
        have hmade : t.Made := rfl
        have hfails : t.FailsWith e := .inl ⟨rfl, now, reason, hrefused, hreason⟩
        exact ⟨[t], rfl, .ended hmade hfails⟩
      · cases answer with
        | ok issued => cases hr
        | error call =>
          let t : Turn := ⟨spec, base, cs, some (.error call)⟩
          have hmade : t.Made := ⟨request, harn, htried⟩
          have hfails : t.FailsWith e := .inr ⟨call, rfl, Except.error.inj hr⟩
          exact ⟨[t], by simp [t], .ended hmade hfails⟩

end AwsCredentials
