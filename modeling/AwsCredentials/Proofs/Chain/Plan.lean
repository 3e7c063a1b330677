import AwsCredentials.Proofs.Chain.Walk

/-!
# Which profiles have a plan

A profile has a plan if the walk along its source profiles comes to an end within sixteen profiles,
meets none of them twice, and every profile on it says just what it has to: those before the last
one pass the chain on (`Profile.PassesOn`), and the last one ends it with a base
(`Profile.EndsWith`). The plan holds this base and the roles that the profiles have, from the end of
the walk to its start.

* `Profile.step_eq_ok_iff`: which step a single profile takes, in terms of its values;
* `follow_eq_ok_iff`: the plan from any profile on, by induction along the walk;
* `visitsFrom_nodup`, `follow_congr`: which profiles are looked at for it, each of them once, and
  that no other one has influence;
* `plan_along_sources`: all of this of a plan.
-/

namespace AwsCredentials

namespace Profile

variable (p : Profile)

/-! ## What a profile says -/

/-- Whether the session length that a profile asks for, if it does, is a number. -/
def DurationReads : Prop :=
  ∀ text ∈ p.get? "duration_seconds", (Text.readNat Text.max64 text).isSome = true

/-- The session length that a profile asks for. -/
def askedDuration? : Option Duration :=
  ((p.get? "duration_seconds").bind (Text.readNat Text.max64)).map Duration.ofSeconds

/-- The role with an ARN, as a profile describes it. -/
def describedRole (arn : String) : RoleSpec :=
  { arn, sessionName := p.get? "role_session_name", externalId := p.get? "external_id"
    duration := p.askedDuration? }

/-- The role with an ARN that the token in a file proves, as a profile describes it. -/
def describedWebRole (arn : String) (tokenFile : Path) : WebRoleSpec :=
  { arn, sessionName := p.get? "role_session_name", tokenFile := some tokenFile
    duration := p.askedDuration? }

/-- What a profile says of where the credentials for its role come from: another profile, a source
by its word, the token in a file. -/
def origins : Option String × Option String × Option String :=
  (p.get? "source_profile", p.get? "credential_source", p.get? "web_identity_token_file")

/-- Whether a profile has a key pair. -/
def HasKeys (c : Credentials) : Prop :=
  ∃ accessKey secretKey, p.get? "aws_access_key_id" = some accessKey ∧
    p.get? "aws_secret_access_key" = some secretKey ∧
    c = .longLived accessKey secretKey (p.get? "aws_session_token") .sharedProfile

/-- Whether a profile has no half of a key pair. -/
def HasNoKeys : Prop :=
  p.get? "aws_access_key_id" = none ∧ p.get? "aws_secret_access_key" = none

/-- The words for sources with the bases that they stand for. -/
def namedBases : List (String × ProfileBase) :=
  [("Environment", .environment p.name), ("Ec2InstanceMetadata", .outside p.name .instanceMetadata),
   ("EcsContainer", .outside p.name .container)]

/-- The role that a profile has for the credentials of the chain, if no token proves it. -/
def assumed? : Option RoleSpec :=
  match p.get? "web_identity_token_file" with
  | some _ => none
  | none => (p.get? "role_arn").map p.describedRole

/-- Whether a profile passes the chain on: it has a role, and all that it says of the credentials
for it is another profile. -/
structure PassesOn : Prop where
  arn : (p.get? "role_arn").isSome = true
  origins : ∃ source, p.origins = (some source, none, none)
  duration : p.DurationReads

/-- Whether a profile ends the chain with a base. A profile that has nothing to say may do so only
if it is `alone`, so that no other one builds on it. -/
inductive EndsWith (alone : Prop) : ProfileBase → Prop
  | keys {c : Credentials} : p.get? "role_arn" = none → p.origins = (none, none, none) →
    p.HasKeys c → EndsWith alone (.keys c)
  | nothing : p.get? "role_arn" = none → p.origins = (none, none, none) → p.HasNoKeys → alone →
    EndsWith alone .nothing
  | webIdentity {arn : String} {tokenFile : Path} : p.get? "role_arn" = some arn →
    p.origins = (none, none, some tokenFile) → p.DurationReads →
    EndsWith alone (.webIdentity (p.describedWebRole arn tokenFile))
  | named {word : String} {base : ProfileBase} : (p.get? "role_arn").isSome = true →
    p.origins = (none, some word, none) → p.DurationReads → (word, base) ∈ p.namedBases →
    EndsWith alone base
  | itself {c : Credentials} : (p.get? "role_arn").isSome = true →
    p.origins = (some p.name, none, none) → p.DurationReads → p.HasKeys c → EndsWith alone (.keys c)

variable {p}

theorem duration?_eq_ok_iff {d : Option Duration} :
    p.duration? = .ok d ↔ p.DurationReads ∧ d = p.askedDuration? := by
  unfold duration? DurationReads askedDuration?
  cases p.get? "duration_seconds" with
  | none => simp [@eq_comm _ d]
  | some text => cases h : Text.readNat Text.max64 text <;> simp [h, @eq_comm _ d]

theorem role_eq_ok_iff {arn : String} {role : RoleSpec} :
    p.role arn = .ok role ↔ p.DurationReads ∧ role = p.describedRole arn := by
  unfold Profile.role describedRole
  constructor
  · intro h
    cases hd : p.duration? with
    | error e => rw [hd] at h; cases h
    | ok d =>
      rw [hd] at h
      obtain ⟨hreads, rfl⟩ := duration?_eq_ok_iff.1 hd
      cases h
      exact ⟨hreads, rfl⟩
  · rintro ⟨hreads, rfl⟩
    rw [duration?_eq_ok_iff.2 ⟨hreads, rfl⟩]
    rfl

theorem webRole_eq_ok_iff {arn : String} {tokenFile : Path} {spec : WebRoleSpec} :
    p.webRole arn tokenFile = .ok spec ↔
      p.DurationReads ∧ spec = p.describedWebRole arn tokenFile := by
  unfold webRole describedWebRole
  constructor
  · intro h
    cases hd : p.duration? with
    | error e => rw [hd] at h; cases h
    | ok d =>
      rw [hd] at h
      obtain ⟨hreads, rfl⟩ := duration?_eq_ok_iff.1 hd
      cases h
      exact ⟨hreads, rfl⟩
  · rintro ⟨hreads, rfl⟩
    rw [duration?_eq_ok_iff.2 ⟨hreads, rfl⟩]
    rfl

theorem keys?_eq_some_iff {c : Credentials} : p.keys? = .ok (some c) ↔ p.HasKeys c := by
  unfold keys? HasKeys
  cases p.get? "aws_access_key_id" <;> cases p.get? "aws_secret_access_key" <;> simp [eq_comm]

theorem keys?_eq_none_iff : p.keys? = .ok none ↔ p.HasNoKeys := by
  unfold keys? HasNoKeys
  cases p.get? "aws_access_key_id" <;> cases p.get? "aws_secret_access_key" <;> simp

theorem baseNamed_eq_ok_iff {word : String} {base : ProfileBase} :
    p.baseNamed word = .ok base ↔ (word, base) ∈ p.namedBases := by
  unfold baseNamed namedBases
  split <;> simp_all [eq_comm]

end Profile

/-- What a profile that takes a step says: it ends the chain with its role, or it passes the chain
on to the profile that it names. -/
def ProfileStep.Said (p : Profile) (alone : Prop) : ProfileStep → Prop
  | .ends base role => p.EndsWith alone base ∧ role = p.assumed?
  | .follows source role =>
    p.PassesOn ∧ p.get? "source_profile" = some source ∧ source ≠ p.name ∧ p.assumed? = some role

namespace Profile

variable {p : Profile} {step : ProfileStep} {arn : String} {isSource : Bool}

theorem assumed?_eq_some (harn : p.get? "role_arn" = some arn)
    (hfile : p.get? "web_identity_token_file" = none) {role : RoleSpec}
    (h : p.role arn = .ok role) : p.assumed? = some role := by
  simp only [assumed?, hfile, harn, Option.map_some, (role_eq_ok_iff.1 h).2]

theorem assumed?_eq_none (harn : p.get? "role_arn" = none) : p.assumed? = none := by
  unfold assumed?
  rw [harn]
  cases p.get? "web_identity_token_file" <;> rfl

theorem said_of_stepWithRole {alone : Prop} (harn : p.get? "role_arn" = some arn)
    (h : p.stepWithRole arn = .ok step) : step.Said p alone := by
  have hset : (p.get? "role_arn").isSome = true := by rw [harn]; rfl
  unfold stepWithRole at h
  split at h
  · next tokenFile hsource hword hfile =>
    obtain ⟨spec, hspec, h⟩ := exists_ok_of_bind h
    cases h
    obtain ⟨hreads, rfl⟩ := webRole_eq_ok_iff.1 hspec
    exact ⟨.webIdentity harn (by rw [origins, hsource, hword, hfile]) hreads,
      by rw [assumed?, hfile]⟩
  · next word hsource hword hfile =>
    obtain ⟨role, hrole, h⟩ := exists_ok_of_bind h
    obtain ⟨base, hbase, h⟩ := exists_ok_of_bind h
    cases h
    exact ⟨.named hset (by rw [origins, hsource, hword, hfile]) (role_eq_ok_iff.1 hrole).1
      (baseNamed_eq_ok_iff.1 hbase), (assumed?_eq_some harn hfile hrole).symm⟩
  · next source hsource hword hfile =>
    have horigins : p.origins = (some source, none, none) := by rw [origins, hsource, hword, hfile]
    obtain ⟨role, hrole, h⟩ := exists_ok_of_bind h
    have hassumed := assumed?_eq_some harn hfile hrole
    have hreads := (role_eq_ok_iff.1 hrole).1
    split at h
    · next hself =>
      obtain ⟨keys, hkeys, h⟩ := exists_ok_of_bind h
      cases keys with
      | none => cases h
      | some c =>
        cases h
        exact ⟨.itself hset (hself ▸ horigins) hreads (keys?_eq_some_iff.1 hkeys), hassumed.symm⟩
    · next hother =>
      cases h
      exact ⟨⟨hset, ⟨source, horigins⟩, hreads⟩, hsource, hother, hassumed⟩
  · obtain ⟨role, -, h⟩ := exists_ok_of_bind h
    cases h
  · cases h

theorem said_of_stepWithoutRole (harn : p.get? "role_arn" = none)
    (h : p.stepWithoutRole isSource = .ok step) : step.Said p (isSource = false) := by
  have hassumed := (assumed?_eq_none harn).symm
  unfold stepWithoutRole at h
  dsimp only at h
  split at h
  · cases h
  next hnone =>
  split at h
  · cases h
  next hfile =>
  have horigins : p.origins = (none, none, none) := by
    simp only [Bool.or_eq_true, not_or, Bool.not_eq_true, Option.isSome_eq_false_iff,
      Option.isNone_iff_eq_none] at hnone hfile
    rw [origins, hnone.1, hnone.2, hfile]
  obtain ⟨keys, hkeys, h⟩ := exists_ok_of_bind h
  cases keys with
  | some c => cases h; exact ⟨.keys harn horigins (keys?_eq_some_iff.1 hkeys), hassumed⟩
  | none =>
    cases isSource with
    | true => cases h
    | false => cases h; exact ⟨.nothing harn horigins (keys?_eq_none_iff.1 hkeys) rfl, hassumed⟩

theorem eq_of_origins {source word file : Option String} (h : p.origins = (source, word, file)) :
    p.get? "source_profile" = source ∧ p.get? "credential_source" = word ∧
      p.get? "web_identity_token_file" = file := by
  simpa only [origins, Prod.mk.injEq] using h

theorem step_of_keys {keys : Option Credentials} (harn : p.get? "role_arn" = none)
    (horigins : p.origins = (none, none, none)) (hkeys : p.keys? = .ok keys)
    (hsome : keys = none → isSource = false) :
    p.step isSource = .ok (.ends (keys.elim .nothing .keys) none) := by
  obtain ⟨hsource, hword, hfile⟩ := eq_of_origins horigins
  simp only [Profile.step, harn, stepWithoutRole, hsource, hword, hfile, hkeys]
  cases keys with
  | some c => rfl
  | none => rw [hsome rfl]; rfl

/-- The values of a profile tell which step it takes. -/
theorem step_eq_ok_iff : p.step isSource = .ok step ↔ step.Said p (isSource = false) := by
  constructor
  · intro h
    unfold Profile.step at h
    split at h
    · next arn harn => exact said_of_stepWithRole harn h
    · next harn => exact said_of_stepWithoutRole harn h
  -- with a role, the origins select the branch; the role itself is the described one
  have withRole {arn : String} (harn : p.get? "role_arn" = some arn) (hreads : p.DurationReads) :
      p.step isSource = p.stepWithRole arn ∧ p.role arn = .ok (p.describedRole arn) :=
    ⟨by rw [Profile.step, harn], role_eq_ok_iff.2 ⟨hreads, rfl⟩⟩
  intro h
  cases step with
  | follows source role =>
    obtain ⟨⟨harn, ⟨source', horigins⟩, hreads⟩, hsource, hother, hassumed⟩ := h
    obtain ⟨arn, harn⟩ := Option.isSome_iff_exists.1 harn
    obtain ⟨-, hword, hfile⟩ := eq_of_origins horigins
    obtain ⟨hstep, hrole⟩ := withRole harn hreads
    obtain rfl := Option.some.inj ((assumed?_eq_some harn hfile hrole).symm.trans hassumed)
    simp only [hstep, stepWithRole, hsource, hword, hfile, hrole]
    exact if_neg hother
  | ends base role =>
    obtain ⟨hends, rfl⟩ := h
    cases hends with
    | keys harn horigins hkeys =>
      rw [step_of_keys harn horigins (keys?_eq_some_iff.2 hkeys) (by simp), assumed?_eq_none harn]
      rfl
    | nothing harn horigins hkeys hsource =>
      rw [step_of_keys harn horigins (keys?_eq_none_iff.2 hkeys) fun _ => hsource,
        assumed?_eq_none harn]
      rfl
    | @webIdentity arn tokenFile harn horigins hreads =>
      obtain ⟨hsource, hword, hfile⟩ := eq_of_origins horigins
      have hspec : p.webRole arn tokenFile = .ok (p.describedWebRole arn tokenFile) :=
        webRole_eq_ok_iff.2 ⟨hreads, rfl⟩
      simp only [(withRole harn hreads).1, stepWithRole, assumed?, hsource, hword, hfile, hspec]
      rfl
    | named harn horigins hreads hword =>
      obtain ⟨arn, harn⟩ := Option.isSome_iff_exists.1 harn
      obtain ⟨hsource, hword', hfile⟩ := eq_of_origins horigins
      obtain ⟨hstep, hrole⟩ := withRole harn hreads
      rw [assumed?_eq_some harn hfile hrole]
      simp only [hstep, stepWithRole, hsource, hword', hfile, hrole, baseNamed_eq_ok_iff.2 hword]
      rfl
    | itself harn horigins hreads hkeys =>
      obtain ⟨arn, harn⟩ := Option.isSome_iff_exists.1 harn
      obtain ⟨hsource, hword, hfile⟩ := eq_of_origins horigins
      obtain ⟨hstep, hrole⟩ := withRole harn hreads
      rw [assumed?_eq_some harn hfile hrole]
      simp only [hstep, stepWithRole, hsource, hword, hfile, hrole, if_true,
        keys?_eq_some_iff.2 hkeys]
      rfl

theorem EndsWith.source_eq {alone : Prop} {base : ProfileBase} (h : p.EndsWith alone base) :
    ∀ source ∈ p.get? "source_profile", source = p.name := by
  intro source hsource
  cases h with
  | keys _ horigins | nothing _ horigins | webIdentity _ horigins | named _ horigins =>
    cases (eq_of_origins horigins).1.symm.trans hsource
  | itself _ horigins =>
    exact (Option.some.inj ((eq_of_origins horigins).1.symm.trans hsource)).symm

/-- The roles that the profiles of a walk have, from its end to its start. -/
def rolesAlong (path : List Profile) : List RoleSpec := (path.filterMap assumed?).reverse

@[simp] theorem rolesAlong_nil : rolesAlong [] = [] := rfl

@[simp] theorem rolesAlong_cons (p : Profile) (path : List Profile) :
    rolesAlong (p :: path) = rolesAlong path ++ p.assumed?.toList := by
  cases h : p.assumed? <;> simp [rolesAlong, h]

end Profile

/-! ## The walk -/

namespace SharedFiles

variable {files : SharedFiles} {start current : String} {left : Nat} {visited : List String}
  {p : Profile} {path : List Profile} {plan : ProfilePlan}

theorem name_of_profile? {name : String} (h : files.profile? name = some p) : p.name = name := by
  have hname := List.find?_some h
  exact beq_iff_eq.1 hname

theorem walk_singleton_iff : files.Walk current [p] ↔
    files.profile? current = some p ∧ ∀ source ∈ p.get? "source_profile", source = p.name := by
  constructor
  · rintro ⟨⟨q, hq, hfound⟩, -, ends⟩
    obtain rfl := Option.some.inj hq
    exact ⟨hfound, ends p rfl⟩
  · rintro ⟨hfound, ends⟩
    refine ⟨⟨p, rfl, hfound⟩, .singleton p, fun q hq => ?_⟩
    obtain rfl := Option.some.inj hq
    exact ends

theorem walk_cons_iff (hpath : path ≠ []) : files.Walk current (p :: path) ↔
    files.profile? current = some p ∧ ∃ source, p.get? "source_profile" = some source ∧
      source ≠ p.name ∧ files.Walk source path := by
  obtain ⟨q, rest, rfl⟩ := List.exists_cons_of_ne_nil hpath
  constructor
  · rintro ⟨⟨p', hp', hfound⟩, links, ends⟩
    obtain rfl := Option.some.inj hp'
    obtain ⟨⟨source, hsource, hother, hq⟩, links⟩ := List.isChain_cons_cons.1 links
    exact ⟨hfound, source, hsource, hother, ⟨q, rfl, hq⟩, links, ends⟩
  · rintro ⟨hfound, source, hsource, hother, ⟨⟨q', hq', hfound'⟩, links, ends⟩⟩
    obtain rfl := Option.some.inj hq'
    exact ⟨⟨p, rfl, hfound⟩,
      List.isChain_cons_cons.2 ⟨⟨source, hsource, hother, hfound'⟩, links⟩, ends⟩

theorem follow_visited (h : current ∈ visited) :
    ∃ e, files.follow start left visited current = .error e := by
  unfold follow
  rw [if_pos (List.contains_iff_mem.2 h)]
  exact ⟨_, rfl⟩

theorem follow_unknown (hnew : current ∉ visited) (hfound : files.profile? current = none) :
    files.follow start (left + 1) visited current =
      .error (.unknownProfile current files.paths) := by
  unfold follow
  rw [if_neg (mt List.contains_iff_mem.1 hnew), hfound]

/-- One more profile on the way to a plan. -/
theorem follow_succ (hnew : current ∉ visited) (hfound : files.profile? current = some p) :
    files.follow start (left + 1) visited current = (do
      match ← p.step (current ≠ start) with
      | .ends base role => return ⟨base, role.toList⟩
      | .follows source role =>
        let plan ← files.follow start left (visited ++ [current]) source
        return ⟨plan.base, plan.roles ++ [role]⟩) := by
  conv_lhs => unfold follow
  rw [if_neg (mt List.contains_iff_mem.1 hnew)]
  split
  · next hzero => cases hzero
  · next hunknown => cases hfound.symm.trans hunknown
  · next q hleft hq =>
    obtain rfl := Option.some.inj (hfound.symm.trans hq)
    obtain rfl := Nat.succ.inj hleft
    rfl

/-- Whether a way to a plan comes to an end with it. -/
theorem follow_succ_eq_ok_iff (hnew : current ∉ visited)
    (hfound : files.profile? current = some p) :
    files.follow start (left + 1) visited current = .ok plan ↔
      (p.EndsWith (current = start) plan.base ∧ plan.roles = p.assumed?.toList) ∨
      ∃ source inner, p.PassesOn ∧ p.get? "source_profile" = some source ∧ source ≠ p.name ∧
        files.follow start left (visited ++ [current]) source = .ok inner ∧
        plan = ⟨inner.base, inner.roles ++ p.assumed?.toList⟩ := by
  have halone : (decide (current ≠ start) = false) = (current = start) := by simp
  rw [follow_succ hnew hfound]
  constructor
  · intro h
    obtain ⟨step, hstep, h⟩ := exists_ok_of_bind h
    have said := Profile.step_eq_ok_iff.1 hstep
    rw [halone] at said
    cases step with
    | ends base role =>
      obtain ⟨hends, rfl⟩ := said
      cases h
      exact .inl ⟨hends, rfl⟩
    | follows source role =>
      obtain ⟨hpasses, hsource, hother, hrole⟩ := said
      obtain ⟨inner, hinner, h⟩ := exists_ok_of_bind h
      cases h
      exact .inr ⟨source, inner, hpasses, hsource, hother, hinner, by rw [hrole]; rfl⟩
  · rintro (⟨hends, hroles⟩ | ⟨source, inner, hpasses, hsource, hother, hinner, rfl⟩)
    · have hstep : p.step (current ≠ start) = .ok (.ends plan.base p.assumed?) :=
        Profile.step_eq_ok_iff.2 ⟨by rw [halone]; exact hends, rfl⟩
      obtain ⟨base, roles⟩ := plan
      obtain rfl : roles = p.assumed?.toList := hroles
      rw [hstep]
      rfl
    · obtain ⟨arn, harn⟩ := Option.isSome_iff_exists.1 hpasses.arn
      obtain ⟨_, horigins⟩ := hpasses.origins
      have hrole : p.assumed? = some (p.describedRole arn) := by
        rw [Profile.assumed?, (Profile.eq_of_origins horigins).2.2, harn]
        rfl
      have hstep : p.step (current ≠ start) = .ok (.follows source (p.describedRole arn)) :=
        Profile.step_eq_ok_iff.2 ⟨hpasses, hsource, hother, hrole⟩
      rw [hstep, hrole]
      show (do let plan ← files.follow start left (visited ++ [current]) source; _) = _
      rw [hinner]
      rfl

/-- Whether a walk comes to a plan: all its profiles but the last one pass the chain on, and the
last one ends it. -/
structure Plans (start : String) (path : List Profile) (last : Profile) (plan : ProfilePlan) :
    Prop where
  passes : ∀ q ∈ path, q.PassesOn
  ends : last.EndsWith (last.name = start) plan.base
  roles : plan.roles = Profile.rolesAlong (path ++ [last])

/-- There is a plan from a profile on exactly if its walk comes to one, within the number of
profiles that are left, and meets no profile twice. -/
theorem follow_eq_ok_iff : files.follow start left visited current = .ok plan ↔
    ∃ path last, files.Walk current (path ++ [last]) ∧
      ((path ++ [last]).map Profile.name).Nodup ∧ (∀ q ∈ path ++ [last], q.name ∉ visited) ∧
      (path ++ [last]).length ≤ left ∧ Plans start path last plan := by
  -- on the profiles that are left; both sides look at the current profile first
  induction left generalizing visited current plan with
  | zero =>
    constructor
    · intro h
      unfold follow at h
      split at h <;> cases h
    · rintro ⟨path, last, -, -, -, hlength, -⟩
      simp at hlength
  | succ left ih =>
    by_cases hnew : current ∈ visited
    · constructor
      · intro h
        have hfails : ∃ e, files.follow start (left + 1) visited current = .error e :=
          follow_visited hnew
        rw [h] at hfails
        obtain ⟨_, ⟨⟩⟩ := hfails
      · rintro ⟨path, last, ⟨⟨p, hp, hfound⟩, -, -⟩, -, hfresh, -⟩
        exact absurd ((name_of_profile? hfound).symm ▸ hnew) (hfresh p (List.mem_of_mem_head? hp))
    cases hfound : files.profile? current with
    | none =>
      constructor
      · intro h
        rw [follow_unknown hnew hfound] at h
        cases h
      · rintro ⟨path, last, ⟨⟨p, -, hfound'⟩, -, -⟩, -⟩
        cases hfound.symm.trans hfound'
    | some p =>
      rw [follow_succ_eq_ok_iff hnew hfound]
      have hname := name_of_profile? hfound
      constructor
      · rintro (⟨hends, hroles⟩ | ⟨source, inner, hpasses, hsource, hother, hinner, rfl⟩)
        · exact ⟨[], p, walk_singleton_iff.2 ⟨hfound, hends.source_eq⟩, by simp, by simpa [hname],
            by simp, List.forall_mem_nil _, by rw [hname]; exact hends, by simpa using hroles⟩
        · obtain ⟨path, last, hwalk, hnodup, hfresh, hlength, hplans⟩ := ih.1 hinner
          have hlater (q : Profile) (hq : q ∈ path ++ [last]) :
              q.name ∉ visited ∧ q.name ≠ current := by
            simpa using hfresh q hq
          refine ⟨p :: path, last,
            (walk_cons_iff (by simp)).2 ⟨hfound, source, hsource, hother, hwalk⟩,
            ?_, ?_, by simpa using hlength, ?_⟩
          · refine List.nodup_cons.2 ⟨fun hmem => ?_, hnodup⟩
            obtain ⟨q, hq, hsame⟩ := List.mem_map.1 hmem
            exact (hlater q hq).2 (hsame.trans hname)
          · exact List.forall_mem_cons.2 ⟨hname.symm ▸ hnew, fun q hq => (hlater q hq).1⟩
          · exact ⟨List.forall_mem_cons.2 ⟨hpasses, hplans.passes⟩, hplans.ends,
              by simp [hplans.roles]⟩
      · rintro ⟨path, last, hwalk, hnodup, hfresh, hlength, hplans⟩
        cases path with
        | nil =>
          obtain ⟨hfound', -⟩ := walk_singleton_iff.1 hwalk
          obtain rfl := Option.some.inj (hfound.symm.trans hfound')
          exact .inl ⟨hname ▸ hplans.ends, by simpa using hplans.roles⟩
        | cons q path =>
          obtain ⟨hfound', source, hsource, hother, hrest⟩ := (walk_cons_iff (by simp)).1 hwalk
          obtain rfl := Option.some.inj (hfound.symm.trans hfound')
          obtain ⟨hpasses, hlater⟩ := List.forall_mem_cons.1 hplans.passes
          obtain ⟨hp, hnodup⟩ := List.nodup_cons.1 hnodup
          have hfresh (q : Profile) (hq : q ∈ path ++ [last]) : q.name ∉ visited ++ [current] := by
            have hnext : q.name ≠ current := fun hsame =>
              hp (List.mem_map.2 ⟨q, hq, hsame.trans hname.symm⟩)
            simpa using ⟨hfresh q (List.mem_cons_of_mem _ hq), hnext⟩
          have hinner := ih.2 ⟨path, last, hrest, hnodup, hfresh, by simpa using hlength,
            (⟨hlater, hplans.ends, rfl⟩ : Plans start path last
              ⟨plan.base, Profile.rolesAlong (path ++ [last])⟩)⟩
          refine .inr ⟨source, _, hpasses, hsource, hother, hinner, ?_⟩
          rw [← Profile.rolesAlong_cons, ← List.cons_append, ← hplans.roles]

/-! ## The profiles that are looked at -/

/-- The names of the profiles that are looked at for a plan of the profile `current`, in their
order. The profiles `visited` were looked at before, and at most `left` may still be. -/
def visitsFrom (files : SharedFiles) (start : String) : Nat → List String → String → List String
  | left, visited, current =>
    if visited.contains current then []
    else
      match left, files.profile? current with
      | 0, _ => []
      | _ + 1, none => [current]
      | left + 1, some p =>
        match p.step (current ≠ start) with
        | .ok (.follows source _) =>
          current :: files.visitsFrom start left (visited ++ [current]) source
        | _ => [current]

/-- The names of the profiles that are looked at for the plan of a profile. -/
def visits (files : SharedFiles) (name : String) : List String :=
  files.visitsFrom name longestChain [] name

/-- Whether a profile names another one as its source. -/
def NamesSource (files : SharedFiles) (name source : String) : Prop :=
  ∃ p, files.profile? name = some p ∧ p.get? "source_profile" = some source ∧ source ≠ name

theorem visitsFrom_zero : files.visitsFrom start 0 visited current = [] := by
  unfold visitsFrom
  split <;> rfl

theorem visitsFrom_visited (h : current ∈ visited) :
    files.visitsFrom start left visited current = [] := by
  unfold visitsFrom
  rw [if_pos (List.contains_iff_mem.2 h)]

theorem visitsFrom_unknown (hnew : current ∉ visited) (hfound : files.profile? current = none) :
    files.visitsFrom start (left + 1) visited current = [current] := by
  unfold visitsFrom
  rw [if_neg (mt List.contains_iff_mem.1 hnew), hfound]

theorem visitsFrom_follows (hnew : current ∉ visited) (hfound : files.profile? current = some p)
    {source : String} {role : RoleSpec}
    (hstep : p.step (current ≠ start) = .ok (.follows source role)) :
    files.visitsFrom start (left + 1) visited current =
      current :: files.visitsFrom start left (visited ++ [current]) source := by
  conv_lhs => unfold visitsFrom
  rw [if_neg (mt List.contains_iff_mem.1 hnew), hfound]
  dsimp only
  rw [hstep]

theorem visitsFrom_ends (hnew : current ∉ visited) (hfound : files.profile? current = some p)
    (hstep : ∀ source role, p.step (current ≠ start) ≠ .ok (.follows source role)) :
    files.visitsFrom start (left + 1) visited current = [current] := by
  unfold visitsFrom
  rw [if_neg (mt List.contains_iff_mem.1 hnew), hfound]
  dsimp only
  split
  · next source role hfollows => exact absurd hfollows (hstep source role)
  · rfl

/-- A profile is looked at before those that it is built on. -/
theorem visitsFrom_succ (start : String) (left : Nat) (hnew : current ∉ visited) :
    ∃ rest, files.visitsFrom start (left + 1) visited current = current :: rest ∧
      (rest = [] ∨ ∃ source, files.NamesSource current source ∧
        rest = files.visitsFrom start left (visited ++ [current]) source) := by
  cases hfound : files.profile? current with
  | none => exact ⟨[], visitsFrom_unknown hnew hfound, .inl rfl⟩
  | some p =>
    by_cases hstep : ∃ source role, p.step (current ≠ start) = .ok (.follows source role)
    · obtain ⟨source, role, hstep⟩ := hstep
      obtain ⟨-, hsource, hother, -⟩ := Profile.step_eq_ok_iff.1 hstep
      rw [name_of_profile? hfound] at hother
      exact ⟨_, visitsFrom_follows hnew hfound hstep,
        .inr ⟨source, ⟨p, hfound, hsource, hother⟩, rfl⟩⟩
    · exact ⟨[], visitsFrom_ends hnew hfound fun source role h => hstep ⟨source, role, h⟩, .inl rfl⟩

/-- No profile is looked at twice, and each one is named by the one before it. -/
theorem visitsFrom_nodup : (files.visitsFrom start left visited current).Nodup ∧
    (∀ name ∈ files.visitsFrom start left visited current, name ∉ visited) ∧
    (files.visitsFrom start left visited current).length ≤ left ∧
    (files.visitsFrom start left visited current).IsChain files.NamesSource ∧
    ∀ name ∈ (files.visitsFrom start left visited current).head?, name = current := by
  induction left generalizing visited current with
  | zero => simp [visitsFrom_zero]
  | succ left ih =>
    by_cases hold : current ∈ visited
    · simp [visitsFrom_visited hold]
    obtain ⟨rest, hvisits, rfl | ⟨source, hsource, rfl⟩⟩ := files.visitsFrom_succ start left hold
    · simp [hvisits, hold]
    obtain ⟨hnodup, hfresh, hlength, links, hhead⟩ := @ih source (visited ++ [current])
    have hlater (name : String)
        (h : name ∈ files.visitsFrom start left (visited ++ [current]) source) :
        name ∉ visited ∧ name ≠ current := by
      simpa using hfresh name h
    rw [hvisits]
    refine ⟨List.nodup_cons.2 ⟨fun h => (hlater current h).2 rfl, hnodup⟩,
      List.forall_mem_cons.2 ⟨hold, fun name h => (hlater name h).1⟩, by simpa using hlength,
      List.isChain_cons.2 ⟨fun name h => ?_, links⟩, by simp⟩
    rw [hhead name h]
    exact hsource

/-- The profiles that are not looked at have no influence. -/
theorem follow_congr {files' : SharedFiles} (hpaths : files'.paths = files.paths)
    (h : ∀ name ∈ files.visitsFrom start left visited current,
      files'.profile? name = files.profile? name) :
    files'.follow start left visited current = files.follow start left visited current := by
  -- as in `visitsFrom`, the current profile is looked at before its source
  induction left generalizing visited current with
  | zero =>
    unfold follow
    rfl
  | succ left ih =>
    by_cases hold : current ∈ visited
    · unfold follow
      rw [if_pos (List.contains_iff_mem.2 hold), if_pos (List.contains_iff_mem.2 hold)]
    cases hfound : files.profile? current with
    | none =>
      rw [visitsFrom_unknown hold hfound] at h
      have hfound' := (h current (List.mem_singleton_self _)).trans hfound
      rw [follow_unknown hold hfound, follow_unknown hold hfound', hpaths]
    | some p =>
      obtain ⟨rest, hvisits, -⟩ := files.visitsFrom_succ start left hold
      have hfound' := (h current (hvisits ▸ List.mem_cons_self)).trans hfound
      rw [follow_succ hold hfound, follow_succ hold hfound']
      cases hstep : p.step (current ≠ start) with
      | error e => rfl
      | ok step =>
        cases step with
        | ends base role => rfl
        | follows source role =>
          rw [visitsFrom_follows hold hfound hstep] at h
          have hinner := ih fun name hname => h name (List.mem_cons_of_mem _ hname)
          show (files'.follow start left (visited ++ [current]) source >>= _) = _
          rw [hinner]
          rfl

/-- The last profile of a walk that meets none of them twice is the one that it starts at only if
there is no other. -/
theorem last_is_start_iff {last : Profile} (hwalk : files.Walk start (path ++ [last]))
    (hnodup : ((path ++ [last]).map Profile.name).Nodup) : last.name = start ↔ path = [] := by
  obtain ⟨p, hp, hfound⟩ := hwalk.starts
  have hname := name_of_profile? hfound
  cases path with
  | nil =>
    obtain rfl : last = p := Option.some.inj hp
    simp [hname]
  | cons q path =>
    obtain rfl : q = p := Option.some.inj hp
    have hdistinct : q.name ≠ last.name := by
      intro hsame
      refine (List.nodup_cons.1 hnodup).1 ?_
      rw [hsame]
      exact List.mem_map_of_mem (by simp)
    simp [← hname, hdistinct.symm]

/-- A plan is made from the profiles along the source profiles. They are looked at one after the
other from the given one, none of them twice, no more than sixteen of them and no other profile.
There is a plan exactly if the walk that they are on comes to an end in this way, each profile of it
but the last one passes the chain on, and the last one ends it. The plan has the base that the last
one gives, and the roles of the walk from its end to its start. -/
theorem plan_along_sources (files : SharedFiles) (name : String) :
    ((files.visits name).Nodup ∧ (files.visits name).length ≤ 16 ∧
      (files.visits name).head? = some name ∧ (files.visits name).IsChain files.NamesSource ∧
      ∀ files' : SharedFiles, files'.paths = files.paths →
        (∀ visited ∈ files.visits name, files'.profile? visited = files.profile? visited) →
        files'.plan name = files.plan name) ∧
    ∀ plan, files.plan name = .ok plan ↔ ∃ path last,
      files.Walk name (path ++ [last]) ∧ ((path ++ [last]).map Profile.name).Nodup ∧
      (path ++ [last]).length ≤ 16 ∧ (∀ p ∈ path, p.PassesOn) ∧
      last.EndsWith (path = []) plan.base ∧
      plan.roles = Profile.rolesAlong (path ++ [last]) := by
  obtain ⟨hnodup, -, hlength, links, -⟩ :=
    @visitsFrom_nodup files name name longestChain []
  obtain ⟨rest, hvisits, -⟩ := @visitsFrom_succ files name [] name 15 List.not_mem_nil
  have hhead : (files.visits name).head? = some name := congrArg List.head? hvisits
  refine ⟨⟨hnodup, hlength, hhead, links, fun files' hpaths h => follow_congr hpaths h⟩,
    fun plan => follow_eq_ok_iff.trans ?_⟩
  constructor
  · rintro ⟨path, last, hwalk, hdistinct, -, hshort, hpasses, hends, hroles⟩
    rw [last_is_start_iff hwalk hdistinct] at hends
    exact ⟨path, last, hwalk, hdistinct, hshort, hpasses, hends, hroles⟩
  · rintro ⟨path, last, hwalk, hdistinct, hshort, hpasses, hends, hroles⟩
    rw [← last_is_start_iff hwalk hdistinct] at hends
    exact ⟨path, last, hwalk, hdistinct, nofun, hshort, hpasses, hends, hroles⟩

/-- A role with the keys of another profile. A profile that nothing names makes no difference. -/
theorem plan_of_role_on_keys :
    let deploy : Profile := ⟨"deploy", [("role_arn", "arn:aws:iam::111111111111:role/A"),
      ("source_profile", "base"), ("duration_seconds", "900")]⟩
    let base : Profile :=
      ⟨"base", [("aws_access_key_id", "AKIA"), ("aws_secret_access_key", "secret")]⟩
    let files : SharedFiles := ⟨[deploy, base], []⟩
    files.visits "deploy" = ["deploy", "base"] ∧
      SharedFiles.plan ⟨[deploy, Profile.named "other", base], []⟩ "deploy" = files.plan "deploy" ∧
      files.plan "deploy" = .ok ⟨.keys (.longLived "AKIA" "secret" none .sharedProfile),
        [{ arn := "arn:aws:iam::111111111111:role/A", duration := some (.ofSeconds 900) }]⟩ := by
  intro deploy base files
  have hvisits : files.visits "deploy" = ["deploy", "base"] := by decide +kernel
  obtain ⟨⟨-, -, -, -, same⟩, planned⟩ := plan_along_sources files "deploy"
  refine ⟨hvisits, same _ rfl ?_,
    (planned _).2 ⟨[deploy], base, ?_, by decide, by decide, ?_, ?_, ?_⟩⟩
  · rw [hvisits]
    decide
  · exact (walk_cons_iff (by simp)).2 ⟨by decide, "base", by decide, by decide,
      walk_singleton_iff.2 ⟨by decide, by decide⟩⟩
  · refine List.forall_mem_singleton.2 ⟨by decide, ⟨"base", by decide⟩, ?_⟩
    unfold Profile.DurationReads
    decide
  · exact .keys (by decide) (by decide) ⟨"AKIA", "secret", by decide, by decide, by decide⟩
  · decide +kernel

end SharedFiles

end AwsCredentials
