import AwsCredentials.Proofs.Roles.Turns

/-!
# The length of a session

A request for a role says how many seconds the session shall last: an hour if no length is given or
one of no time, and otherwise the whole seconds of the length, as long as they are a number of 31
bits. Whether a length is of no time is told by all of its nanoseconds. So of a length below a second
nothing is left, and a session of no second is asked for.

* `IsSessionLength`: which number of seconds belongs to a given length;
* `isSessionLength_zero_iff`: when it is zero;
* `sessionAsked_eq_ok_iff`, `exists_sessionAsked_error_iff`: what is asked for and what is refused;
* `requests_ask_for_length`: the two kinds of requests ask for it, and agree.
-/

namespace AwsCredentials

open Text (blank)

/-! ## Seconds -/

/-- Whether so many seconds are asked for if a length is given, or if none is. -/
structure IsSessionLength (given : Option Duration) (seconds : Int) : Prop where
  usual : (∀ d ∈ given, d = .zero) → seconds = 3600
  whole : ∀ d ∈ given, d ≠ .zero → seconds = d.seconds
  bounded : seconds ≤ 2147483647

theorem usual_or_some (given : Option Duration) :
    (∀ d ∈ given, d = .zero) ∨ ∃ d, given = some d ∧ d ≠ .zero := by
  cases given with
  | none => exact .inl nofun
  | some d =>
    by_cases h : d = .zero
    · exact .inl fun e he => Option.some.inj he ▸ h
    · exact .inr ⟨d, rfl, h⟩

theorem isSessionLength_usual_iff {given : Option Duration} {n : Int}
    (h : ∀ d ∈ given, d = .zero) : IsSessionLength given n ↔ n = 3600 := by
  constructor
  · intro hlength
    exact hlength.usual h
  · rintro rfl
    exact ⟨fun _ => rfl, fun d hd hne => absurd (h d hd) hne, by omega⟩

theorem isSessionLength_some_iff {d : Duration} {n : Int} (h : d ≠ .zero) :
    IsSessionLength (some d) n ↔ n = d.seconds ∧ d.seconds ≤ 2147483647 := by
  constructor
  · intro hlength
    have hn := hlength.whole d rfl h
    have hbound := hlength.bounded
    exact ⟨hn, by omega⟩
  · rintro ⟨rfl, hbound⟩
    refine ⟨fun husual => absurd (husual d rfl) h, fun e he _ => ?_, by omega⟩
    rw [Option.some.inj he]

/-- No second is asked for exactly if the given length is below a second, but not zero. -/
theorem isSessionLength_zero_iff {given : Option Duration} :
    IsSessionLength given 0 ↔ ∃ d, given = some d ∧ 0 < d.nanos ∧ d.nanos < 1000000000 := by
  obtain husual | ⟨d, rfl, hne⟩ := usual_or_some given
  · rw [isSessionLength_usual_iff husual]
    refine iff_of_false (by omega) ?_
    rintro ⟨d, rfl, hpos, -⟩
    rw [husual d rfl] at hpos
    exact absurd hpos (Nat.lt_irrefl 0)
  · have hpos : 0 < d.nanos := Nat.pos_of_ne_zero fun hzero => hne (congrArg Duration.mk hzero)
    rw [isSessionLength_some_iff hne, Duration.seconds]
    constructor
    · rintro ⟨hzero, -⟩
      exact ⟨d, rfl, hpos, by omega⟩
    · rintro ⟨e, he, -, hbelow⟩
      obtain rfl := Option.some.inj he
      exact ⟨by omega, by omega⟩

/-! ## What is asked for -/

/-- What a request says of the length of its session, or why there is no request. -/
def sessionAsked (arn : String) (given : Option Duration) : Except Error Int := do
  checkRoleArn arn
  let seconds ← sessionSeconds arn given
  return seconds

variable {arn : String} {given : Option Duration}

theorem sessionAsked_of_blank (h : blank arn = true) :
    sessionAsked arn given = .error (.role arn "role ARN must not be empty" none) := by
  rw [sessionAsked, checkRoleArn_of_blank h]
  rfl

theorem sessionAsked_usual (harn : blank arn = false) (h : ∀ d ∈ given, d = .zero) :
    sessionAsked arn given = .ok 3600 := by
  have hnone : given.filter (· ≠ Duration.zero) = none := by
    rw [Option.filter_eq_none_iff]
    intro d hd
    simp [h d hd]
  rw [sessionAsked, checkRoleArn_of_not_blank harn, sessionSeconds, hnone]
  rfl

theorem sessionAsked_some (harn : blank arn = false) {d : Duration} (h : d ≠ .zero) :
    sessionAsked arn (some d) =
      if d.seconds ≤ 2147483647 then .ok d.seconds
      else .error (.role arn ("session duration " ++ d.text ++ " is out of range") none) := by
  have hsome : (some d).filter (· ≠ Duration.zero) = some d := by simp [h]
  rw [sessionAsked, checkRoleArn_of_not_blank harn, sessionSeconds, hsome, Option.getD_some,
    longestSession]
  by_cases hbound : d.seconds ≤ 2147483647
  · rw [if_pos hbound, if_pos hbound]
    rfl
  · rw [if_neg hbound, if_neg hbound]
    rfl

theorem sessionAsked_eq_ok_iff {n : Int} :
    sessionAsked arn given = .ok n ↔ blank arn = false ∧ IsSessionLength given n := by
  cases harn : blank arn with
  | true =>
    rw [sessionAsked_of_blank harn]
    exact iff_of_false nofun fun h => absurd h.1 (by decide)
  | false =>
    rw [and_iff_right rfl]
    obtain husual | ⟨d, rfl, hne⟩ := usual_or_some given
    · rw [sessionAsked_usual harn husual, isSessionLength_usual_iff husual, Except.ok.injEq, eq_comm]
    · rw [sessionAsked_some harn hne, isSessionLength_some_iff hne]
      split
      · next hbound => rw [Except.ok.injEq, and_iff_left hbound, eq_comm]
      · next hlong => exact iff_of_false nofun fun h => hlong h.2

theorem exists_sessionAsked_error_iff :
    (∃ e, sessionAsked arn given = .error e) ↔
      blank arn = true ∨ ∃ d, given = some d ∧ 2147483647 < d.seconds := by
  cases harn : blank arn with
  | true => exact iff_of_true ⟨_, sessionAsked_of_blank harn⟩ (.inl rfl)
  | false =>
    rw [or_iff_right Bool.false_ne_true]
    obtain husual | ⟨d, rfl, hne⟩ := usual_or_some given
    · rw [sessionAsked_usual harn husual]
      refine iff_of_false nofun ?_
      rintro ⟨d, rfl, hlong⟩
      rw [husual d rfl] at hlong
      exact absurd hlong (by decide)
    · rw [sessionAsked_some harn hne]
      constructor
      · rintro ⟨e, he⟩
        refine ⟨d, rfl, ?_⟩
        split at he
        · cases he
        · omega
      · rintro ⟨e, he, hlong⟩
        obtain rfl := Option.some.inj he
        exact ⟨_, if_neg (by omega)⟩

/-! ## Requests -/

theorem RoleSpec.map_request (spec : RoleSpec) (now : Instant) :
    (spec.request now).map RoleRequest.durationSeconds = sessionAsked spec.arn spec.duration := by
  unfold RoleSpec.request sessionAsked RoleSpec.check
  cases checkRoleArn spec.arn with
  | error e => rfl
  | ok _ => cases sessionSeconds spec.arn spec.duration <;> rfl

theorem WebRoleSpec.map_request (spec : WebRoleSpec) (token : String) (now : Instant) :
    (spec.request token now).map WebRoleRequest.durationSeconds =
      sessionAsked spec.arn spec.duration := by
  unfold WebRoleSpec.request sessionAsked WebRoleSpec.check
  cases checkRoleArn spec.arn with
  | error e => rfl
  | ok _ => cases sessionSeconds spec.arn spec.duration <;> rfl

/-- What is asked for if a role has an ARN and a length is given: the seconds, when there are none, and
when there is no request. -/
structure AsksForLength (arn : String) (given : Option Duration) (asked : Except Error Int) :
    Prop where
  ok_iff : ∀ n, asked = .ok n ↔ blank arn = false ∧ IsSessionLength given n
  zero_iff : asked = .ok 0 ↔
    blank arn = false ∧ ∃ d, given = some d ∧ 0 < d.nanos ∧ d.nanos < 1000000000
  error_iff : (∃ e, asked = .error e) ↔
    blank arn = true ∨ ∃ d, given = some d ∧ 2147483647 < d.seconds

theorem asksForLength_sessionAsked (arn : String) (given : Option Duration) :
    AsksForLength arn given (sessionAsked arn given) where
  ok_iff _ := sessionAsked_eq_ok_iff
  zero_iff := by rw [sessionAsked_eq_ok_iff, isSessionLength_zero_iff]
  error_iff := exists_sessionAsked_error_iff

/-- Each kind of request asks for the length that is given, whatever the time and the token, and the two
ask for the same of equal lengths. -/
theorem requests_ask_for_length (spec : RoleSpec) (web : WebRoleSpec) (token : String)
    (now now' : Instant) :
    let asked := (spec.request now).map RoleRequest.durationSeconds
    let askedWeb := (web.request token now').map WebRoleRequest.durationSeconds
    AsksForLength spec.arn spec.duration asked ∧ AsksForLength web.arn web.duration askedWeb ∧
      (spec.duration = web.duration → blank spec.arn = blank web.arn →
        ∀ n, asked = .ok n ↔ askedWeb = .ok n) := by
  intro asked askedWeb
  have hasked : AsksForLength spec.arn spec.duration asked := by
    simp only [asked, spec.map_request]
    exact asksForLength_sessionAsked _ _
  have haskedWeb : AsksForLength web.arn web.duration askedWeb := by
    simp only [askedWeb, web.map_request]
    exact asksForLength_sessionAsked _ _
  refine ⟨hasked, haskedWeb, fun hduration harn n => ?_⟩
  rw [hasked.ok_iff, haskedWeb.ok_iff, hduration, harn]

/-- A nanosecond below the first second too long, the longest session is asked for, with either kind
of request. -/
theorem longest_session_is_asked_for :
    let arn := "arn:aws:iam::555555555555:role/Example"
    let spec : RoleSpec := { arn, duration := some ⟨2147483647999999999⟩ }
    let web : WebRoleSpec := { arn, duration := some ⟨2147483647999999999⟩ }
    (spec.request ⟨0⟩).map RoleRequest.durationSeconds = .ok 2147483647 ∧
      (web.request "token" ⟨0⟩).map WebRoleRequest.durationSeconds = .ok 2147483647 := by
  intro arn spec web
  obtain ⟨hasked, -, hagree⟩ := requests_ask_for_length spec web "token" ⟨0⟩ ⟨0⟩
  have hlength : IsSessionLength spec.duration 2147483647 :=
    (isSessionLength_some_iff (by decide)).2 ⟨by decide, by decide⟩
  have hrole := (hasked.ok_iff 2147483647).2 ⟨by decide, hlength⟩
  exact ⟨hrole, (hagree rfl rfl 2147483647).1 hrole⟩

/-- For a second less a nanosecond, a session of no second is asked for. -/
theorem shorter_than_a_second_asks_for_none :
    let arn := "arn:aws:iam::555555555555:role/Example"
    let spec : RoleSpec := { arn, duration := some ⟨999999999⟩ }
    let web : WebRoleSpec := { arn, duration := some ⟨999999999⟩ }
    spec.duration ≠ some .zero ∧
      (spec.request ⟨1700000000123000000⟩).map RoleRequest.durationSeconds = .ok 0 ∧
      (web.request "token" ⟨1700000000123000000⟩).map WebRoleRequest.durationSeconds = .ok 0 := by
  refine ⟨by decide, ?_, ?_⟩
  · rw [RoleSpec.map_request, sessionAsked_eq_ok_iff, isSessionLength_zero_iff]
    exact ⟨by decide, _, rfl, by decide, by decide⟩
  · rw [WebRoleSpec.map_request, sessionAsked_eq_ok_iff, isSessionLength_zero_iff]
    exact ⟨by decide, _, rfl, by decide, by decide⟩

end AwsCredentials
