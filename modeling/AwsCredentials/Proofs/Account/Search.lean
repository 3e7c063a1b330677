import AwsCredentials.Proofs.Account.Number
import AwsCredentials.Proofs.Account.Partition
import AwsCredentials.Proofs.Session.Identity

/-!
# The search for an account

The account is looked for in one resource name after another: that of the owner, that of the user,
that of the first role, and the one that came with the credentials. An `AccountSearch` holds the
questions that are put on the way with their last answers, `Follows` says which ones are put, and
`account?` which name decides.

* `exists_unique_follows`: what is answered each time leads to one search;
* `makes_findAccount_iff`: the search is what is done;
* `findAccount_by_first_name`: the rule, that it does not matter how the question for the user
  failed, and that the region tells the partition if no name does.
-/

namespace AwsCredentials

open AwsCredentials.Task (Makes)

/-- The questions that are put to find an account: those for the user and those for a role, and the
last answer to each, if it was put. -/
structure AccountSearch where
  users : List (Answered Services)
  user : Option (Except ApiError String)
  lists : List (Answered Services)
  roles : Option (Except ApiError (List String))

/-- The failure of an answer, if it is one. -/
def failure? {α : Type} : Except ApiError α → Option ApiError
  | .ok _ => none
  | .error e => some e

namespace AccountSearch

variable (x : AccountSearch)

/-- All calls in their order. -/
def calls : List (Answered Services) := x.users ++ x.lists

/-- The last failures, that of the user first. -/
def failures : List ApiError := (x.user.bind failure?).toList ++ (x.roles.bind failure?).toList

/-- The name that the user is told to have. -/
def userArn? : Option String := x.user.bind Except.toOption

/-- The name of the first role that is told. -/
def roleArn? : Option String := (x.roles.bind Except.toOption).bind List.head?

/-- The account that the first of all names tells which tells one. -/
def account? (caller : Option CallerIdentity) (c : Credentials) : Option Account :=
  ((caller.map CallerIdentity.arn).toList ++ x.userArn?.toList ++ x.roleArn?.toList ++
    c.principalArn.toList).findSome? Account.ofArn?

/-- What the search comes to. Without an account the partition is that of the region, and the failures
are kept if the account was looked for. -/
def lookup (c : Credentials) (region : String) (caller : Option CallerIdentity) (skip : Bool) :
    AccountLookup :=
  match x.account? caller c with
  | some account => ⟨account, none⟩
  | none => ⟨⟨"", Partition.ofRegion region⟩, if skip then none else some (.account x.failures)⟩

end AccountSearch

/-- Whether a question is put as often as its answers allow, or not at all. -/
inductive Put {α : Type} (retry : RetryPolicy) (one : Except ApiError α → Answered Services)
    (o : Nat → Except ApiError α) :
    Bool → List (Answered Services) → Option (Except ApiError α) → Prop
  | no : Put retry one o false [] none
  | yes {n : Nat} :
    retry.IsLast 0 o n → Put retry one o true (RetryPolicy.callsTo one o n) (some (o n))

/-- Whether the user is asked for: nothing forbids it and the owner does not tell the account. -/
def asksUser (caller : Option CallerIdentity) (skip : Bool) : Bool :=
  !skip && (caller.bind fun caller => Account.ofArn? caller.arn).isNone

/-- Whether a role is asked for: the user was asked for and does not tell the account. -/
def asksRoles (user : Option (Except ApiError String)) : Bool :=
  user.any fun answer => (answer.toOption.bind Account.ofArn?).isNone

/-- Whether a search puts the questions that it has to put, given what they are answered each time. -/
structure AccountSearch.Follows (x : AccountSearch) (retry : RetryPolicy) (c : Credentials)
    (caller : Option CallerIdentity) (skip : Bool) (u : Nat → Except ApiError String)
    (l : Nat → Except ApiError (List String)) : Prop where
  user : Put retry (Answered.getUser c) u (asksUser caller skip) x.users x.user
  roles : Put retry (Answered.listRoles c) l (asksRoles x.user) x.lists x.roles

variable {retry : RetryPolicy} {c : Credentials} {region : String} {caller : Option CallerIdentity}
  {skip : Bool} {u u' : Nat → Except ApiError String} {l : Nat → Except ApiError (List String)}
  {cs : List (Answered Services)} {x x' : AccountSearch}

/-! ## One search for all answers -/

section

variable {α : Type} {one : Except ApiError α → Answered Services} {o : Nat → Except ApiError α}

theorem exists_put (retry : RetryPolicy) (one : Except ApiError α → Answered Services)
    (o : Nat → Except ApiError α) (asks : Bool) : ∃ cs last, Put retry one o asks cs last := by
  cases asks with
  | false => exact ⟨_, _, .no⟩
  | true =>
    obtain ⟨n, hlast, -⟩ := RetryPolicy.existsUnique_isLast (p := retry) o
    exact ⟨_, _, .yes hlast⟩

theorem Put.unique {asks : Bool} {cs cs' : List (Answered Services)}
    {last last' : Option (Except ApiError α)} (h : Put retry one o asks cs last)
    (h' : Put retry one o asks cs' last') : cs' = cs ∧ last' = last := by
  cases h with
  | no => cases h'; exact ⟨rfl, rfl⟩
  | yes hlast =>
    cases h' with
    | yes hlast' =>
      obtain rfl := (RetryPolicy.existsUnique_isLast o).unique hlast hlast'
      exact ⟨rfl, rfl⟩

end

theorem exists_unique_follows (retry : RetryPolicy) (c : Credentials) (caller : Option CallerIdentity)
    (skip : Bool) (u : Nat → Except ApiError String) (l : Nat → Except ApiError (List String)) :
    ∃! x : AccountSearch, x.Follows retry c caller skip u l := by
  obtain ⟨users, user, huser⟩ := exists_put retry (Answered.getUser c) u (asksUser caller skip)
  obtain ⟨lists, roles, hroles⟩ := exists_put retry (Answered.listRoles c) l (asksRoles user)
  refine ⟨⟨users, user, lists, roles⟩, ⟨huser, hroles⟩, ?_⟩
  rintro ⟨users', user', lists', roles'⟩ ⟨huser', hroles'⟩
  obtain ⟨rfl, rfl⟩ := huser.unique huser'
  obtain ⟨rfl, rfl⟩ := hroles.unique hroles'
  rfl

/-! ## The search is done -/

theorem findSome?_toList {α β : Type} (f : α → Option β) (a : Option α) :
    a.toList.findSome? f = a.bind f := by
  cases a <;> simp

namespace RetryPolicy

theorem makes_perform_iff_put {α : Type} {call : ServiceTask (Except ApiError α)}
    {r : Except ApiError α} (one : Except ApiError α → Answered Services)
    (hcall : ∀ cs r, Makes call cs r ↔ cs = [one r]) :
    Makes (retry.perform call) cs r ↔ ∃ o, Put retry one o true cs (some r) := by
  rw [makes_perform_iff hcall]
  constructor
  · rintro ⟨o, n, hlast, rfl, rfl⟩
    exact ⟨o, .yes hlast⟩
  · rintro ⟨o, ⟨⟩⟩
    exact ⟨o, _, ‹_›, rfl, rfl⟩

/-- What an answer to the question for the user comes to. -/
def userResult (r : Except ApiError String) : Option Account × List ApiError :=
  (r.toOption.bind Account.ofArn?, (failure? r).toList)

/-- What an answer to the question for a role comes to. -/
def rolesResult (r : Except ApiError (List String)) : Option Account × List ApiError :=
  ((r.toOption.bind List.head?).bind Account.ofArn?, (failure? r).toList)

theorem quiet_accountOfUser : (retry.accountOfUser c).quiet =
    ((retry.perform (Services.getUser c)).bind fun r => .done (userResult r)).quiet := by
  refine (Task.quiet_bind (retry.perform (Services.getUser c)) _).trans ?_
  rw [Task.quiet_bind]
  congr 1
  funext r
  cases r with
  | ok arn =>
    dsimp only
    cases harn : Account.ofArn? arn with
    | some account => simp [userResult, Except.toOption, failure?, harn]; rfl
    | none => simp [userResult, Except.toOption, failure?, harn]; rfl
  | error e =>
    dsimp only
    split <;> rfl

theorem quiet_accountOfRoles : (retry.accountOfRoles c).quiet =
    ((retry.perform (Services.listRoles c 1)).bind fun r => .done (rolesResult r)).quiet := by
  refine (Task.quiet_bind (retry.perform (Services.listRoles c 1)) _).trans ?_
  rw [Task.quiet_bind]
  congr 1
  funext r
  cases r <;> rfl

theorem makes_accountOfUser_iff {r : Option Account × List ApiError} :
    Makes (retry.accountOfUser c) cs r ↔
      ∃ answer, (∃ u, Put retry (Answered.getUser c) u true cs (some answer)) ∧
        r = userResult answer := by
  rw [Task.makes_iff_of_quiet quiet_accountOfUser, Task.makes_map_iff]
  exact exists_congr fun answer => and_congr_left'
    (makes_perform_iff_put (Answered.getUser c) fun _ _ => Task.makes_call_done_iff)

theorem makes_accountOfRoles_iff {r : Option Account × List ApiError} :
    Makes (retry.accountOfRoles c) cs r ↔
      ∃ answer, (∃ l, Put retry (Answered.listRoles c) l true cs (some answer)) ∧
        r = rolesResult answer := by
  rw [Task.makes_iff_of_quiet quiet_accountOfRoles, Task.makes_map_iff]
  exact exists_congr fun answer => and_congr_left'
    (makes_perform_iff_put (Answered.listRoles c) fun _ _ => Task.makes_call_done_iff)

/-- What the services tell of an account. -/
def told (x : AccountSearch) : Option Account × List ApiError :=
  ((x.userArn?.bind Account.ofArn?).or (x.roleArn?.bind Account.ofArn?), x.failures)

/-- What is asked after the user failed to tell the account. -/
theorem makes_afterUser_iff {errors : List ApiError} {r : Option Account × List ApiError} :
    Makes (do
      let (account, more) ← retry.accountOfRoles c
      if account.isNone then
        Task.note (.debug .identity "IAM account lookup found nothing")
      return (account, errors ++ more)) cs r ↔
    ∃ answer, (∃ l, Put retry (Answered.listRoles c) l true cs (some answer)) ∧
      r = ((rolesResult answer).1, errors ++ (rolesResult answer).2) := by
  have same : (do
      let (account, more) ← retry.accountOfRoles c
      if account.isNone then
        Task.note (.debug .identity "IAM account lookup found nothing")
      return (account, errors ++ more) : ServiceTask _).quiet =
      ((retry.accountOfRoles c).bind fun r => .done (r.1, errors ++ r.2)).quiet := by
    refine (Task.quiet_bind (retry.accountOfRoles c) _).trans ?_
    rw [Task.quiet_bind]
    congr 1
    funext r
    obtain ⟨account, more⟩ := r
    cases account <;> rfl
  rw [Task.makes_iff_of_quiet same, Task.makes_map_iff]
  simp only [makes_accountOfRoles_iff]
  constructor
  · rintro ⟨_, ⟨answer, hput, rfl⟩, hr⟩
    exact ⟨answer, hput, hr⟩
  · rintro ⟨answer, hput, hr⟩
    exact ⟨_, ⟨answer, hput, rfl⟩, hr⟩

/-- What is done with what the user tells. -/
theorem makes_askForAccount_iff {r : Option Account × List ApiError} :
    Makes (retry.askForAccount c) cs r ↔ ∃ (x : AccountSearch)
      (u : Nat → Except ApiError String) (l : Nat → Except ApiError (List String)),
      Put retry (Answered.getUser c) u true x.users x.user ∧
        Put retry (Answered.listRoles c) l (asksRoles x.user) x.lists x.roles ∧
        cs = x.calls ∧ r = told x := by
  refine Task.makes_bind_iff.trans ?_
  simp only [makes_accountOfUser_iff]
  have asks {answer : Except ApiError String} :
      asksRoles (some answer) = (answer.toOption.bind Account.ofArn?).isNone := rfl
  constructor
  · rintro ⟨users, _, lists, ⟨answer, ⟨u, huser⟩, rfl⟩, hrest, rfl⟩
    unfold userResult at hrest
    cases hanswer : answer.toOption.bind Account.ofArn? with
    | some account =>
      rw [hanswer] at hrest
      obtain ⟨rfl, rfl⟩ := Task.makes_done_iff.1 hrest
      refine ⟨⟨users, some answer, [], none⟩, u, fun _ => .ok [], huser, ?_, rfl, ?_⟩
      · rw [asks, hanswer]
        exact .no
      · simp [told, AccountSearch.userArn?, AccountSearch.failures, hanswer]
    | none =>
      rw [hanswer] at hrest
      obtain ⟨roles, ⟨l, hroles⟩, rfl⟩ := makes_afterUser_iff.1 hrest
      refine ⟨⟨users, some answer, lists, some roles⟩, u, l, huser, ?_, rfl, ?_⟩
      · rw [asks, hanswer]
        exact hroles
      · simp [told, AccountSearch.userArn?, AccountSearch.roleArn?, AccountSearch.failures, hanswer,
          rolesResult]
  · rintro ⟨⟨users, user, lists, roles⟩, u, l, huser, hroles, rfl, rfl⟩
    obtain ⟨answer, rfl⟩ : ∃ answer, user = some answer := by cases huser; exact ⟨_, rfl⟩
    refine ⟨users, _, lists, ⟨answer, ⟨u, huser⟩, rfl⟩, ?_, rfl⟩
    unfold userResult
    dsimp only at hroles
    rw [asks] at hroles
    cases hanswer : answer.toOption.bind Account.ofArn? with
    | some account =>
      rw [hanswer] at hroles
      cases hroles
      exact Task.makes_done_iff.2 ⟨rfl, by
        simp [told, AccountSearch.userArn?, AccountSearch.failures, hanswer]⟩
    | none =>
      rw [hanswer] at hroles
      obtain ⟨roles, rfl⟩ : ∃ answer, roles = some answer := by cases hroles; exact ⟨_, rfl⟩
      refine makes_afterUser_iff.2 ⟨roles, ⟨l, hroles⟩, ?_⟩
      simp [told, AccountSearch.userArn?, AccountSearch.roleArn?, AccountSearch.failures, hanswer,
        rolesResult]

/-- What the search comes to once nobody else can tell the account. -/
def principalResult (c : Credentials) (region : String) (errors : Option (List ApiError)) :
    AccountLookup :=
  match c.principalArn.bind Account.ofArn? with
  | some account => ⟨account, none⟩
  | none => ⟨⟨"", Partition.ofRegion region⟩, errors.map Error.account⟩

theorem makes_found_iff {account : Account} {lookup : AccountLookup} :
    Makes (found account) cs lookup ↔ cs = [] ∧ lookup = ⟨account, none⟩ :=
  Task.makes_iff_of_quiet_done rfl

theorem makes_accountOfPrincipal_iff {errors : Option (List ApiError)} {lookup : AccountLookup} :
    Makes (accountOfPrincipal c region errors) cs lookup ↔
      cs = [] ∧ lookup = principalResult c region errors := by
  refine Task.makes_iff_of_quiet_done ?_
  unfold accountOfPrincipal principalResult
  cases c.principalArn.bind Account.ofArn? with
  | some account => rfl
  | none => cases errors <;> rfl

/-- What the search comes to once the services were asked. -/
def askedResult (c : Credentials) (region : String) : Option Account × List ApiError → AccountLookup
  | (some account, _) => ⟨account, none⟩
  | (none, errors) => principalResult c region (some errors)

theorem account?_eq (x : AccountSearch) (caller : Option CallerIdentity) (c : Credentials) :
    x.account? caller c = (caller.bind fun caller => Account.ofArn? caller.arn).or
      (((x.userArn?.bind Account.ofArn?).or (x.roleArn?.bind Account.ofArn?)).or
        (c.principalArn.bind Account.ofArn?)) := by
  simp only [AccountSearch.account?, List.findSome?_append, findSome?_toList, Option.or_assoc]
  cases caller <;> rfl

/-- What is known before the services are asked is enough. -/
theorem lookup_of_caller {account : Account}
    (hcaller : (caller.bind fun caller => Account.ofArn? caller.arn) = some account) :
    x.lookup c region caller skip = ⟨account, none⟩ := by
  unfold AccountSearch.lookup
  rw [account?_eq, hcaller]
  rfl

theorem lookup_of_skip (hcaller : (caller.bind fun caller => Account.ofArn? caller.arn) = none) :
    AccountSearch.lookup ⟨[], none, [], none⟩ c region caller true =
      principalResult c region none := by
  unfold AccountSearch.lookup principalResult
  rw [account?_eq, hcaller]
  cases c.principalArn.bind Account.ofArn? <;> rfl

theorem lookup_of_told (hcaller : (caller.bind fun caller => Account.ofArn? caller.arn) = none) :
    x.lookup c region caller false = askedResult c region (told x) := by
  unfold AccountSearch.lookup askedResult told
  rw [account?_eq, hcaller, Option.none_or]
  cases (x.userArn?.bind Account.ofArn?).or (x.roleArn?.bind Account.ofArn?) with
  | some account => rfl
  | none =>
    unfold principalResult
    cases c.principalArn.bind Account.ofArn? <;> rfl

/-- Nothing is asked for if the user is not. -/
theorem eq_of_not_asksUser (h : x.Follows retry c caller skip u l)
    (hasks : asksUser caller skip = false) : x = ⟨[], none, [], none⟩ := by
  obtain ⟨users, user, lists, roles⟩ := x
  obtain ⟨huser, hroles⟩ := h
  rw [hasks] at huser
  cases huser
  cases hroles
  rfl

/-- The search is what is done, for all that is answered. -/
theorem makes_findAccount_iff {lookup : AccountLookup} :
    Makes (retry.findAccount c region caller skip) cs lookup ↔ ∃ (x : AccountSearch)
      (u : Nat → Except ApiError String) (l : Nat → Except ApiError (List String)),
      x.Follows retry c caller skip u l ∧ cs = x.calls ∧
        lookup = x.lookup c region caller skip := by
  -- a search that asks for nothing is the only one, and what it comes to decides
  have silent (result : AccountLookup) (hasks : asksUser caller skip = false)
      (hresult : AccountSearch.lookup ⟨[], none, [], none⟩ c region caller skip = result) :
      (cs = [] ∧ lookup = result) ↔ ∃ (x : AccountSearch) (u : Nat → Except ApiError String)
        (l : Nat → Except ApiError (List String)), x.Follows retry c caller skip u l ∧
          cs = x.calls ∧ lookup = x.lookup c region caller skip := by
    subst hresult
    constructor
    · rintro ⟨rfl, rfl⟩
      exact ⟨_, fun _ => .ok "", fun _ => .ok [], ⟨hasks ▸ .no, .no⟩, rfl, rfl⟩
    · rintro ⟨x, u, l, h, rfl, rfl⟩
      rw [eq_of_not_asksUser h hasks]
      exact ⟨rfl, rfl⟩
  unfold findAccount
  cases hcaller : caller.bind fun caller => Account.ofArn? caller.arn with
  | some account =>
    refine makes_found_iff.trans (silent _ ?_ (lookup_of_caller hcaller))
    simp [asksUser, hcaller]
  | none =>
    cases skip with
    | true => exact makes_accountOfPrincipal_iff.trans (silent _ rfl (lookup_of_skip hcaller))
    | false =>
      have asks : asksUser caller false = true := by simp [asksUser, hcaller]
      rw [if_neg Bool.false_ne_true]
      have rest (r : Option Account × List ApiError) (cs : List (Answered Services)) :
          Makes (match r with
            | (some account, _) => found account
            | (none, errors) => accountOfPrincipal c region (some errors)) cs lookup ↔
          cs = [] ∧ lookup = askedResult c region r := by
        obtain ⟨account | account, errors⟩ := r
        · exact makes_accountOfPrincipal_iff
        · exact makes_found_iff
      refine Task.makes_bind_iff.trans ?_
      simp only [makes_askForAccount_iff]
      constructor
      · rintro ⟨_, _, _, ⟨x, u, l, huser, hroles, rfl, rfl⟩, hrest, rfl⟩
        obtain ⟨rfl, rfl⟩ := (rest _ _).1 hrest
        exact ⟨x, u, l, ⟨asks ▸ huser, hroles⟩, List.append_nil _, (lookup_of_told hcaller).symm⟩
      · rintro ⟨x, u, l, ⟨huser, hroles⟩, rfl, rfl⟩
        rw [asks] at huser
        exact ⟨_, _, [], ⟨x, u, l, huser, hroles, rfl, rfl⟩,
          (rest _ _).2 ⟨rfl, lookup_of_told hcaller⟩, (List.append_nil _).symm⟩

end RetryPolicy

/-! ## What the search comes to -/

section

variable {α : Type} {one : Except ApiError α → Answered Services} {o : Nat → Except ApiError α}

/-- A question that is put has an answer and at least one call. -/
theorem Put.iff_asked {asks : Bool} {last : Option (Except ApiError α)}
    (h : Put retry one o asks cs last) : (last.isSome ↔ asks = true) ∧ (cs = [] ↔ asks = false) := by
  cases h with
  | no => simp
  | yes hlast =>
    have hpos := hlast.lt
    simp [RetryPolicy.callsTo, List.range'_eq_nil_iff]
    omega

end

namespace AccountSearch

variable (x c region caller skip)

theorem lookup_cases :
    (∃ account s, Account.ofArn? s = some account ∧ x.account? caller c = some account ∧
      x.lookup c region caller skip = ⟨account, none⟩) ∨
    (x.account? caller c = none ∧ x.lookup c region caller skip =
      ⟨⟨"", Partition.ofRegion region⟩, if skip then none else some (.account x.failures)⟩) := by
  unfold lookup
  cases h : x.account? caller c with
  | none => exact .inr ⟨rfl, rfl⟩
  | some account =>
    obtain ⟨s, -, hs⟩ := List.exists_of_findSome?_eq_some h
    exact .inl ⟨account, s, hs, rfl, rfl⟩

theorem partition_lookup_ne_empty : (x.lookup c region caller skip).account.partition ≠ "" := by
  obtain ⟨account, s, hs, -, h⟩ | ⟨-, h⟩ := x.lookup_cases c region caller skip
  · rw [h]
    exact Account.partition_ne_empty hs
  · rw [h]
    exact (Partition.has_ofRegion region).ne_empty

theorem isSome_incomplete_lookup : (x.lookup c region caller skip).incomplete.isSome ↔
    (x.lookup c region caller skip).account.id = "" ∧ skip = false := by
  obtain ⟨account, s, hs, -, h⟩ | ⟨-, h⟩ := x.lookup_cases c region caller skip
  · rw [h]
    simp [Account.id_ne_empty hs]
  · rw [h]
    cases skip <;> simp

variable {x c region caller skip}

/-- Without an account the partition is the one that has the region. -/
theorem account_lookup_eq_iff {partition : String} (h : x.account? caller c = none) :
    (x.lookup c region caller skip).account = ⟨"", partition⟩ ↔ Partition.Has partition region := by
  unfold lookup
  rw [h, ← Partition.ofRegion_eq_iff]
  simp

theorem eq_of_incomplete_lookup {e : Error}
    (he : (x.lookup c region caller skip).incomplete = some e) : e = .account x.failures := by
  obtain ⟨account, s, -, -, h⟩ | ⟨-, h⟩ := x.lookup_cases c region caller skip
  · rw [h] at he
    cases he
  · rw [h] at he
    cases skip
    · exact (Option.some.inj he).symm
    · cases he

namespace Follows

/-- The services are asked unless it is forbidden or unless the owner tells the account. -/
theorem calls_eq_nil_iff (h : x.Follows retry c caller skip u l) : x.calls = [] ↔
    skip = true ∨ ∃ owner account, caller = some owner ∧ Account.ofArn? owner.arn = some account := by
  have hlists : x.users = [] → x.lists = [] := by
    intro husers
    rw [h.roles.iff_asked.2]
    have huser := h.user.iff_asked
    rw [husers] at huser
    have hnone : x.user = none := by simpa [huser.2.1 rfl] using huser.1
    simp [hnone, asksRoles]
  rw [calls, List.append_eq_nil_iff, and_iff_left_of_imp hlists, h.user.iff_asked.2]
  cases skip with
  | true => simp [asksUser]
  | false =>
    cases caller with
    | none => simp [asksUser]
    | some owner => cases harn : Account.ofArn? owner.arn <;> simp [asksUser, harn]

/-- A role is asked for if the user was and does not tell the account. -/
theorem lists_ne_nil_iff (h : x.Follows retry c caller skip u l) : x.lists ≠ [] ↔
    x.users ≠ [] ∧ ∀ arn, x.userArn? = some arn → Account.ofArn? arn = none := by
  have hasked : x.users ≠ [] ↔ x.user.isSome := by
    rw [h.user.iff_asked.1, ne_eq, h.user.iff_asked.2, Bool.not_eq_false]
  rw [ne_eq, h.roles.iff_asked.2, Bool.not_eq_false, hasked]
  unfold asksRoles userArn?
  cases x.user with
  | none => simp
  | some answer => cases answer <;> simp [Except.toOption]

/-- It does not matter how the question for the user failed. -/
theorem same_of_failed {e e' : ApiError} (h : x.Follows retry c caller skip u l)
    (h' : x'.Follows retry c caller skip u' l) (he : x.user = some (.error e))
    (he' : x'.user = some (.error e')) : x'.lists = x.lists ∧ x'.roles = x.roles ∧
      (x'.lookup c region caller skip).account = (x.lookup c region caller skip).account := by
  have hroles := h.roles
  have hroles' := h'.roles
  rw [he] at hroles
  rw [he'] at hroles'
  obtain ⟨hlists, hroles⟩ := hroles.unique hroles'
  have haccount : x'.account? caller c = x.account? caller c := by
    simp [account?, userArn?, roleArn?, he, he', hroles, Except.toOption]
  refine ⟨hlists, hroles, ?_⟩
  unfold lookup
  rw [haccount]
  cases x.account? caller c <;> rfl

end Follows

end AccountSearch

namespace RetryPolicy

/-- The account is that of the first resource name which tells one: that of the owner, of the user, of
the first role, or the one that came with the credentials. Whatever the services answer, there is one
search to be made, and the task makes it. A partition is always known; an error is kept exactly if
the account was looked for and is not known, and holds the failures. The services are asked only
if the owner does not tell the account and it is not forbidden to ask, and a role is asked for only
after the user. A user that could not be told has no other influence than to be among the failures.
If no name tells the account, it is empty and the partition is the one that has the region. -/
theorem findAccount_by_first_name (retry : RetryPolicy) (c : Credentials) (region : String)
    (caller : Option CallerIdentity) (skip : Bool) :
    (∀ u l, ∃! x : AccountSearch, x.Follows retry c caller skip u l) ∧
    (∀ cs lookup, Makes (retry.findAccount c region caller skip) cs lookup ↔
      ∃ (x : AccountSearch) (u : Nat → Except ApiError String)
        (l : Nat → Except ApiError (List String)), x.Follows retry c caller skip u l ∧
          cs = x.calls ∧ lookup = x.lookup c region caller skip) ∧
    (∀ {σ : Type} (host : Host Services σ) (deadline : Option Nat) (w : World Services σ),
      ∃ cs lookup, Makes (retry.findAccount c region caller skip) cs lookup ∧
        Task.AnsweredBy host cs ∧
        Task.RunsAlong host deadline (retry.findAccount c region caller skip) w cs lookup) ∧
    (∀ s account, Account.ofArn? s = some account ↔ TellsAccount s account) ∧
    (∀ x : AccountSearch, (x.lookup c region caller skip).account.partition ≠ "" ∧
      ((x.lookup c region caller skip).incomplete.isSome ↔
        (x.lookup c region caller skip).account.id = "" ∧ skip = false) ∧
      ∀ e, (x.lookup c region caller skip).incomplete = some e → e = .account x.failures) ∧
    (∀ (x : AccountSearch) u l, x.Follows retry c caller skip u l →
      (x.calls = [] ↔ skip = true ∨
        ∃ owner account, caller = some owner ∧ Account.ofArn? owner.arn = some account) ∧
      (x.lists ≠ [] ↔ x.users ≠ [] ∧ ∀ arn, x.userArn? = some arn → Account.ofArn? arn = none)) ∧
    (∀ (x x' : AccountSearch) u u' l e e', x.Follows retry c caller skip u l →
      x'.Follows retry c caller skip u' l → x.user = some (.error e) → x'.user = some (.error e') →
      x'.lists = x.lists ∧ x'.roles = x.roles ∧
        (x'.lookup c region caller skip).account = (x.lookup c region caller skip).account) ∧
    (∀ x : AccountSearch, x.account? caller c = none → ∀ partition,
      (x.lookup c region caller skip).account = ⟨"", partition⟩ ↔ Partition.Has partition region) :=
  ⟨exists_unique_follows retry c caller skip, fun _ _ => makes_findAccount_iff,
    fun host deadline w => Task.exists_makes_of_run host deadline _ w,
    fun _ _ => Account.ofArn?_eq_some_iff,
    fun x => ⟨x.partition_lookup_ne_empty c region caller skip,
      x.isSome_incomplete_lookup c region caller skip, fun _ => AccountSearch.eq_of_incomplete_lookup⟩,
    fun _ _ _ h => ⟨h.calls_eq_nil_iff, h.lists_ne_nil_iff⟩,
    fun _ _ _ _ _ _ _ h h' he he' => h.same_of_failed h' he he',
    fun _ h _ => AccountSearch.account_lookup_eq_iff h⟩

/-- After the user could not be told, for whatever reason, the first role tells the account. If nobody
may be asked, the region tells the partition. -/
theorem role_tells_account :
    let retry := ofAttempts 1
    let c := Credentials.longLived "AKIA" "secret" none .static
    let denied : ApiError := ⟨"GetUser", .service, some "AccessDenied", "", some 403⟩
    let broken : ApiError := ⟨"GetUser", .timeout, none, "", none⟩
    let roles : Except ApiError (List String) := .ok ["arn:aws-cn:iam::123456789012:role/a"]
    ∃ x x' : AccountSearch,
      x.Follows retry c none false (fun _ => .error denied) (fun _ => roles) ∧
      x'.Follows retry c none false (fun _ => .error broken) (fun _ => roles) ∧
      Makes (retry.findAccount c "eu-west-1" none false)
        [Answered.getUser c (.error denied), Answered.listRoles c roles]
        ⟨⟨"123456789012", "aws-cn"⟩, none⟩ ∧
      (x'.lookup c "eu-west-1" none false).account = ⟨"123456789012", "aws-cn"⟩ ∧
      Partition.Has "aws-cn" "cn-north-1" ∧
      Makes (retry.findAccount c "cn-north-1" none true) [] ⟨⟨"", "aws-cn"⟩, none⟩ := by
  intro retry c denied broken roles
  let search (e : ApiError) : AccountSearch :=
    ⟨callsTo (Answered.getUser c) (fun _ => .error e) 1, some (.error e),
      callsTo (Answered.listRoles c) (fun _ => roles) 1, some roles⟩
  have follows (e : ApiError) :
      (search e).Follows retry c none false (fun _ => .error e) fun _ => roles :=
    ⟨.yes (isLast_succ (Stops.of_le _ (Nat.le_refl 1))),
      .yes (isLast_succ (Stops.of_le _ (Nat.le_refl 1)))⟩
  let nobody : AccountSearch := ⟨[], none, [], none⟩
  have nothing : nobody.Follows retry c none true (fun _ => .ok "") fun _ => .ok [] := ⟨.no, .no⟩
  obtain ⟨-, makes, -, -, -, -, same, -⟩ := findAccount_by_first_name retry c "eu-west-1" none false
  obtain ⟨-, silent, -, -, kept, -, -, inRegion⟩ :=
    findAccount_by_first_name retry c "cn-north-1" none true
  have found : (search denied).lookup c "eu-west-1" none false =
      ⟨⟨"123456789012", "aws-cn"⟩, none⟩ := by decide +kernel
  have china : Partition.Has "aws-cn" "cn-north-1" := .start "north-1" .china
  have account : (nobody.lookup c "cn-north-1" none true).account = ⟨"", "aws-cn"⟩ :=
    (inRegion nobody rfl "aws-cn").2 china
  have complete : (nobody.lookup c "cn-north-1" none true).incomplete = none := by
    rw [← Option.not_isSome_iff_eq_none, (kept nobody).2.1]
    simp
  refine ⟨_, _, follows denied, follows broken,
    (makes _ _).2 ⟨_, _, _, follows denied, rfl, found.symm⟩, ?_, china,
    (silent _ _).2 ⟨_, _, _, nothing, rfl, ?_⟩⟩
  · rw [(same _ _ _ _ _ _ _ (follows denied) (follows broken) rfl rfl).2.2, found]
  · rw [← account, ← complete]

end RetryPolicy

end AwsCredentials
