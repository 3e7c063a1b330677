import AwsCredentials.Text.Blank
import AwsCredentials.Text.Shown

/-!
# Profiles

A profile is a named set of keyed values. A key that is set again takes the new value, and a blank
value counts as not set.
-/

namespace AwsCredentials

/-- A named set of values. -/
structure Profile where
  name : String
  values : List (String × String)
  deriving DecidableEq, Repr, Inhabited

namespace Profile

/-- The pairs with a value for a key in the place of the old one, or after all others. -/
def put (key value : String) : List (String × String) → List (String × String)
  | [] => [(key, value)]
  | p :: rest => if p.1 = key then (key, value) :: rest else p :: put key value rest

/-- A profile without values. -/
def named (name : String) : Profile := ⟨name, []⟩

/-- Sets a value. -/
def set (p : Profile) (key value : String) : Profile :=
  { p with values := put key value p.values }

/-- The trimmed value of a key, unless it is blank. -/
def get? (p : Profile) (key : String) : Option String :=
  (p.values.lookup key).bind Text.nonBlank

open Text Shown in
/-- The name of a profile and its values. -/
def shown (p : Profile) : String :=
  record "Profile" [("name", quoted p.name), ("properties", entries quoted p.values)]

theorem lookup_put (key value other : String) (pairs : List (String × String)) :
    (put key value pairs).lookup other =
      if other = key then some value else pairs.lookup other := by
  induction pairs with
  | nil =>
    by_cases h : other = key
    · simp [put, h]
    · simp [put, List.lookup_cons, h, beq_eq_false_iff_ne.2 h]
  | cons p rest ih =>
    obtain ⟨k, v⟩ := p
    rw [put]
    split
    · next hk =>
      by_cases h : other = key
      · simp [h]
      · simp [List.lookup_cons, h, beq_eq_false_iff_ne.2 h, show k = key from hk]
    · next hk =>
      by_cases h : other = k
      · subst h
        simp [show ¬other = key from hk]
      · simp [List.lookup_cons, ih, beq_eq_false_iff_ne.2 h]

theorem get?_set (p : Profile) (key value other : String) :
    (p.set key value).get? other = if other = key then Text.nonBlank value else p.get? other := by
  by_cases h : other = key <;> simp [get?, set, lookup_put, h]

end Profile

end AwsCredentials
