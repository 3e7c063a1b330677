import AwsCredentials.Proofs.Text.Quoted
import AwsCredentials.Text.Shown
import Mathlib.Data.List.Forall2

/-!
# Reading shown values

What is shown of a value is legible if it tells the value and where it ends, at least among values
that are alike in some way (`Legible`). Quoted texts are legible, and so are the entries of a map with
the same keys if their values are (`legible_entries`). A record shows each of its fields as it is
(`exists_record_eq`).
-/

namespace AwsCredentials.Text.Shown

variable {α : Type} {R : α → α → Prop} {shown : α → String}

/-- Whether values that are related can be told apart by what is shown of them. -/
def Legible (R : α → α → Prop) (shown : α → String) : Prop :=
  ∀ a b (u v : String), R a b → shown a ++ u = shown b ++ v → a = b ∧ u = v

theorem legible_quoted (R : String → String → Prop) : Legible R quoted :=
  fun _ _ _ _ _ h => quoted_append_inj.1 h

theorem Legible.intercalate (hshown : Legible R shown) {as bs : List α} (h : List.Forall₂ R as bs)
    {u v : String}
    (heq : ", ".intercalate (as.map shown) ++ u = ", ".intercalate (bs.map shown) ++ v) :
    as = bs ∧ u = v := by
  induction h generalizing u v with
  | nil => exact ⟨rfl, by simpa using heq⟩
  | @cons a b as bs hab hrest ih =>
    cases hrest with
    | nil =>
      rw [List.map_singleton, List.map_singleton, String.intercalate_singleton,
        String.intercalate_singleton] at heq
      obtain ⟨rfl, rfl⟩ := hshown a b u v hab heq
      exact ⟨rfl, rfl⟩
    | cons =>
      simp only [List.map_cons, String.intercalate_cons_cons, String.append_assoc] at heq ih
      obtain ⟨rfl, hcomma⟩ := hshown a b _ _ hab heq
      obtain ⟨hrest, rfl⟩ := ih ((String.append_right_inj _).1 hcomma)
      exact ⟨congrArg (a :: ·) hrest, rfl⟩

/-- The entries of two maps with the same keys. -/
theorem legible_entries (hshown : Legible R shown) :
    Legible (List.Forall₂ fun p q => q.1 = p.1 ∧ R p.2 q.2) (entries shown) := by
  have hentry : Legible (fun p q : String × α => q.1 = p.1 ∧ R p.2 q.2)
      fun p => quoted p.1 ++ ": " ++ shown p.2 := by
    rintro ⟨key, a⟩ ⟨_, b⟩ u v ⟨rfl, hab⟩ heq
    simp only [String.append_assoc, String.append_right_inj] at heq
    obtain ⟨rfl, rfl⟩ := hshown a b u v hab heq
    exact ⟨rfl, rfl⟩
  intro as bs u v h heq
  unfold entries at heq
  rw [String.append_assoc, String.append_assoc, String.append_assoc, String.append_assoc,
    String.append_right_inj] at heq
  obtain ⟨hsame, hclosing⟩ := hentry.intercalate h heq
  exact ⟨hsame, (String.append_right_inj _).1 hclosing⟩

/-- What is joined is shown as it is, between what depends on the other parts. -/
theorem exists_intercalate_eq (sep : String) (before after : List String) :
    ∃ u v, ∀ x, sep.intercalate (before ++ x :: after) = u ++ (x ++ v) := by
  induction before with
  | nil =>
    cases after with
    | nil => exact ⟨"", "", fun x => by simp⟩
    | cons y rest =>
      refine ⟨"", sep ++ sep.intercalate (y :: rest), fun x => ?_⟩
      simp [String.intercalate_cons_cons, String.append_assoc]
  | cons y rest ih =>
    obtain ⟨u, v, h⟩ := ih
    refine ⟨y ++ (sep ++ u), v, fun x => ?_⟩
    rw [List.cons_append, String.intercalate_cons_of_ne_nil (by simp), h]
    simp only [String.append_assoc]

/-- A field is shown between what depends on the other ones and on what ends the list. -/
theorem exists_fields_eq (name key : String) (before after : List (String × String))
    (closing : List String) : ∃ u v, ∀ value,
      name ++ " \x7b " ++ ", ".intercalate
        ((before ++ (key, value) :: after).map (fun p => p.1 ++ ": " ++ p.2) ++ closing) ++
          " \x7d" = u ++ (value ++ v) := by
  obtain ⟨u, v, h⟩ := exists_intercalate_eq ", " (before.map fun p => p.1 ++ ": " ++ p.2)
    (after.map (fun p => p.1 ++ ": " ++ p.2) ++ closing)
  refine ⟨name ++ (" \x7b " ++ (u ++ (key ++ ": "))), v ++ " \x7d", fun value => ?_⟩
  rw [List.map_append, List.map_cons, List.append_assoc, List.cons_append, h]
  simp only [String.append_assoc]

theorem exists_record_eq (name key : String) (before after : List (String × String)) :
    ∃ u v, ∀ value, record name (before ++ (key, value) :: after) = u ++ (value ++ v) := by
  obtain ⟨u, v, h⟩ := exists_fields_eq name key before after []
  refine ⟨u, v, fun value => ?_⟩
  rw [← h, List.append_nil]
  exact if_neg (by simp)

theorem exists_partialRecord_eq (name key : String) (before after : List (String × String)) :
    ∃ u v, ∀ value, partialRecord name (before ++ (key, value) :: after) = u ++ (value ++ v) :=
  exists_fields_eq name key before after [".."]

end AwsCredentials.Text.Shown
