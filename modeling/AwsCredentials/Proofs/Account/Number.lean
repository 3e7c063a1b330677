import AwsCredentials.Identity
import Mathlib.Data.List.Basic

/-!
# Account numbers in resource names

`Arn.parse?` reads what `Arn.text` writes and nothing else, as long as no field but the last holds a
colon (`parse?_eq_some_iff`). So reading and writing are inverse to one another
(`read_inverse_to_text`). A resource name tells the account if its account field is a full number
(`TellsAccount`), and then neither the account nor the partition is empty.
-/

namespace AwsCredentials

theorem Text.cut?_eq_some_iff {sep : Char} {cs a b : List Char} :
    Text.cut? sep cs = some (a, b) ↔ cs = a ++ sep :: b ∧ sep ∉ a := by
  constructor
  · exact Text.eq_of_cut?
  · rintro ⟨rfl, h⟩
    exact Text.cut?_append h

namespace Arn

/-- Whether the fields can be told apart once they are written, and those that must not be empty are
not. -/
structure WellFormed (arn : Arn) : Prop where
  partition : ':' ∉ arn.partition.toList ∧ arn.partition ≠ ""
  service : ':' ∉ arn.service.toList ∧ arn.service ≠ ""
  region : ':' ∉ arn.region.toList
  accountId : ':' ∉ arn.accountId.toList
  resource : arn.resource ≠ ""

theorem wellFormed_of_fields {arn : Arn}
    (hcolons : ∀ field ∈ [arn.partition, arn.service, arn.region, arn.accountId],
      ':' ∉ field.toList)
    (hempty : ∀ field ∈ [arn.partition, arn.service, arn.resource], field ≠ "") :
    arn.WellFormed := by
  simp only [List.forall_mem_cons] at hcolons hempty
  obtain ⟨hpartition, hservice, hregion, haccount, -⟩ := hcolons
  exact ⟨⟨hpartition, hempty.1⟩, ⟨hservice, hempty.2.1⟩, hregion, haccount, hempty.2.2.1⟩

theorem toList_text (arn : Arn) : arn.text.toList = "arn".toList ++ ':' :: (arn.partition.toList ++
    ':' :: (arn.service.toList ++ ':' :: (arn.region.toList ++
      ':' :: (arn.accountId.toList ++ ':' :: arn.resource.toList)))) := by
  show ("arn:" ++ arn.partition ++ ":" ++ arn.service ++ ":" ++ arn.region ++ ":" ++ arn.accountId ++
    ":" ++ arn.resource).toList = _
  simp

theorem ofFields?_eq_some_iff {cs : List Char} {arn : Arn} : ofFields? cs = some arn ↔
    cs = arn.partition.toList ++ ':' :: (arn.service.toList ++ ':' :: (arn.region.toList ++
      ':' :: (arn.accountId.toList ++ ':' :: arn.resource.toList))) ∧ arn.WellFormed := by
  constructor
  · intro h
    obtain ⟨⟨partition, rest⟩, h₁, hservices⟩ := Option.bind_eq_some_iff.1 h
    obtain ⟨⟨service, rest'⟩, h₂, hregions⟩ := Option.bind_eq_some_iff.1 hservices
    obtain ⟨⟨region, rest''⟩, h₃, haccounts⟩ := Option.bind_eq_some_iff.1 hregions
    obtain ⟨⟨account, resource⟩, h₄, harn⟩ := Option.bind_eq_some_iff.1 haccounts
    obtain ⟨rfl, hpartition⟩ := Text.cut?_eq_some_iff.1 h₁
    obtain ⟨rfl, hservice⟩ := Text.cut?_eq_some_iff.1 h₂
    obtain ⟨rfl, hregion⟩ := Text.cut?_eq_some_iff.1 h₃
    obtain ⟨rfl, haccount⟩ := Text.cut?_eq_some_iff.1 h₄
    dsimp only at harn
    split at harn
    · cases harn
    · next hempty =>
      obtain rfl := Option.some.inj harn
      simp only [Bool.or_eq_true, List.isEmpty_iff, not_or] at hempty
      refine ⟨by simp, ⟨by simpa using hpartition, ?_⟩, ⟨by simpa using hservice, ?_⟩,
        by simpa using hregion, by simpa using haccount, ?_⟩
      · simpa using hempty.1.1
      · simpa using hempty.1.2
      · simpa using hempty.2
  · rintro ⟨rfl, ⟨hpartition, hp⟩, ⟨hservice, hs⟩, hregion, haccount, hr⟩
    unfold ofFields?
    simp only [Text.cut?_append hpartition, Text.cut?_append hservice, Text.cut?_append hregion,
      Text.cut?_append haccount, Option.bind_eq_bind, Option.bind_some]
    simp [hp, hs, hr]

/-- Exactly the written forms are read, each as what was written. -/
theorem parse?_eq_some_iff {s : String} {arn : Arn} :
    parse? s = some arn ↔ s = arn.text ∧ arn.WellFormed := by
  have start : ':' ∉ "arn".toList := by decide
  rw [← String.toList_inj, toList_text]
  constructor
  · intro h
    obtain ⟨⟨first, fields⟩, hcut, h⟩ := Option.bind_eq_some_iff.1 h
    dsimp only at h
    split at h
    · next hfirst =>
      obtain ⟨hs, -⟩ := Text.cut?_eq_some_iff.1 hcut
      obtain ⟨hfields, wellFormed⟩ := ofFields?_eq_some_iff.1 h
      exact ⟨by rw [hs, hfirst, hfields], wellFormed⟩
    · cases h
  · rintro ⟨hs, wellFormed⟩
    simp only [parse?, hs, Text.cut?_append start]
    exact ofFields?_eq_some_iff.2 ⟨rfl, wellFormed⟩

/-- Exactly the written forms are read, and all others refused. -/
theorem read_eq_ok_iff {s : String} {arn : Arn} :
    read s = .ok arn ↔ s = arn.text ∧ arn.WellFormed := by
  rw [← parse?_eq_some_iff]
  unfold read
  cases parse? s with
  | none => exact ⟨nofun, nofun⟩
  | some found => exact ⟨fun h => congrArg some (Except.ok.inj h),
      fun h => congrArg Except.ok (Option.some.inj h)⟩

/-- The account is told exactly by an account field of twelve digits. -/
theorem account?_eq_some_iff {arn : Arn} {id : String} : arn.account? = some id ↔
    id = arn.accountId ∧ id.toList.length = 12 ∧ ∀ c ∈ id.toList, '0' ≤ c ∧ c ≤ '9' := by
  unfold account?
  simp only [List.all_eq_true, Text.isDigit_iff]
  constructor
  · intro h
    split at h
    · next hdigits =>
      obtain rfl := Option.some.inj h
      exact ⟨rfl, hdigits⟩
    · cases h
  · rintro ⟨rfl, hdigits⟩
    exact if_pos hdigits

/-- A text is read exactly if it is `arn` and five fields, each behind a colon, of which the first
four hold no colon and the partition, the service and the resource are not empty. What is read has
that text, and what is written in this way is read back. The account is told exactly if its field is
made of twelve digits. -/
theorem read_inverse_to_text :
    (∀ s, (∃ arn, read s = .ok arn) ↔
      ∃ partition service region account resource : String,
        s = "arn:" ++ partition ++ ":" ++ service ++ ":" ++ region ++ ":" ++ account ++ ":" ++ resource ∧
        (∀ field ∈ [partition, service, region, account], ':' ∉ field.toList) ∧
        ∀ field ∈ [partition, service, resource], field ≠ "") ∧
    (∀ s arn, read s = .ok arn → arn.text = s) ∧
    (∀ arn : Arn,
      (∀ field ∈ [arn.partition, arn.service, arn.region, arn.accountId], ':' ∉ field.toList) →
      (∀ field ∈ [arn.partition, arn.service, arn.resource], field ≠ "") →
      read arn.text = .ok arn) ∧
    ∀ (arn : Arn) (id : String), arn.account? = some id ↔
      id = arn.accountId ∧ id.toList.length = 12 ∧ ∀ c ∈ id.toList, '0' ≤ c ∧ c ≤ '9' := by
  refine ⟨fun s => ⟨?_, ?_⟩, fun s arn h => (read_eq_ok_iff.1 h).1.symm,
    fun arn hcolons hempty => ?_, fun arn id => account?_eq_some_iff⟩
  · rintro ⟨arn, h⟩
    obtain ⟨hs, hp, hv, hr, ha, hresource⟩ := read_eq_ok_iff.1 h
    exact ⟨arn.partition, arn.service, arn.region, arn.accountId, arn.resource, hs,
      by simp [hp.1, hv.1, hr, ha], by simp [hp.2, hv.2, hresource]⟩
  · rintro ⟨partition, service, region, account, resource, hs, hcolons, hempty⟩
    exact ⟨⟨partition, service, region, account, resource⟩,
      read_eq_ok_iff.2 ⟨hs, wellFormed_of_fields hcolons hempty⟩⟩
  · exact read_eq_ok_iff.2 ⟨rfl, wellFormed_of_fields hcolons hempty⟩

/-- The resource keeps its colons. -/
theorem colons_of_resource_read_back :
    let arn : Arn := ⟨"aws-cn", "iam", "", "123456789012", "role/path:odd"⟩
    arn.text = "arn:aws-cn:iam::123456789012:role/path:odd" ∧ read arn.text = .ok arn ∧
      arn.account? = some "123456789012" := by
  intro arn
  obtain ⟨-, -, readBack, account⟩ := read_inverse_to_text
  exact ⟨by decide +kernel, readBack arn (by decide) (by decide),
    (account arn _).2 ⟨rfl, by decide, by simp⟩⟩

end Arn

/-- Whether a text is a resource name with an account number, in some partition. -/
def TellsAccount (s : String) (account : Account) : Prop :=
  ∃ arn : Arn, arn.WellFormed ∧ s = arn.text ∧ arn.accountId.toList.length = 12 ∧
    (∀ c ∈ arn.accountId.toList, c.isDigit = true) ∧ account = ⟨arn.accountId, arn.partition⟩

namespace Account

variable {s : String} {account : Account}

theorem ofArn?_eq_some_iff : ofArn? s = some account ↔ TellsAccount s account := by
  constructor
  · intro h
    obtain ⟨arn, harn, h⟩ := Option.bind_eq_some_iff.1 h
    obtain ⟨id, hid, h⟩ := Option.bind_eq_some_iff.1 h
    obtain ⟨hs, wellFormed⟩ := Arn.parse?_eq_some_iff.1 harn
    unfold Arn.account? at hid
    dsimp only at hid
    split at hid
    · next hdigits =>
      obtain rfl := Option.some.inj hid
      exact ⟨arn, wellFormed, hs, hdigits.1, List.all_eq_true.1 hdigits.2, (Option.some.inj h).symm⟩
    · cases hid
  · rintro ⟨arn, wellFormed, hs, hlength, hdigits, rfl⟩
    have hid : arn.account? = some arn.accountId :=
      if_pos ⟨hlength, List.all_eq_true.2 hdigits⟩
    simp [ofArn?, Arn.parse?_eq_some_iff.2 ⟨hs, wellFormed⟩, hid]

theorem id_ne_empty (h : ofArn? s = some account) : account.id ≠ "" := by
  obtain ⟨arn, -, -, hlength, -, rfl⟩ := ofArn?_eq_some_iff.1 h
  intro hempty
  rw [show arn.accountId = "" from hempty] at hlength
  cases hlength

theorem partition_ne_empty (h : ofArn? s = some account) : account.partition ≠ "" := by
  obtain ⟨arn, wellFormed, -, -, -, rfl⟩ := ofArn?_eq_some_iff.1 h
  exact wellFormed.partition.2

end Account

end AwsCredentials
