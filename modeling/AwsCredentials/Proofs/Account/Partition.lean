import AwsCredentials.Arn

/-!
# The partition of a region

A region is in the partition that the start of its name tells. Six partitions have a start of their
own, and a region with none of these starts is in the commercial one (`Has`). No start begins another
one, so every region is in one partition whatever the order in which the starts are looked for, and
that one is given (`ofRegion_eq_iff`).
-/

namespace AwsCredentials.Partition

/-- How the names of the regions of a partition start. -/
inductive StartOf : String → String → Prop
  | china : StartOf "aws-cn" "cn-"
  | government : StartOf "aws-us-gov" "us-gov-"
  | isoB : StartOf "aws-iso-b" "us-isob-"
  | isoF : StartOf "aws-iso-f" "us-isof-"
  | iso : StartOf "aws-iso" "us-iso-"
  | isoE : StartOf "aws-iso-e" "eu-isoe-"

/-- Whether a partition has a region. -/
inductive Has : String → String → Prop
  | start {partition start : String} (rest : String) :
    StartOf partition start → Has partition (start ++ rest)
  | commercial {region : String} :
    (∀ partition start rest, StartOf partition start → region ≠ start ++ rest) → Has "aws" region

variable {partition partition' start start' region : String}

theorem startOf_iff_mem : StartOf partition start ↔ (start, partition) ∈ prefixes := by
  constructor
  · rintro (_ | _ | _ | _ | _ | _) <;> decide
  · intro h
    simp only [prefixes, List.mem_cons, Prod.mk.injEq, List.not_mem_nil, or_false] at h
    obtain ⟨rfl, rfl⟩ | ⟨rfl, rfl⟩ | ⟨rfl, rfl⟩ | ⟨rfl, rfl⟩ | ⟨rfl, rfl⟩ | ⟨rfl, rfl⟩ := h
    · exact .china
    · exact .government
    · exact .isoB
    · exact .isoF
    · exact .iso
    · exact .isoE

theorem startsWith_iff : start.toList <+: region.toList ↔ ∃ rest, region = start ++ rest := by
  constructor
  · rintro ⟨rest, h⟩
    refine ⟨String.ofList rest, String.toList_inj.1 ?_⟩
    rw [String.toList_append, String.toList_ofList, h]
  · rintro ⟨rest, rfl⟩
    exact ⟨rest.toList, String.toList_append.symm⟩

/-- No start begins another one. -/
theorem StartOf.eq_of_begins (h : StartOf partition start) (h' : StartOf partition' start')
    (hbegins : start.toList <+: start'.toList) : partition = partition' := by
  have free : ∀ p ∈ prefixes, ∀ q ∈ prefixes, p.1.toList <+: q.1.toList → p.2 = q.2 := by
    decide +kernel
  exact free _ (startOf_iff_mem.1 h) _ (startOf_iff_mem.1 h') hbegins

theorem Has.unique (h : Has partition region) (h' : Has partition' region) :
    partition = partition' := by
  cases h with
  | @start _ start rest hstart =>
    generalize hregion : start ++ rest = region at h'
    cases h' with
    | @start _ start' rest' hstart' =>
      have hbegins : start.toList <+: (start ++ rest).toList := startsWith_iff.2 ⟨rest, rfl⟩
      have hbegins' : start'.toList <+: (start ++ rest).toList :=
        startsWith_iff.2 ⟨rest', hregion⟩
      rcases List.prefix_or_prefix_of_prefix hbegins hbegins' with hle | hle
      · exact hstart.eq_of_begins hstart' hle
      · exact (hstart'.eq_of_begins hstart hle).symm
    | commercial hnone => exact absurd hregion.symm (hnone _ _ _ hstart)
  | commercial hnone =>
    cases h' with
    | start rest' hstart' => exact absurd rfl (hnone _ _ _ hstart')
    | commercial => rfl

theorem has_ofRegion (region : String) : Has (ofRegion region) region := by
  unfold ofRegion
  split
  · next p hp =>
    have hmem := List.mem_of_find?_eq_some hp
    have hfound := List.find?_some hp
    obtain ⟨rest, rfl⟩ := startsWith_iff.1 (List.isPrefixOf_iff_prefix.1 hfound)
    exact .start rest (startOf_iff_mem.2 hmem)
  · next hnone =>
    refine .commercial fun partition start rest hstart hregion => ?_
    refine List.find?_eq_none.1 hnone _ (startOf_iff_mem.1 hstart) ?_
    exact List.isPrefixOf_iff_prefix.2 (startsWith_iff.2 ⟨rest, hregion⟩)

/-- The partition of a region is the one that has it. -/
theorem ofRegion_eq_iff : ofRegion region = partition ↔ Has partition region :=
  ⟨fun h => h ▸ has_ofRegion region, (has_ofRegion region).unique⟩

theorem Has.ne_empty (h : Has partition region) : partition ≠ "" := by
  cases h with
  | start rest hstart => cases hstart <;> decide
  | commercial => decide

end AwsCredentials.Partition
