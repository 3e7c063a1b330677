import AwsCredentials.Text.Blank
import AwsCredentials.Text.Pattern
import Mathlib.Data.List.Basic

/-!
# What replacing leaves alone

`Pattern.replaceAll` copies what its pattern does not read, and what it does with a text depends on
the places where the pattern reads alone:

* `Pattern.replaceAll_append`, `Pattern.replaceAll_eq_self`: a part, or a whole text, in which nothing
  is read is copied;
* `Blind`: a reader that takes no notice of how a text ends, until it has come to the end or has
  gone past it; `Blind.replaceAll`: what replacing makes of such texts differs at most as their
  ends do.
-/

namespace AwsCredentials.Text

/-! ## Names -/

/-- Whether none of some names starts another one. -/
def PrefixFree (names : List String) : Prop :=
  ∀ a ∈ names, ∀ b ∈ names, a.toList <+: b.toList → a = b

instance (names : List String) : Decidable (PrefixFree names) :=
  inferInstanceAs (Decidable (∀ a ∈ names, ∀ b ∈ names, a.toList <+: b.toList → a = b))

theorem nameAt?_append {names : List String} (h : PrefixFree names) {n : String} (hn : n ∈ names)
    (rest : List Char) : nameAt? names (n.toList ++ rest) = some (n.toList, rest) := by
  have found : (nameAt? names (n.toList ++ rest)).isSome := by
    refine List.findSome?_isSome_iff.2 ⟨n, hn, ?_⟩
    rw [dropStart?_append]
    rfl
  obtain ⟨⟨name, rest'⟩, hname⟩ := Option.isSome_iff_exists.1 found
  obtain ⟨happend, m, hm, rfl⟩ := eq_of_nameAt? hname
  obtain rfl : m = n := by
    rcases List.prefix_or_prefix_of_prefix ⟨rest', happend.symm⟩ (List.prefix_append _ rest)
      with hp | hp
    · exact h m hm n hn hp
    · exact (h n hn m hm hp).symm
  rw [hname, List.append_cancel_left happend]

/-- A start of two parts that lacks the first character of the second part is in the first part. -/
theorem prefix_of_prefix_append {start before after : List Char} {c : Char} (hc : c ∉ start)
    (h : start <+: before ++ c :: after) : start <+: before := by
  rcases List.prefix_or_prefix_of_prefix h (List.prefix_append before (c :: after)) with hp | hp
  · exact hp
  obtain ⟨extra, rfl⟩ := hp
  cases extra with
  | nil => simp
  | cons d extra =>
    have hd := (List.prefix_append_right_inj before).1 h
    obtain rfl := (List.cons_prefix_cons.1 hd).1
    exact absurd (by simp) hc

/-- A text is cut at a character in one way only, if the first part lacks it. -/
theorem eq_of_append_cons {as bs xs ys : List Char} {c : Char} (ha : c ∉ as) (hb : c ∉ bs)
    (h : as ++ c :: xs = bs ++ c :: ys) : as = bs := by
  have hab : as <+: bs := prefix_of_prefix_append ha ⟨c :: xs, h⟩
  have hba : bs <+: as := prefix_of_prefix_append hb ⟨c :: ys, h.symm⟩
  exact hab.sublist.antisymm hba.sublist

/-! ## Blanks -/

theorem dropWhile_blanks {blanks rest : List Char} {c : Char}
    (h : ∀ c ∈ blanks, isBlank c = true) (hc : isBlank c = false) :
    (blanks ++ c :: rest).dropWhile isBlank = c :: rest := by
  rw [List.dropWhile_append_of_pos h, List.dropWhile_cons_of_neg (by simp [hc])]

theorem of_dropStart?_dropWhile {start cs rest : List Char}
    (h : dropStart? start (cs.dropWhile isBlank) = some rest) :
    ∃ blanks, (∀ c ∈ blanks, isBlank c = true) ∧ cs = blanks ++ (start ++ rest) := by
  refine ⟨cs.takeWhile isBlank, fun c => List.all_eq_true.1 List.all_takeWhile c, ?_⟩
  rw [← eq_of_dropStart? h, List.takeWhile_append_dropWhile]

theorem isBlank_of_visible {c : Char} (h : 33 ≤ c.val) (h' : c.val ≤ 126) : isBlank c = false := by
  have hlow : 33 ≤ c.toNat := UInt32.le_iff_toNat_le.1 h
  have hhigh : c.toNat ≤ 126 := UInt32.le_iff_toNat_le.1 h'
  have hspace : c ≠ ' ' := by rintro rfl; exact absurd hlow (by decide)
  simp [isBlank, hspace]
  omega

/-- Letters and digits lie between the first digit and the last letter. -/
theorem bounds_of_isAlphanum {c : Char} (h : c.isAlphanum = true) : 48 ≤ c.val ∧ c.val ≤ 122 := by
  have h : (decide (65 ≤ c.val ∧ c.val ≤ 90) || (decide (97 ≤ c.val) && decide (c.val ≤ 122)) ||
    c.isDigit) = true := h
  simp only [Char.isDigit, Bool.or_eq_true, Bool.and_eq_true, decide_eq_true_eq] at h
  rcases h with (h | h) | h
  · exact ⟨UInt32.le_trans (by decide) h.1, UInt32.le_trans h.2 (by decide)⟩
  · exact ⟨UInt32.le_trans (by decide) h.1, h.2⟩
  · exact ⟨h.1, UInt32.le_trans h.2 (by decide)⟩

/-! ## Replacing -/

namespace Pattern

variable (p : Pattern)

theorem replaceAll_nil : p.replaceAll [] = [] := by
  rw [replaceAll]

theorem replaceAll_cons {c : Char} {cs : List Char} (h : p.read (c :: cs) = none) :
    p.replaceAll (c :: cs) = c :: p.replaceAll cs := by
  rw [replaceAll]
  split
  · next hread => rw [h] at hread; cases hread
  · rfl

theorem replaceAll_of_read {cs replacement rest : List Char}
    (h : p.read cs = some (replacement, rest)) :
    p.replaceAll cs = replacement ++ p.replaceAll rest := by
  cases cs with
  | nil => exact absurd (p.shorter h) (Nat.not_lt_zero _)
  | cons c cs =>
    rw [replaceAll]
    split
    · next hread =>
      rw [h] at hread
      obtain ⟨rfl, rfl⟩ := Prod.mk.inj (Option.some.inj hread)
      rfl
    · next hread => rw [h] at hread; cases hread

/-- A part in which nothing is read is copied. -/
theorem replaceAll_append {before rest : List Char}
    (h : ∀ c cs, c :: cs <:+ before → p.read (c :: cs ++ rest) = none) :
    p.replaceAll (before ++ rest) = before ++ p.replaceAll rest := by
  induction before with
  | nil => rfl
  | cons c cs ih =>
    have hread : p.read (c :: (cs ++ rest)) = none := h c cs (List.suffix_refl _)
    rw [List.cons_append, p.replaceAll_cons hread, List.cons_append,
      ih fun d ds hd => h d ds (hd.trans (List.suffix_cons c cs))]

/-- A text in which nothing is read stays as it is. -/
theorem replaceAll_eq_self {cs : List Char}
    (h : ∀ c ds, c :: ds <:+ cs → p.read (c :: ds) = none) : p.replaceAll cs = cs := by
  have hcopy : p.replaceAll (cs ++ []) = cs ++ p.replaceAll [] := by
    refine p.replaceAll_append fun c ds hsuffix => ?_
    rw [List.append_nil]
    exact h c ds hsuffix
  rwa [p.replaceAll_nil, List.append_nil] at hcopy

end Pattern

/-! ## Blind readers -/

/-- Whether a reader takes no notice of which of some ends a text has: it reads nothing, or what
stands before the end, or past the whole of what is left open. -/
def Blind {ι : Type} (read : List Char → Option (List Char × List Char))
    (tail : ι → List Char) : Prop :=
  ∀ before, (∀ i, read (before ++ tail i) = none) ∨
    (∃ replacement before', before'.length < before.length ∧
      ∀ i, read (before ++ tail i) = some (replacement, before' ++ tail i)) ∨
    ∃ replacement rest, ∀ i, read (before ++ tail i) = some (replacement, rest)

/-- Where a pattern is blind, the ends of the texts are lost or are replaced on their own. -/
theorem Blind.replaceAll {ι : Type} {p : Pattern} {tail : ι → List Char}
    (h : Blind p.read tail) (before : List Char) :
    (∃ out, ∀ i, p.replaceAll (before ++ tail i) = out) ∨
      ∃ before', ∀ i, p.replaceAll (before ++ tail i) = before' ++ p.replaceAll (tail i) := by
  induction hn : before.length using Nat.strongRecOn generalizing before with | ind n ih => ?_
  subst hn
  cases before with
  | nil => exact .inr ⟨[], fun i => rfl⟩
  | cons c before =>
    rcases h (c :: before) with hnone | ⟨replacement, before', hlt, hread⟩ | ⟨replacement, rest, hread⟩
    · have copy (i : ι) : p.replaceAll (c :: before ++ tail i) = c :: p.replaceAll (before ++ tail i) :=
        p.replaceAll_cons (hnone i)
      rcases ih before.length (Nat.lt_succ_self _) before rfl with ⟨out, hout⟩ | ⟨before', hout⟩
      · exact .inl ⟨c :: out, fun i => by rw [copy, hout]⟩
      · exact .inr ⟨c :: before', fun i => by rw [copy, hout, List.cons_append]⟩
    · have step (i : ι) := p.replaceAll_of_read (hread i)
      rcases ih before'.length hlt before' rfl with ⟨out, hout⟩ | ⟨before'', hout⟩
      · exact .inl ⟨replacement ++ out, fun i => by rw [step, hout]⟩
      · exact .inr ⟨replacement ++ before'', fun i => by rw [step, hout, List.append_assoc]⟩
    · exact .inl ⟨replacement ++ p.replaceAll rest, fun i => p.replaceAll_of_read (hread i)⟩

end AwsCredentials.Text
