import AwsCredentials.Redaction.Identifier
import AwsCredentials.Proofs.Text.Pattern
import Mathlib.Data.List.SplitBy

/-!
# Masked identifiers

`maskIdentifiers` goes through a text word by word. What stands between two words is copied, and a
whole word is masked if it is an identifier.

* `maskIdentifiers_word`, `maskIdentifiers_append_cons`: a text is masked piece by piece, if it is cut
  at the end of a word or at a character that belongs to none;
* `starred_maskIdentifiers`: masking only puts stars in the place of characters, and of an escape, a
  percent sign and the two digits behind it, it keeps all three.
-/

namespace AwsCredentials.Redaction

open Text

/-! ## Identifiers -/

theorem isIdentifierChar_of_mem {word : List Char} (h : isIdentifier word = true) :
    ∀ c ∈ word, isIdentifierChar c = true := by
  simp only [isIdentifier, Bool.and_eq_true] at h
  exact List.all_eq_true.1 h.1.2

theorem length_of_isIdentifier {word : List Char} (h : isIdentifier word = true) :
    word.length = 20 := by
  simp only [isIdentifier, Bool.and_eq_true, decide_eq_true_eq] at h
  exact h.1.1

theorem isAlphanum_of_isIdentifierChar {c : Char} (h : isIdentifierChar c = true) :
    c.isAlphanum = true := by
  have hclass : c.isAlphanum = ((c.isUpper || c.isLower) || c.isDigit) := rfl
  simp only [isIdentifierChar, Bool.or_eq_true] at h
  rcases h with h | h
  · simp [hclass, h]
  · simp [hclass, h]

theorem isWord_of_isIdentifierChar {c : Char} (h : isIdentifierChar c = true) :
    isWord c = true := by
  have halphanum := isAlphanum_of_isIdentifierChar h
  have hbound : c.toNat ≤ 122 := UInt32.le_iff_toNat_le.1 (bounds_of_isAlphanum halphanum).2
  exact isWord_of_isAlphanum (Nat.lt_of_le_of_lt hbound (by decide)) halphanum

theorem percent_not_mem {word : List Char} (h : isIdentifier word = true) : '%' ∉ word :=
  fun hmem => absurd (isIdentifierChar_of_mem h '%' hmem) (by decide)

theorem percent_not_mem_maskWord {word : List Char} (h : isIdentifier word = true) :
    '%' ∉ maskWord word := by
  have hword := percent_not_mem h
  rw [maskWord, if_pos h, List.mem_append, List.mem_append, not_or, not_or]
  exact ⟨⟨fun hmem => hword (List.mem_of_mem_take hmem), by decide⟩,
    fun hmem => hword (List.mem_of_mem_drop hmem)⟩

theorem maskWord_of_not {word : List Char} (h : isIdentifier word = false) :
    maskWord word = word := by
  rw [maskWord, h]
  rfl

theorem maskWord_of_length {word : List Char} (h : word.length ≠ 20) : maskWord word = word :=
  maskWord_of_not (Bool.eq_false_iff.2 fun hid => h (length_of_isIdentifier hid))

/-! ## Word by word -/

theorem head?_dropWhile_isWord (cs : List Char) :
    ∀ d ∈ (cs.dropWhile isWord).head?, isWord d = false := by
  intro d hd
  have hhead := List.head?_dropWhile_not isWord cs
  rw [Option.mem_def.1 hd] at hhead
  simpa using hhead

/-- A text is empty, or starts with a character between words or with a whole word. -/
theorem words_induction {motive : List Char → Prop} (nil : motive [])
    (gap : ∀ c cs, isWord c = false → motive cs → motive (c :: cs))
    (word : ∀ word rest, word ≠ [] → (∀ c ∈ word, isWord c = true) →
      (∀ d ∈ rest.head?, isWord d = false) → motive rest → motive (word ++ rest))
    (cs : List Char) : motive cs := by
  induction hk : cs.length using Nat.strongRecOn generalizing cs with | ind k ih => ?_
  subst hk
  cases cs with
  | nil => exact nil
  | cons c cs =>
    by_cases hc : isWord c = true
    · let first := (c :: cs).takeWhile isWord
      let rest := (c :: cs).dropWhile isWord
      have hcs : first ++ rest = c :: cs := List.takeWhile_append_dropWhile
      have hne : first ≠ [] := by simp [first, hc]
      have hshorter : rest.length < (c :: cs).length := by
        have hlength := congrArg List.length hcs
        have hpos := List.length_pos_of_ne_nil hne
        simp only [List.length_append] at hlength
        omega
      rw [← hcs]
      exact word first rest hne (fun d => List.all_eq_true.1 List.all_takeWhile d)
        (head?_dropWhile_isWord _) (ih _ hshorter rest rfl)
    · exact gap c cs (by simpa using hc) (ih cs.length (Nat.lt_succ_self _) cs rfl)

@[simp] theorem maskIdentifiers_nil : maskIdentifiers [] = [] := rfl

/-- What belongs to no word is copied. -/
theorem maskIdentifiers_noWord {cs : List Char} (h : ∀ c ∈ cs, isWord c = false) :
    maskIdentifiers cs = cs := by
  have hcopy : ∀ word ∈ stretches cs, maskWord word = word := by
    intro word hword
    refine maskWord_of_not (Bool.eq_false_iff.2 fun hid => ?_)
    have hlength := length_of_isIdentifier hid
    obtain ⟨c, word, rfl⟩ := List.exists_cons_of_length_eq_add_one hlength
    have hc : isWord c = true :=
      isWord_of_isIdentifierChar (isIdentifierChar_of_mem hid c (List.mem_cons_self ..))
    have hmem : c ∈ (stretches cs).flatten :=
      List.mem_flatten.2 ⟨_, hword, List.mem_cons_self ..⟩
    rw [stretches, List.flatten_splitBy] at hmem
    rw [h c hmem] at hc
    cases hc
  calc maskIdentifiers cs = (stretches cs).flatMap id := List.flatMap_congr hcopy
    _ = cs := by rw [List.flatMap_id, stretches, List.flatten_splitBy]

/-- Where a word ends, a text is cut. -/
theorem stretches_append {cs ds : List Char}
    (h : ∀ c ∈ cs.getLast?, ∀ d ∈ ds.head?, isWord c ≠ isWord d) :
    stretches (cs ++ ds) = stretches cs ++ stretches ds :=
  List.splitBy_append fun c hc d hd => beq_eq_false_iff_ne.2 (h c hc d hd)

/-- A whole word is masked if it is an identifier. -/
theorem maskIdentifiers_word {word rest : List Char} (hne : word ≠ [])
    (hword : ∀ c ∈ word, isWord c = true) (hrest : ∀ d ∈ rest.head?, isWord d = false) :
    maskIdentifiers (word ++ rest) = maskWord word ++ maskIdentifiers rest := by
  have hcut : stretches (word ++ rest) = stretches word ++ stretches rest := by
    refine stretches_append fun c hc d hd => ?_
    rw [hword c (List.mem_of_getLast? hc), hrest d hd]
    exact Bool.noConfusion
  have hone : stretches word = [word] := by
    refine List.splitBy_of_isChain hne (List.Pairwise.isChain ?_)
    refine List.pairwise_of_forall_mem_list fun c hc d hd => ?_
    simp [hword c hc, hword d hd]
  rw [maskIdentifiers, hcut, hone, List.flatMap_append, List.flatMap_singleton]
  rfl

theorem maskIdentifiers_oneWord {word : List Char} (hne : word ≠ [])
    (hword : ∀ c ∈ word, isWord c = true) : maskIdentifiers word = maskWord word := by
  have hmask : maskIdentifiers (word ++ []) = maskWord word ++ maskIdentifiers [] :=
    maskIdentifiers_word hne hword (by simp)
  rwa [List.append_nil, maskIdentifiers_nil, List.append_nil] at hmask

/-- A character that belongs to no word is copied. -/
theorem maskIdentifiers_cons {c : Char} (hc : isWord c = false) (cs : List Char) :
    maskIdentifiers (c :: cs) = c :: maskIdentifiers cs := by
  -- what follows up to the next word is of one stretch with it
  let gap := cs.takeWhile fun d => !isWord d
  let rest := cs.dropWhile fun d => !isWord d
  have hcs : gap ++ rest = cs := List.takeWhile_append_dropWhile
  have hgap : ∀ d ∈ gap, isWord d = false := by
    intro d hd
    simpa using List.all_eq_true.1 List.all_takeWhile d hd
  have hrest : ∀ d ∈ rest.head?, isWord d = true := by
    intro d hd
    have hhead := List.head?_dropWhile_not (fun d => !isWord d) cs
    simp only [rest] at hd
    rw [Option.mem_def.1 hd] at hhead
    simpa using hhead
  have cut {ds : List Char} (hds : ∀ d ∈ ds, isWord d = false) :
      maskIdentifiers (ds ++ rest) = ds ++ maskIdentifiers rest := by
    have hstretches : stretches (ds ++ rest) = stretches ds ++ stretches rest := by
      refine stretches_append fun d hd e he => ?_
      rw [hds d (List.mem_of_getLast? hd), hrest e he]
      exact Bool.noConfusion
    have hcopy := maskIdentifiers_noWord hds
    rw [maskIdentifiers] at hcopy ⊢
    rw [hstretches, List.flatMap_append, hcopy]
    rfl
  have hboth : ∀ d ∈ c :: gap, isWord d = false := List.forall_mem_cons.2 ⟨hc, hgap⟩
  rw [← hcs, ← List.cons_append, cut hboth, cut hgap, List.cons_append]

/-- What belongs to no word in front of a text is copied. -/
theorem maskIdentifiers_gap {gap : List Char} (h : ∀ c ∈ gap, isWord c = false) (cs : List Char) :
    maskIdentifiers (gap ++ cs) = gap ++ maskIdentifiers cs := by
  induction gap with
  | nil => rfl
  | cons c gap ih =>
    obtain ⟨hc, hgap⟩ := List.forall_mem_cons.1 h
    rw [List.cons_append, maskIdentifiers_cons hc, ih hgap, List.cons_append]

/-- A text may be cut before a character that belongs to no word. -/
theorem maskIdentifiers_append_cons {c : Char} (hc : isWord c = false) (cs ds : List Char) :
    maskIdentifiers (cs ++ c :: ds) = maskIdentifiers cs ++ c :: maskIdentifiers ds := by
  induction cs using words_induction with
  | nil => exact maskIdentifiers_cons hc ds
  | gap d cs hd ih =>
    rw [List.cons_append, maskIdentifiers_cons hd, ih, maskIdentifiers_cons hd, List.cons_append]
  | word word rest hne hword hrest ih =>
    -- the word ends within the first part
    have hmore : ∀ e ∈ (rest ++ c :: ds).head?, isWord e = false := by
      cases rest with
      | nil => exact fun e he => Option.some.inj he ▸ hc
      | cons f rest => exact hrest
    rw [List.append_assoc, maskIdentifiers_word hne hword hmore,
      maskIdentifiers_word hne hword hrest, ih, List.append_assoc]

/-- A text may be cut where the second part starts with no word. -/
theorem maskIdentifiers_append {cs ds : List Char} (h : ∀ d ∈ ds.head?, isWord d = false) :
    maskIdentifiers (cs ++ ds) = maskIdentifiers cs ++ maskIdentifiers ds := by
  cases ds with
  | nil =>
    rw [maskIdentifiers_nil, List.append_nil, List.append_nil]
  | cons d ds =>
    have hd := h d rfl
    rw [maskIdentifiers_append_cons hd, maskIdentifiers_cons hd]

/-! ## Stars and escapes -/

/-- Whether the second text is the first one with stars in the place of some characters, none of which
is a percent sign or one of the two characters behind it. The number tells how many of the next
characters belong to such an escape. -/
inductive Starred : Nat → List Char → List Char → Prop
  | nil {n : Nat} : Starred n [] []
  | escape {cs ds : List Char} : Starred 2 cs ds → Starred 0 ('%' :: cs) ('%' :: ds)
  | digit {n : Nat} {c : Char} {cs ds : List Char} : Starred n cs ds →
    Starred (n + 1) (c :: cs) (c :: ds)
  | keep {c : Char} {cs ds : List Char} : c ≠ '%' → Starred 0 cs ds → Starred 0 (c :: cs) (c :: ds)
  | star {c : Char} {cs ds : List Char} : c ≠ '%' → Starred 0 cs ds →
    Starred 0 (c :: cs) ('*' :: ds)

namespace Starred

variable {n : Nat} {cs ds : List Char}

/-- Whatever is copied, an escape at its end is all that goes on behind it. -/
theorem copy (same : List Char) (hn : n ≤ 2) :
    ∃ m ≤ 2, ∀ cs ds, Starred m cs ds → Starred n (same ++ cs) (same ++ ds) := by
  induction same generalizing n with
  | nil => exact ⟨n, hn, fun _ _ h => h⟩
  | cons c same ih =>
    cases n with
    | succ n =>
      obtain ⟨m, hm, hcopy⟩ := ih (Nat.le_of_succ_le hn)
      exact ⟨m, hm, fun cs ds h => (hcopy cs ds h).digit⟩
    | zero =>
      by_cases hc : c = '%'
      · subst hc
        obtain ⟨m, hm, hcopy⟩ := ih (Nat.le_refl 2)
        exact ⟨m, hm, fun cs ds h => (hcopy cs ds h).escape⟩
      · obtain ⟨m, hm, hcopy⟩ := ih (Nat.zero_le 2)
        exact ⟨m, hm, fun cs ds h => (hcopy cs ds h).keep hc⟩

/-- No escape goes on behind a copied text that is long enough and has none of its own. -/
theorem copy_plain {same : List Char} (hsame : '%' ∉ same) (hn : n ≤ same.length)
    (h : Starred 0 cs ds) : Starred n (same ++ cs) (same ++ ds) := by
  induction same generalizing n with
  | nil =>
    obtain rfl := Nat.le_zero.1 hn
    exact h
  | cons c same ih =>
    obtain ⟨hc, hsame⟩ := not_or.1 (List.mem_cons.not.1 hsame)
    cases n with
    | zero => exact (ih hsame (Nat.zero_le _)).keep (Ne.symm hc)
    | succ n => exact (ih hsame (Nat.le_of_succ_le_succ hn)).digit

theorem stars {hidden : List Char} (hhidden : '%' ∉ hidden) (h : Starred 0 cs ds) :
    Starred 0 (hidden ++ cs) (List.replicate hidden.length '*' ++ ds) := by
  induction hidden with
  | nil => exact h
  | cons c hidden ih =>
    obtain ⟨hc, hhidden⟩ := not_or.1 (List.mem_cons.not.1 hhidden)
    exact (ih hhidden).star (Ne.symm hc)

/-- The first four characters of an identifier are kept, so an escape that goes on in it is kept. -/
theorem identifier {word : List Char} (hword : isIdentifier word = true) (hn : n ≤ 2)
    (h : Starred 0 cs ds) : Starred n (word ++ cs) (maskWord word ++ ds) := by
  have hlength := length_of_isIdentifier hword
  have hplain := percent_not_mem hword
  let first := word.take 4
  let middle := (word.drop 4).take 12
  let last := word.drop 16
  have hsplit : word = first ++ (middle ++ last) := by
    have hrest := List.take_append_drop 12 (word.drop 4)
    rw [List.drop_drop] at hrest
    simp only [first, middle, last, hrest, List.take_append_drop]
  have hmask : maskWord word = first ++ (List.replicate middle.length '*' ++ last) := by
    have htwelve : middle.length = 12 := by
      simp only [middle, List.length_take, List.length_drop]
      omega
    rw [maskWord, if_pos hword, htwelve, List.append_assoc]
  have hfour : n ≤ first.length := by
    simp only [first, List.length_take]
    omega
  rw [hsplit, List.mem_append, List.mem_append, not_or, not_or] at hplain
  obtain ⟨hfirst, hmiddle, hlast⟩ := hplain
  have hstars := copy_plain hfirst hfour (stars hmiddle (copy_plain hlast (Nat.zero_le _) h))
  rw [hmask, hsplit]
  simpa using hstars

end Starred

/-- Masking only puts stars, and none of them into an escape. -/
theorem starred_maskIdentifiers (cs : List Char) : Starred 0 cs (maskIdentifiers cs) := by
  have each (words : List (List Char)) {n : Nat} (hn : n ≤ 2) :
      Starred n words.flatten (words.flatMap maskWord) := by
    induction words generalizing n with
    | nil => exact .nil
    | cons word words ih =>
      rw [List.flatten_cons, List.flatMap_cons]
      by_cases hword : isIdentifier word = true
      · exact .identifier hword hn (ih (Nat.zero_le 2))
      · obtain ⟨m, hm, hcopy⟩ := Starred.copy word hn
        rw [maskWord_of_not (by simpa using hword)]
        exact hcopy _ _ (ih hm)
  have hall := each (stretches cs) (Nat.zero_le 2)
  rw [stretches, List.flatten_splitBy] at hall
  exact hall

end AwsCredentials.Redaction
