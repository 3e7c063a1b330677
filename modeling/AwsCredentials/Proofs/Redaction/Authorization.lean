import AwsCredentials.Proofs.Text.Pattern
import AwsCredentials.Redaction.Header

/-!
# The signature of a request

An `Authorization` value is read in one way only: what stands before the signature tells all of its
parts (`ofChars?_append`), and every value that is read has this form (`exists_of_ofChars?`). The
digits at its end can therefore be exchanged (`ofChars?_signature`), with or without blanks around
the value (`authorization?_signature`).
-/

namespace AwsCredentials

open Text

namespace Authorization

/-! ## Runs of characters -/

/-- Whether some characters, at least one, are all of a class. -/
def IsRun (p : Char → Bool) (cs : List Char) : Prop := cs ≠ [] ∧ ∀ c ∈ cs, p c = true

theorem run?_append {p : Char → Bool} {run rest : List Char} {c : Char} (h : IsRun p run)
    (hc : p c = false) : run? p (run ++ c :: rest) = some (run, c :: rest) := by
  have hneg : ¬ p c = true := by simp [hc]
  unfold run?
  rw [List.takeWhile_append_of_pos h.2, List.dropWhile_append_of_pos h.2,
    List.takeWhile_cons_of_neg hneg, List.dropWhile_cons_of_neg hneg, List.append_nil,
    if_neg (by simp [h.1])]

theorem of_run? {p : Char → Bool} {cs run rest : List Char} (h : run? p cs = some (run, rest)) :
    IsRun p run ∧ cs = run ++ rest := by
  unfold run? at h
  split at h
  · cases h
  · next hne =>
    obtain ⟨rfl, rfl⟩ := Prod.mk.inj (Option.some.inj h)
    refine ⟨⟨by simpa using hne, fun c hc => ?_⟩, List.takeWhile_append_dropWhile.symm⟩
    exact List.all_eq_true.1 List.all_takeWhile c hc

theorem isBlank_of_isAlgorithmChar {c : Char} (h : isAlgorithmChar c = true) :
    isBlank c = false := by
  have h : (decide (65 ≤ c.val ∧ c.val ≤ 90) || c.isDigit || c == '-') = true := h
  simp only [Char.isDigit, Bool.or_eq_true, Bool.and_eq_true, decide_eq_true_eq, beq_iff_eq] at h
  rcases h with (h | h) | rfl
  · exact isBlank_of_visible (UInt32.le_trans (by decide) h.1) (UInt32.le_trans h.2 (by decide))
  · exact isBlank_of_visible (UInt32.le_trans (by decide) h.1) (UInt32.le_trans h.2 (by decide))
  · decide

theorem isBlank_of_isHexChar {c : Char} (h : isHexChar c = true) : isBlank c = false := by
  simp only [isHexChar, Char.isDigit, Char.le_def, Bool.or_eq_true, Bool.and_eq_true,
    decide_eq_true_eq] at h
  rcases h with (h | h) | h
  · exact isBlank_of_visible (UInt32.le_trans (by decide) h.1) (UInt32.le_trans h.2 (by decide))
  · exact isBlank_of_visible (UInt32.le_trans (by decide) h.1) (UInt32.le_trans h.2 (by decide))
  · exact isBlank_of_visible (UInt32.le_trans (by decide) h.1) (UInt32.le_trans h.2 (by decide))

/-! ## The form of a value -/

/-- Whether some characters are an `Authorization` value up to its signature. -/
def IsHead (a : Authorization) (head : List Char) : Prop :=
  ∃ b₁ b₂ b₃, IsRun isAlgorithmChar a.algorithm ∧ IsRun isBlank b₁ ∧
    IsRun isValueChar a.credential ∧ (∀ c ∈ b₂, isBlank c = true) ∧
    IsRun isValueChar a.signedHeaders ∧ (∀ c ∈ b₃, isBlank c = true) ∧
    head = a.algorithm ++ (b₁ ++ ("Credential=".toList ++ (a.credential ++ (',' :: (b₂ ++
      ("SignedHeaders=".toList ++ (a.signedHeaders ++ (',' :: (b₃ ++ "Signature=".toList)))))))))

/-- What stands before the signature tells all parts. -/
theorem ofChars?_append {a : Authorization} {head : List Char} (h : a.IsHead head)
    (signature : List Char) : ofChars? (head ++ signature) =
      if signature.isEmpty || !signature.all isHexChar then none else some a := by
  obtain ⟨b₁, b₂, b₃, halg, hb₁, hcred, hb₂, hsigned, hb₃, rfl⟩ := h
  obtain ⟨c, b₁, rfl⟩ := List.exists_cons_of_ne_nil hb₁.1
  have hc : isAlgorithmChar c = false := by
    cases hc : isAlgorithmChar c with
    | false => rfl
    | true => exact absurd (hb₁.2 c (by simp)) (by simp [isBlank_of_isAlgorithmChar hc])
  have blanks (cs : List Char) : run? isBlank (c :: (b₁ ++ ("Credential=".toList ++ cs))) =
      some (c :: b₁, "Credential=".toList ++ cs) := run?_append (c := 'C') hb₁ rfl
  have credential (cs : List Char) : run? isValueChar (a.credential ++ ',' :: cs) =
      some (a.credential, ',' :: cs) := run?_append hcred rfl
  have comma (cs : List Char) : dropStart? [','] (',' :: cs) = some cs := dropStart?_append [','] cs
  have second (cs : List Char) : (b₂ ++ ("SignedHeaders=".toList ++ cs)).dropWhile isBlank =
      "SignedHeaders=".toList ++ cs := dropWhile_blanks (c := 'S') hb₂ rfl
  have signed (cs : List Char) : run? isValueChar (a.signedHeaders ++ ',' :: cs) =
      some (a.signedHeaders, ',' :: cs) := run?_append hsigned rfl
  have third (cs : List Char) : (b₃ ++ ("Signature=".toList ++ cs)).dropWhile isBlank =
      "Signature=".toList ++ cs := dropWhile_blanks (c := 'S') hb₃ rfl
  simp only [ofChars?, List.append_assoc, List.cons_append, run?_append halg hc,
    Option.bind_eq_bind, Option.bind_some, blanks, dropStart?_append, credential, comma, second,
    signed, third]
  rfl

/-- A value that is read has the form. -/
theorem exists_of_ofChars? {cs : List Char} {a : Authorization} (h : ofChars? cs = some a) :
    ∃ head signature, a.IsHead head ∧ IsRun isHexChar signature ∧ cs = head ++ signature := by
  simp only [ofChars?, Option.bind_eq_bind, Option.bind_eq_some_iff] at h
  obtain ⟨⟨algorithm, cs₁⟩, h₁, ⟨b₁, cs₂⟩, h₂, cs₃, h₃, ⟨credential, cs₄⟩, h₄, cs₅, h₅, cs₆, h₆,
    ⟨signedHeaders, cs₇⟩, h₇, cs₈, h₈, signature, h₉, h⟩ := h
  split at h
  · cases h
  next hsig =>
  obtain rfl := Option.some.inj h
  obtain ⟨halg, rfl⟩ := of_run? h₁
  obtain ⟨hb₁, rfl⟩ := of_run? h₂
  obtain rfl := eq_of_dropStart? h₃
  obtain ⟨hcred, rfl⟩ := of_run? h₄
  obtain rfl := eq_of_dropStart? h₅
  obtain ⟨b₂, hb₂, rfl⟩ := of_dropStart?_dropWhile h₆
  obtain ⟨hsigned, rfl⟩ := of_run? h₇
  obtain rfl := eq_of_dropStart? h₈
  obtain ⟨b₃, hb₃, rfl⟩ := of_dropStart?_dropWhile h₉
  refine ⟨_, signature, ⟨b₁, b₂, b₃, halg, hb₁, hcred, hb₂, hsigned, hb₃, rfl⟩, ?_, ?_⟩
  · simpa [IsRun] using hsig
  · simp only [List.append_assoc, List.cons_append, List.nil_append]

/-! ## Other signatures -/

theorem IsHead.getLast? {a : Authorization} {head : List Char} (h : a.IsHead head) :
    head.getLast? = some '=' := by
  obtain ⟨b₁, b₂, b₃, -, -, -, -, -, -, rfl⟩ := h
  have hne : "Signature=".toList ≠ [] := by decide
  simp only [← List.append_assoc, ← List.cons_append, List.getLast?_append_of_ne_nil _ hne]
  rfl

theorem ofChars?_of_signature {before signature signature' : List Char} {a : Authorization}
    (h : IsRun isHexChar signature) (h' : IsRun isHexChar signature')
    (ha : ofChars? (before ++ signature) = some a) : ofChars? (before ++ signature') = some a := by
  obtain ⟨head, signature₀, hhead, ⟨-, hall⟩, heq⟩ := exists_of_ofChars? ha
  obtain ⟨extra, rfl⟩ : ∃ extra, before = head ++ extra := by
    rcases List.append_eq_append_iff.1 heq with ⟨extra, rfl, hsig⟩ | ⟨extra, rfl, -⟩
    · by_cases hextra : extra = []
      · exact ⟨[], by simp [hextra]⟩
      · -- the signature cannot reach over the sign that ends the head
        have hlast := hhead.getLast?
        rw [List.getLast?_append_of_ne_nil _ hextra] at hlast
        have hmem : '=' ∈ signature := by
          rw [hsig]
          exact List.mem_append_left _ (List.mem_of_getLast? hlast)
        exact absurd (h.2 _ hmem) (by decide)
    · exact ⟨extra, rfl⟩
  rw [List.append_assoc] at heq ⊢
  obtain rfl := List.append_cancel_left heq
  have hall' : (extra ++ signature').all isHexChar = true := by
    refine List.all_eq_true.2 fun c hc => ?_
    rcases List.mem_append.1 hc with hc | hc
    · exact hall c (List.mem_append_left _ hc)
    · exact h'.2 c hc
  rw [ofChars?_append hhead, hall', if_neg]
  simp [h'.1]

/-- The digits at the end of a value tell nothing of its other parts. -/
theorem ofChars?_signature {before signature signature' : List Char}
    (h : IsRun isHexChar signature) (h' : IsRun isHexChar signature') :
    ofChars? (before ++ signature) = ofChars? (before ++ signature') := by
  refine Option.ext fun a => ⟨fun ha => ?_, fun ha => ?_⟩
  · exact ofChars?_of_signature h h' ha
  · exact ofChars?_of_signature h' h ha

theorem trimChars_signature {before signature after : List Char} (h : IsRun isHexChar signature)
    (hafter : ∀ c ∈ after, isBlank c = true) :
    trimChars (before ++ signature ++ after) = before.dropWhile isBlank ++ signature := by
  have hvisible : ∀ c ∈ signature, isBlank c = false := fun c hc => isBlank_of_isHexChar (h.2 c hc)
  have hstart : (before ++ signature ++ after).dropWhile isBlank =
      before.dropWhile isBlank ++ signature ++ after := by
    obtain ⟨c, signature, rfl⟩ := List.exists_cons_of_ne_nil h.1
    have hc := hvisible c (by simp)
    rw [List.append_assoc, List.dropWhile_append]
    split
    · next hempty =>
      rw [List.isEmpty_iff.1 hempty, List.cons_append, List.dropWhile_cons_of_neg (by simp [hc])]
      rfl
    · rw [List.append_assoc]
  have hend (cs : List Char) : trimEndChars (cs ++ signature ++ after) = cs ++ signature := by
    have hne : signature.reverse ≠ [] := by simpa using h.1
    obtain ⟨c, rest, hrev⟩ := List.exists_cons_of_ne_nil hne
    have hc := hvisible c (by rw [← List.mem_reverse, hrev]; simp)
    have hafter' : ∀ c ∈ after.reverse, isBlank c = true := by simpa using hafter
    rw [trimEndChars, List.reverse_append, List.reverse_append, List.dropWhile_append_of_pos hafter',
      hrev, List.cons_append, List.dropWhile_cons_of_neg (by simp [hc]), ← List.cons_append, ← hrev,
      List.reverse_append, List.reverse_reverse, List.reverse_reverse]
  rw [trimChars, hstart, hend]

end Authorization

open Authorization in
/-- The signature of a value is not shown. -/
theorem Redaction.authorization?_signature {before signature signature' after : List Char}
    {value value' : String} (h : IsRun isHexChar signature) (h' : IsRun isHexChar signature')
    (hafter : ∀ c ∈ after, isBlank c = true)
    (hvalue : value.toList = before ++ signature ++ after)
    (hvalue' : value'.toList = before ++ signature' ++ after) :
    authorization? value = authorization? value' := by
  rw [authorization?, authorization?, hvalue, hvalue', trimChars_signature h hafter,
    trimChars_signature h' hafter, ofChars?_signature h h']

end AwsCredentials
