import AwsCredentials.Proofs.Redaction.Element

/-!
# Secret form fields

The value of a form field is lost in one of three ways: the field itself is replaced, a field before
it has a value that goes on over it, or an element does. Whatever stands around the field, one of
them happens (`redactSecrets_field`), and so any number of fields may differ
(`SameButFields.redactSecrets`).
-/

namespace AwsCredentials.Redaction

open Text

/-! ## Reading a field -/

/-- A form field. -/
def formField (n : String) (value : List Char) : List Char := n.toList ++ '=' :: value

/-- Whether some characters are a value that ends where the next field or the text around the form
starts. -/
def IsValue (v : List Char) : Prop := ∀ c ∈ v, c ≠ '<' ∧ c ≠ '&' ∧ isBlank c = false

/-- Whether a value that stands before some characters ends there. -/
def EndsValue (cs : List Char) : Prop := ∀ c, cs.head? = some c → c = '&' ∨ isBlank c = true

/-- Whether a field may follow a character. -/
def isSeparator (c : Char) : Bool := c = '&' || c = '?'

theorem prefixFree_secretFields : PrefixFree secretFields := by decide

theorem isFieldChar_of_mem_name {n : String} (hn : n ∈ secretFields) :
    ∀ c ∈ n.toList, c ≠ '<' ∧ isFieldChar c = true := by
  have hall : n.toList.all (fun c => c != '<' && isFieldChar c) = true := by
    revert n
    decide
  intro c hc
  simpa using List.all_eq_true.1 hall c hc

theorem not_mem_formField {c : Char} (hc : isSeparator c = true) {n : String}
    (hn : n ∈ secretFields) : c ∉ formField n [] := by
  simp only [isSeparator, Bool.or_eq_true, decide_eq_true_eq] at hc
  revert n
  rcases hc with rfl | rfl <;> decide

theorem isValue_of_all {v : List Char} (h : v.all (fun c => c != '<' && isFieldChar c) = true) :
    IsValue v := by
  intro c hc
  simpa [isFieldChar] using List.all_eq_true.1 h c hc

theorem isFieldChar_of_isValue {v : List Char} (h : IsValue v) : ∀ c ∈ v, isFieldChar c = true := by
  intro c hc
  obtain ⟨-, hamp, hblank⟩ := h c hc
  simp [isFieldChar, hamp, hblank]

theorem isFieldChar_formField {n : String} (hn : n ∈ secretFields) {v : List Char} (h : IsValue v) :
    ∀ c ∈ formField n v, isFieldChar c = true := by
  intro c hc
  rcases List.mem_append.1 hc with hc | hc
  · exact (isFieldChar_of_mem_name hn c hc).2
  rcases List.mem_cons.1 hc with rfl | hc
  · decide
  · exact isFieldChar_of_isValue h c hc

theorem lt_not_mem_formField {n : String} (hn : n ∈ secretFields) {v : List Char} (h : IsValue v) :
    '<' ∉ formField n v := by
  intro hc
  rcases List.mem_append.1 hc with hc | hc
  · exact (isFieldChar_of_mem_name hn _ hc).1 rfl
  rcases List.mem_cons.1 hc with hc | hc
  · exact absurd hc (by decide)
  · exact (h _ hc).1 rfl

theorem dropWhile_of_endsValue {cs : List Char} (h : EndsValue cs) :
    cs.dropWhile isFieldChar = cs := by
  cases cs with
  | nil => rfl
  | cons c cs =>
    refine List.dropWhile_cons_of_neg ?_
    rcases h c rfl with rfl | hb
    · decide
    · simp [isFieldChar, hb]

theorem readField_formField {n : String} (hn : n ∈ secretFields) (cs : List Char) :
    readField (formField n cs) = some (formField n mask, cs.dropWhile isFieldChar) := by
  rw [readField, formField, nameAt?_append prefixFree_secretFields hn]
  rfl

/-- A value is read up to where it ends. -/
theorem readField_formField_append {n : String} (hn : n ∈ secretFields) {v after : List Char}
    (hv : IsValue v) (hafter : EndsValue after) :
    readField (formField n v ++ after) = some (formField n mask, after) := by
  have hread := readField_formField hn (v ++ after)
  rw [List.dropWhile_append_of_pos (isFieldChar_of_isValue hv),
    dropWhile_of_endsValue hafter] at hread
  simpa [formField] using hread

theorem readField_eq_none {cs : List Char} (h : ∀ n ∈ secretFields, ¬ formField n [] <+: cs) :
    readField cs = none := by
  cases hr : readField cs with
  | none => rfl
  | some r =>
    simp only [readField, Option.bind_eq_bind, Option.bind_eq_some_iff] at hr
    obtain ⟨⟨name, a⟩, ha, b, hb, -⟩ := hr
    obtain ⟨hcs, n, hn, rfl⟩ := eq_of_nameAt? ha
    have ha : a = ['='] ++ b := eq_of_dropStart? hb
    refine absurd ⟨b, ?_⟩ (h n hn)
    rw [hcs, ha]
    simp [formField]

/-! ## Readers of fields take no notice of a field -/

section Blind

variable {ι : Type} {c : Char} {n : String} {v : ι → List Char} {after : List Char}

theorem blind_readField (hc : isSeparator c = true) (hn : n ∈ secretFields)
    (hv : ∀ i, IsValue (v i)) (hafter : EndsValue after) :
    Blind readField fun i => c :: formField n (v i) ++ after := by
  intro before
  by_cases hopen : ∃ m ∈ secretFields, formField m [] <+: before
  · obtain ⟨m, hm, rest, rfl⟩ := hopen
    have hread (i : ι) : readField (formField m [] ++ rest ++ (c :: formField n (v i) ++ after)) =
        some (formField m mask,
          (rest ++ (c :: formField n (v i) ++ after)).dropWhile isFieldChar) := by
      rw [← readField_formField hm]
      simp [formField]
    simp only [hread, List.dropWhile_append]
    split
    · -- the value goes on over the separator, unless that ends it
      simp only [isSeparator, Bool.or_eq_true, decide_eq_true_eq] at hc
      rcases hc with rfl | rfl
      · refine .inr (.inl ⟨formField m mask, [], ?_, fun i => rfl⟩)
        rw [List.length_append, formField, List.length_append]
        exact Nat.add_pos_left (Nat.add_pos_right _ (Nat.succ_pos _)) _
      · refine .inr (.inr ⟨formField m mask, after, fun i => ?_⟩)
        have hall : ∀ d ∈ '?' :: formField n (v i), isFieldChar d = true :=
          List.forall_mem_cons.2 ⟨by decide, isFieldChar_formField hn (hv i)⟩
        rw [← List.dropWhile_append, List.dropWhile_append_of_pos hall, dropWhile_of_endsValue hafter]
    · refine .inr (.inl ⟨formField m mask, rest.dropWhile isFieldChar, ?_, fun i => rfl⟩)
      have := (List.dropWhile_suffix (l := rest) isFieldChar).length_le
      simp [formField]
      omega
  · refine .inl fun i => readField_eq_none fun m hm hprefix => hopen ⟨m, hm, ?_⟩
    have hprefix : formField m [] <+: before ++ c :: (formField n (v i) ++ after) := hprefix
    exact prefix_of_prefix_append (not_mem_formField hc hm) hprefix

theorem readNextField_formField (hc : isSeparator c = true) (hn : n ∈ secretFields)
    (hv : ∀ i, IsValue (v i)) (hafter : EndsValue after) (i : ι) :
    readNextField (c :: formField n (v i) ++ after) = some (c :: formField n mask, after) := by
  simp only [isSeparator, Bool.or_eq_true, decide_eq_true_eq] at hc
  rw [List.cons_append, readNextField, if_pos hc, readField_formField_append hn (hv i) hafter]
  rfl

theorem blind_readNextField (hc : isSeparator c = true) (hn : n ∈ secretFields)
    (hv : ∀ i, IsValue (v i)) (hafter : EndsValue after) :
    Blind readNextField fun i => c :: formField n (v i) ++ after := by
  intro before
  cases before with
  | nil => exact .inr (.inr ⟨_, _, readNextField_formField hc hn hv hafter⟩)
  | cons d before =>
    by_cases hd : d = '&' ∨ d = '?'
    · have hread (i : ι) : readNextField (d :: before ++ (c :: formField n (v i) ++ after)) =
          (readField (before ++ (c :: formField n (v i) ++ after))).map
            fun r => (d :: r.1, r.2) := by
        rw [List.cons_append, readNextField, if_pos hd]
      rcases blind_readField hc hn hv hafter before with
        hnone | ⟨replacement, before', hlt, hsome⟩ | ⟨replacement, rest, hsome⟩
      · exact .inl fun i => by rw [hread, hnone]; rfl
      · exact .inr (.inl ⟨d :: replacement, before', Nat.lt_succ_of_lt hlt,
          fun i => by rw [hread, hsome]; rfl⟩)
      · exact .inr (.inr ⟨d :: replacement, rest, fun i => by rw [hread, hsome]; rfl⟩)
    · exact .inl fun i => by rw [List.cons_append, readNextField, if_neg hd]

theorem exists_replaceAll_field (hc : isSeparator c = true) (hn : n ∈ secretFields)
    (hv : ∀ i, IsValue (v i)) (hafter : EndsValue after) (before : List Char) :
    ∃ out, ∀ i, field.replaceAll (before ++ (c :: formField n (v i) ++ after)) = out := by
  have blind : Blind field.read fun i => c :: formField n (v i) ++ after :=
    blind_readNextField hc hn hv hafter
  rcases blind.replaceAll before with hout | ⟨before', hout⟩
  · exact hout
  · refine ⟨before' ++ (c :: formField n mask ++ field.replaceAll after), fun i => ?_⟩
    have hread : field.read (c :: formField n (v i) ++ after) = some (c :: formField n mask, after) :=
      readNextField_formField hc hn hv hafter i
    rw [hout, field.replaceAll_of_read hread]

/-- A field that follows a separator is lost, whatever stands before it. -/
theorem exists_redactFields (hc : isSeparator c = true) (hn : n ∈ secretFields)
    (hv : ∀ i, IsValue (v i)) (hafter : EndsValue after) (before : List Char) :
    ∃ out, ∀ i, redactFields (before ++ (c :: formField n (v i) ++ after)) = out := by
  have rest (before : List Char) := exists_replaceAll_field hc hn hv hafter before
  rcases blind_readField hc hn hv hafter before with
    hnone | ⟨replacement, before', -, hsome⟩ | ⟨replacement, rest', hsome⟩
  · obtain ⟨out, hout⟩ := rest before
    exact ⟨out, fun i => by rw [redactFields, hnone]; exact hout i⟩
  · obtain ⟨out, hout⟩ := rest before'
    exact ⟨replacement ++ out, fun i => by rw [redactFields, hsome, ← hout i]⟩
  · exact ⟨replacement ++ field.replaceAll rest', fun i => by rw [redactFields, hsome]⟩

end Blind

/-! ## All passes -/

theorem endsValue_replaceAll_element {cs : List Char} (h : EndsValue cs) :
    EndsValue (element.replaceAll cs) := by
  cases cs with
  | nil =>
    rw [element.replaceAll_nil]
    exact h
  | cons c cs =>
    have hc : c ≠ '<' := by
      rintro rfl
      rcases h '<' rfl with hamp | hblank
      · exact absurd hamp (by decide)
      · exact absurd hblank (by decide)
    rw [element.replaceAll_cons (readElement_cons hc cs)]
    exact h

theorem redactFields_formField {n : String} (hn : n ∈ secretFields) {v after : List Char}
    (hv : IsValue v) (hafter : EndsValue after) :
    redactFields (formField n v ++ after) = formField n mask ++ field.replaceAll after := by
  rw [redactFields, readField_formField_append hn hv hafter]

/-- Whether a field may start after some characters. -/
def MayStart (before : List Char) : Prop :=
  before = [] ∨ ∃ cs c, before = cs ++ [c] ∧ isSeparator c = true

theorem not_mem_openingTag {c : Char} (hc : isSeparator c = true) :
    c ∉ secretNames.flatMap openingTag := by
  simp only [isSeparator, Bool.or_eq_true, decide_eq_true_eq] at hc
  rcases hc with rfl | rfl <;> decide

/-- The value of a field is lost, whatever stands around it. -/
theorem redactSecrets_field {before after : List Char} {n : String} {v v' : List Char}
    (hbefore : MayStart before) (hn : n ∈ secretFields) (hv : IsValue v) (hv' : IsValue v')
    (hafter : EndsValue after) : redactSecrets (before ++ formField n v ++ after) =
      redactSecrets (before ++ formField n v' ++ after) := by
  have hafter' := endsValue_replaceAll_element hafter
  unfold redactSecrets
  congr 1
  rcases hbefore with rfl | ⟨cs, c, rfl, hc⟩
  · have shown {u : List Char} (hu : IsValue u) :
        redactFields (element.replaceAll ([] ++ formField n u ++ after)) =
          formField n mask ++ field.replaceAll (element.replaceAll after) := by
      rw [List.nil_append, replaceAll_element_append (lt_not_mem_formField hn hu),
        redactFields_formField hn hu hafter']
    rw [shown hv, shown hv']
  · let hidden (u : { u : List Char // IsValue u }) : List Char := formField n u.1
    have hlt (u : { u : List Char // IsValue u }) : '<' ∉ hidden u := lt_not_mem_formField hn u.2
    have blind : Blind element.read fun u => c :: hidden u ++ after :=
      blind_readElement (not_mem_openingTag hc) hlt after
    have regroup (u : List Char) : cs ++ [c] ++ formField n u ++ after =
        cs ++ (c :: formField n u ++ after) := by simp
    rw [regroup, regroup]
    rcases blind.replaceAll cs with ⟨out, hout⟩ | ⟨before', hout⟩
    · exact congrArg redactFields ((hout ⟨v, hv⟩).trans (hout ⟨v', hv'⟩).symm)
    · obtain ⟨out, hfields⟩ := exists_redactFields hc hn
        (fun u : { u : List Char // IsValue u } => u.2) hafter' before'
      have shown {u : List Char} (hu : IsValue u) :
          redactFields (element.replaceAll (cs ++ (c :: formField n u ++ after))) = out := by
        have hcopy : '<' ∉ c :: formField n u := by
          rw [List.mem_cons, not_or]
          refine ⟨?_, lt_not_mem_formField hn hu⟩
          rintro rfl
          exact absurd hc (by decide)
        rw [← hfields ⟨u, hu⟩, ← replaceAll_element_append hcopy]
        exact congrArg redactFields (hout ⟨u, hu⟩)
      rw [shown hv, shown hv']

/-! ## Texts that differ in their fields -/

/-- Two texts that differ at most in the values of secret form fields. The flag says whether a field
may start here. -/
inductive SameButFields : Bool → List Char → List Char → Prop
  | nil {b : Bool} : SameButFields b [] []
  | char {b : Bool} {c : Char} {t t' : List Char} :
    SameButFields (isSeparator c) t t' → SameButFields b (c :: t) (c :: t')
  | field {n : String} {v v' t t' : List Char} : n ∈ secretFields → IsValue v → IsValue v' →
    EndsValue t → SameButFields false t t' →
    SameButFields true (formField n v ++ t) (formField n v' ++ t')

/-- A text may start alike, up to a separator. -/
theorem SameButFields.after {t t' : List Char} (h : SameButFields true t t') {c : Char}
    (hc : isSeparator c = true) (before : List Char) {b : Bool} :
    SameButFields b (before ++ c :: t) (before ++ c :: t') := by
  induction before generalizing b with
  | nil => exact .char (hc ▸ h)
  | cons d before ih => exact .char ih

/-- The values of secret fields are not shown: one field after another can be replaced, from left to
right. -/
theorem SameButFields.redactSecrets {b : Bool} {t t' : List Char} (h : SameButFields b t t')
    (before : List Char) (hb : b = true → MayStart before) :
    redactSecrets (before ++ t) = redactSecrets (before ++ t') := by
  induction h generalizing before with
  | nil => rfl
  | @char b c t t' _ ih =>
    have := ih (before ++ [c]) fun hc => .inr ⟨before, c, rfl, hc⟩
    simpa using this
  | @field n v v' t t' hn hv hv' hends _ ih =>
    have first := redactSecrets_field (hb rfl) hn hv hv' hends
    have others := ih (before ++ formField n v') nofun
    rw [← List.append_assoc, first, others, List.append_assoc]

end AwsCredentials.Redaction
