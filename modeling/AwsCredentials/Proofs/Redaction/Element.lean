import AwsCredentials.Redaction.Secret
import AwsCredentials.Proofs.Text.Pattern

/-!
# Secret elements

A secret element is read from its opening tag to the next tag, so the content of a whole element is
never shown (`SameButElements.replaceAll_element`). What is no element is copied, and where a text
ends in something without a tag, the reader takes no notice of it (`blind_readElement`).
-/

namespace AwsCredentials.Redaction

open Text

/-! ## Reading an element -/

/-- The tag that opens an element. -/
def openingTag (n : String) : List Char := '<' :: n.toList ++ ['>']

/-- A whole element. -/
def tagged (n : String) (content : List Char) : List Char :=
  openingTag n ++ content ++ ('<' :: '/' :: n.toList ++ ['>'])

theorem prefixFree_secretNames : PrefixFree secretNames := by decide

theorem lt_not_mem_name {n : String} (hn : n ∈ secretNames) : '<' ∉ n.toList := by
  revert n
  decide

theorem readElement_append {n : String} (hn : n ∈ secretNames) (cs : List Char) :
    readElement (openingTag n ++ cs) = (dropStart? ['<'] (cs.dropWhile (· != '<'))).map
      fun rest => (openingTag n ++ mask ++ ['<'], rest) := by
  have hstart : openingTag n ++ cs = ['<'] ++ (n.toList ++ (['>'] ++ cs)) := by
    simp [openingTag]
  rw [readElement, hstart, dropStart?_append]
  simp only [Option.bind_eq_bind, Option.bind_some, nameAt?_append prefixFree_secretNames hn,
    dropStart?_append]
  cases dropStart? ['<'] (cs.dropWhile (· != '<')) with
  | none => rfl
  | some rest => simp [openingTag]

theorem readElement_eq_none {cs : List Char} (h : ∀ n ∈ secretNames, ¬ openingTag n <+: cs) :
    readElement cs = none := by
  cases hr : readElement cs with
  | none => rfl
  | some r =>
    simp only [readElement, Option.bind_eq_bind, Option.bind_eq_some_iff] at hr
    obtain ⟨a, ha, ⟨name, b⟩, hb, c, hc, -⟩ := hr
    obtain ⟨hab, n, hn, rfl⟩ := eq_of_nameAt? hb
    refine absurd ⟨c, ?_⟩ (h n hn)
    have hb : b = ['>'] ++ c := eq_of_dropStart? hc
    rw [eq_of_dropStart? ha, hab, hb]
    simp [openingTag]

/-- Nothing is read but at a tag. -/
theorem readElement_cons {c : Char} (hc : c ≠ '<') (cs : List Char) : readElement (c :: cs) = none :=
  readElement_eq_none fun _ _ h => hc (List.cons_prefix_cons.1 h).1.symm

/-- What has no tag is copied. -/
theorem replaceAll_element_append {before : List Char} (h : '<' ∉ before) (rest : List Char) :
    element.replaceAll (before ++ rest) = before ++ element.replaceAll rest := by
  refine element.replaceAll_append fun c cs hsuffix => readElement_cons ?_ _
  rintro rfl
  exact h (hsuffix.subset (by simp))

theorem dropWhile_lt {before : List Char} (h : '<' ∉ before) (rest : List Char) :
    (before ++ rest).dropWhile (· != '<') = rest.dropWhile (· != '<') := by
  refine List.dropWhile_append_of_pos fun c hc => ?_
  rw [bne_iff_ne]
  rintro rfl
  exact h hc

/-! ## Texts that differ in their elements -/

/-- Whether a stretch of text has no tag that opens a secret element. -/
def NoOpeningTag (cs : List Char) : Prop := ∀ n ∈ secretNames, ¬ openingTag n <:+: cs

/-- Two texts that differ at most in the contents of whole secret elements, with no opening tag in
the stretches between them. -/
inductive SameButElements : List Char → List Char → Prop
  | last {cs : List Char} : NoOpeningTag cs → SameButElements cs cs
  | next {cs rest rest' s s' : List Char} {n : String} : NoOpeningTag cs → n ∈ secretNames →
    '<' ∉ s → '<' ∉ s' → SameButElements rest rest' →
    SameButElements (cs ++ tagged n s ++ rest) (cs ++ tagged n s' ++ rest')

/-- A stretch without an opening tag is copied up to the next tag. -/
theorem replaceAll_element_stretch {before : List Char} (h : NoOpeningTag before)
    (rest : List Char) : element.replaceAll (before ++ '<' :: rest) =
      before ++ element.replaceAll ('<' :: rest) := by
  refine element.replaceAll_append fun c cs hsuffix => readElement_eq_none fun n hn hprefix => ?_
  obtain ⟨rfl, hinner⟩ := List.cons_prefix_cons.1 hprefix
  have hlt : '<' ∉ n.toList ++ ['>'] := by
    simpa using lt_not_mem_name hn
  have hin : n.toList ++ ['>'] <+: cs := prefix_of_prefix_append hlt hinner
  exact h n hn ((List.cons_prefix_cons.2 ⟨rfl, hin⟩).isInfix.trans hsuffix.isInfix)

theorem replaceAll_element_tagged {n : String} (hn : n ∈ secretNames) {s : List Char}
    (hs : '<' ∉ s) (rest : List Char) : element.replaceAll (tagged n s ++ rest) =
      tagged n mask ++ element.replaceAll rest := by
  have hread : element.read (tagged n s ++ rest) =
      some (openingTag n ++ mask ++ ['<'], '/' :: n.toList ++ ['>'] ++ rest) := by
    show readElement _ = _
    rw [tagged, List.append_assoc, List.append_assoc, readElement_append hn, dropWhile_lt hs]
    simp [dropStart?]
  have hend : '<' ∉ '/' :: n.toList ++ ['>'] := by
    simpa using lt_not_mem_name hn
  rw [element.replaceAll_of_read hread, replaceAll_element_append hend]
  simp [tagged]

/-- The contents of secret elements are not shown. -/
theorem SameButElements.replaceAll_element {t t' : List Char} (h : SameButElements t t') :
    element.replaceAll t = element.replaceAll t' := by
  induction h with
  | last => rfl
  | @next cs rest rest' s s' n hcs hn hs hs' _ ih =>
    have shown (s rest : List Char) (hs : '<' ∉ s) : element.replaceAll (cs ++ tagged n s ++ rest) =
        cs ++ (tagged n mask ++ element.replaceAll rest) := by
      rw [← replaceAll_element_tagged hn hs, List.append_assoc]
      exact replaceAll_element_stretch hcs _
    rw [shown s rest hs, shown s' rest' hs', ih]

/-! ## Texts that end in something without a tag -/

/-- The reader of elements takes no notice of an end without a tag, if that starts with a character
that no tag has. -/
theorem blind_readElement {ι : Type} {c : Char} {hidden : ι → List Char}
    (hc : c ∉ secretNames.flatMap openingTag) (hh : ∀ i, '<' ∉ hidden i) (after : List Char) :
    Blind readElement fun i => c :: hidden i ++ after := by
  intro before
  by_cases hopen : ∃ n ∈ secretNames, openingTag n <+: before
  · obtain ⟨n, hn, rest, rfl⟩ := hopen
    have hread (i : ι) := readElement_append hn (rest ++ (c :: hidden i ++ after))
    simp only [← List.append_assoc] at hread
    by_cases hlt : '<' ∈ rest
    · -- the element ends before the end of the text
      obtain ⟨s, rest', rfl, hs⟩ := List.eq_append_cons_of_mem hlt
      refine .inr (.inl ⟨openingTag n ++ mask ++ ['<'], rest', by simp; omega, fun i => ?_⟩)
      have hstop := dropWhile_lt hs ('<' :: rest' ++ c :: hidden i ++ after)
      simp only [List.append_assoc, List.cons_append] at hread hstop ⊢
      rw [hread, hstop]
      simp [dropStart?]
    · -- the content of the element goes on to the end of what is hidden
      have hne : '<' ≠ c := fun h => hc (List.mem_flatMap.2 ⟨n, hn, by simp [openingTag, ← h]⟩)
      have hgo (i : ι) : '<' ∉ rest ++ c :: hidden i := by
        rw [List.mem_append, List.mem_cons]
        rintro (h | h | h)
        · exact hlt h
        · exact hne h
        · exact hh i h
      have hstop (i : ι) := dropWhile_lt (hgo i) after
      simp only [List.append_assoc, List.cons_append] at hread hstop ⊢
      simp only [hread, hstop]
      cases dropStart? ['<'] (after.dropWhile (· != '<')) with
      | none => exact .inl fun _ => rfl
      | some rest' => exact .inr (.inr ⟨_, _, fun _ => rfl⟩)
  · refine .inl fun i => readElement_eq_none fun n hn hprefix => hopen ⟨n, hn, ?_⟩
    have hprefix : openingTag n <+: before ++ c :: (hidden i ++ after) := hprefix
    exact prefix_of_prefix_append (fun hmem => hc (List.mem_flatMap.2 ⟨n, hn, hmem⟩)) hprefix

end AwsCredentials.Redaction
