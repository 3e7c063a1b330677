import AwsCredentials.Proofs.Redaction.Field
import AwsCredentials.Proofs.Redaction.JsonText

/-!
# Secret members

A secret member is read from the quote before its name to the first quote of its value, be it the one
that ends the value or one that belongs to it. So a value is lost up to its first quote, and the rest
of it is shown.

* `readMember_eq_some_iff`: what is read;
* `replaceAll_member_append`: the text before a key is replaced on its own;
* `replaceAll_member_string`: the rest of a string is copied;
* `redactSecrets_member`: what is shown of a member, wherever it stands in a JSON text.
-/

namespace AwsCredentials.Redaction

open Text

/-! ## Reading a member -/

/-- A member whose value is a string, with the blanks around the colon. -/
def stringMember (n : String) (a b value : List Char) : List Char :=
  '"' :: n.toList ++ '"' :: a ++ ':' :: b ++ '"' :: value ++ ['"']

/-- A member as it is shown. -/
def shownMember (n : String) : List Char := '"' :: n.toList ++ "\":\"".toList ++ mask ++ ['"']

theorem plain_of_mem_name {n : String} (hn : n ∈ secretNames) :
    ∀ c ∈ n.toList, c ≠ '"' ∧ c ≠ '\\' := by
  have hall : n.toList.all (fun c => c != '"' && c != '\\') = true := by
    revert n
    decide
  intro c hc
  simpa using List.all_eq_true.1 hall c hc

/-- Secret names start with one of two letters, which no JSON text has outside of strings. -/
theorem exists_cons_of_secretName {n : String} (hn : n ∈ secretNames) :
    ∃ c cs, n.toList = c :: cs ∧ (c = 'S' ∨ c = 'W') := by
  have hcases : n = "SecretAccessKey" ∨ n = "SessionToken" ∨ n = "WebIdentityToken" := by
    simpa [secretNames] using hn
  rcases hcases with rfl | rfl | rfl
  · exact ⟨'S', "ecretAccessKey".toList, by decide, .inl rfl⟩
  · exact ⟨'S', "essionToken".toList, by decide, .inl rfl⟩
  · exact ⟨'W', "ebIdentityToken".toList, by decide, .inr rfl⟩

theorem stringMember_append (n : String) (a b u rest : List Char) :
    stringMember n a b u ++ rest =
      '"' :: (n.toList ++ '"' :: (a ++ ':' :: (b ++ '"' :: (u ++ '"' :: rest)))) := by
  simp [stringMember]

theorem dropWhile_quote {u : List Char} (h : '"' ∉ u) (rest : List Char) :
    (u ++ '"' :: rest).dropWhile (· != '"') = '"' :: rest := by
  rw [List.dropWhile_append_of_pos, List.dropWhile_cons_of_neg (by simp)]
  intro c hc
  rw [bne_iff_ne]
  rintro rfl
  exact h hc

theorem readMember_stringMember {n : String} (hn : n ∈ secretNames) {a b u : List Char}
    (ha : AllBlank a) (hb : AllBlank b) (hu : '"' ∉ u) (rest : List Char) :
    readMember (stringMember n a b u ++ rest) = some (shownMember n, rest) := by
  have hcolon : (a ++ ':' :: (b ++ '"' :: (u ++ '"' :: rest))).dropWhile isBlank =
      [':'] ++ (b ++ '"' :: (u ++ '"' :: rest)) := dropWhile_blanks ha rfl
  have hopen : (b ++ '"' :: (u ++ '"' :: rest)).dropWhile isBlank =
      ['"'] ++ (u ++ '"' :: rest) := dropWhile_blanks hb rfl
  have hquote (cs : List Char) : dropStart? ['"'] ('"' :: cs) = some cs := rfl
  rw [readMember, stringMember_append]
  simp only [Option.bind_eq_bind, hquote, Option.bind_some,
    nameAt?_append prefixFree_secretNames hn, hcolon, hopen, dropStart?_append, dropWhile_quote hu]
  rfl

/-- A member is read up to the first quote of its value, and nothing else is read. -/
theorem readMember_eq_some_iff {cs replacement rest : List Char} :
    readMember cs = some (replacement, rest) ↔
      ∃ n ∈ secretNames, ∃ a b u, AllBlank a ∧ AllBlank b ∧ '"' ∉ u ∧
        cs = stringMember n a b u ++ rest ∧ replacement = shownMember n := by
  constructor
  · intro h
    simp only [readMember, Option.bind_eq_bind, Option.bind_eq_some_iff, Option.pure_def,
      Option.some.injEq, Prod.mk.injEq] at h
    obtain ⟨c₁, h₁, ⟨name, c₂⟩, h₂, c₃, h₃, c₄, h₄, c₅, h₅, c₆, h₆, hr, rfl⟩ := h
    obtain ⟨h₂, n, hn, rfl⟩ := eq_of_nameAt? h₂
    have h₃ : c₂ = ['"'] ++ c₃ := eq_of_dropStart? h₃
    obtain ⟨a, ha, h₄⟩ := of_dropStart?_dropWhile h₄
    obtain ⟨b, hb, h₅⟩ := of_dropStart?_dropWhile h₅
    obtain ⟨u, hu, hc₅⟩ : ∃ u, '"' ∉ u ∧ c₅ = u ++ (['"'] ++ c₆) := by
      refine ⟨c₅.takeWhile (· != '"'), fun hmem => ?_, ?_⟩
      · exact absurd (List.all_eq_true.1 List.all_takeWhile _ hmem) (by decide)
      · rw [← eq_of_dropStart? h₆, List.takeWhile_append_dropWhile]
    refine ⟨n, hn, a, b, u, ha, hb, hu, ?_, hr.symm⟩
    rw [eq_of_dropStart? h₁, h₂, h₃, h₄, h₅, hc₅, stringMember_append]
    rfl
  · rintro ⟨n, hn, a, b, u, ha, hb, hu, rfl, rfl⟩
    exact readMember_stringMember hn ha hb hu rest

theorem readMember_eq_none {cs : List Char}
    (h : ∀ n ∈ secretNames, ∀ a b u rest, AllBlank a → AllBlank b → '"' ∉ u →
      cs ≠ stringMember n a b u ++ rest) : readMember cs = none := by
  rw [Option.eq_none_iff_forall_ne_some]
  rintro ⟨replacement, rest⟩ hread
  obtain ⟨n, hn, a, b, u, ha, hb, hu, hcs, -⟩ := readMember_eq_some_iff.1 hread
  exact h n hn a b u rest ha hb hu hcs

/-- Nothing is read but at a quote. -/
theorem readMember_cons {c : Char} (hc : c ≠ '"') (cs : List Char) : readMember (c :: cs) = none := by
  refine readMember_eq_none fun n _ a b u rest _ _ _ hcs => ?_
  rw [stringMember_append] at hcs
  exact hc (List.cons.inj hcs).1

/-! ## The text before a key -/

/-- Whether a key may be next behind none of the starts of some characters. -/
def NoKey (p : Place) (cs : List Char) : Prop :=
  ∀ ds, ds <+: cs → ds ≠ [] → p.scan ds ≠ some .key

namespace NoKey

open Place

variable {p : Place} {cs : List Char}

theorem nil : NoKey p [] :=
  fun _ hds hne => absurd (List.prefix_nil.1 hds) hne

theorem cons {c : Char} (h : ∀ q, p.step c = some q → q ≠ .key ∧ NoKey q cs) :
    NoKey p (c :: cs) := by
  intro ds hds hne hkey
  obtain ⟨d, ds, rfl⟩ := List.exists_cons_of_ne_nil hne
  obtain ⟨rfl, hrest⟩ := List.cons_prefix_cons.1 hds
  obtain ⟨q, hq, hscan⟩ := exists_of_scan_cons hkey
  obtain ⟨hnot, hcs⟩ := h q hq
  by_cases hnil : ds = []
  · subst hnil
    exact hnot (Option.some.inj hscan)
  · exact hcs ds hrest hnil hscan

theorem blanks {a : List Char} (ha : AllBlank a) (h : NoKey outside cs) :
    NoKey outside (a ++ cs) := by
  induction a with
  | nil => exact h
  | cons c a ih =>
    obtain ⟨hc, ha⟩ := List.forall_mem_cons.1 ha
    refine cons fun q hq => ?_
    have hstep : outside.scan ([c] ++ []) = outside.scan [] :=
      scan_blanks rfl (List.forall_mem_singleton.2 hc) []
    obtain ⟨q', hq', hscan⟩ := exists_of_scan_cons hstep
    obtain rfl : q' = q := Option.some.inj (hq'.symm.trans hq)
    obtain rfl : q' = outside := Option.some.inj hscan
    exact ⟨by decide, ih ha⟩

/-- Within a string no key is next up to its end. -/
theorem value {u : List Char} (hp : p.isFree = false) (hu : '"' ∉ u) : NoKey p (u ++ ['"']) := by
  induction u generalizing p with
  | nil =>
    refine cons fun q hq => ⟨?_, nil⟩
    rintro rfl
    cases p <;> cases hq
  | cons c u ih =>
    obtain ⟨hc, hu⟩ := not_or.1 (List.mem_cons.not.1 hu)
    refine cons fun q hq => ?_
    have hfree : q.isFree = false := by
      cases p with
      | key => cases hp
      | outside => cases hp
      | escaped => cases hq; rfl
      | inside =>
        simp only [step, Ne.symm hc, if_false, Option.some.injEq] at hq
        subst hq
        split <;> rfl
    refine ⟨?_, ih hfree hu⟩
    rintro rfl
    cases hfree

theorem name {name : List Char} (hname : ∀ c ∈ name, c ≠ '"' ∧ c ≠ '\\')
    (h : NoKey outside cs) : NoKey inside (name ++ '"' :: cs) := by
  induction name with
  | nil =>
    refine cons fun q hq => ?_
    obtain rfl := Option.some.inj hq
    exact ⟨by decide, h⟩
  | cons c name ih =>
    obtain ⟨⟨hquote, hbackslash⟩, hname⟩ := List.forall_mem_cons.1 hname
    refine cons fun q hq => ?_
    have hstep : inside.step c = some inside := by simp [step, hquote, hbackslash]
    obtain rfl := Option.some.inj (hstep.symm.trans hq)
    exact ⟨by decide, ih hname⟩

/-- A key is never next within what is read as a secret member. -/
theorem stringMember {n : String} (hn : n ∈ secretNames) {a b u : List Char} (ha : AllBlank a)
    (hb : AllBlank b) (hu : '"' ∉ u) : NoKey p (stringMember n a b u) := by
  have hvalue : NoKey outside (b ++ '"' :: (u ++ ['"'])) := by
    refine blanks hb (cons fun q hq => ?_)
    obtain rfl := Option.some.inj hq
    exact ⟨by decide, value rfl hu⟩
  have hrest : NoKey outside (a ++ ':' :: (b ++ '"' :: (u ++ ['"']))) := by
    refine blanks ha (cons fun q hq => ?_)
    obtain rfl := Option.some.inj hq
    exact ⟨by decide, hvalue⟩
  have hname := name (plain_of_mem_name hn) hrest
  rw [← List.append_nil (Redaction.stringMember n a b u), stringMember_append]
  refine cons fun q hq => ?_
  cases p with
  | key => cases hq; exact ⟨by decide, hname⟩
  | outside => cases hq; exact ⟨by decide, hname⟩
  | escaped => cases hq; exact ⟨by decide, hname⟩
  | inside =>
    -- the quote ends a string, and no secret name follows one
    cases hq
    refine ⟨by decide, ?_⟩
    obtain ⟨c, cs, hcs, hc⟩ := exists_cons_of_secretName hn
    rw [hcs]
    refine cons fun q hq => ?_
    rcases hc with rfl | rfl <;> cases hq

end NoKey

/-- Where a key is next, what stands before it is replaced on its own. -/
theorem replaceAll_member_append {p : Place} {before : List Char}
    (h : p.scan before = some .key) (rest : List Char) :
    member.replaceAll (before ++ rest) = member.replaceAll before ++ member.replaceAll rest := by
  induction hk : before.length using Nat.strongRecOn generalizing p before with | ind k ih => ?_
  subst hk
  cases before with
  | nil => rw [member.replaceAll_nil, List.nil_append, List.nil_append]
  | cons c cs =>
    cases hread : readMember (c :: cs ++ rest) with
    | none =>
      have hread' : readMember (c :: cs) = none := by
        refine readMember_eq_none fun n hn a b u rest' ha hb hu hcs => ?_
        have hsome := readMember_stringMember hn ha hb hu (rest' ++ rest)
        rw [← List.append_assoc, ← hcs, hread] at hsome
        cases hsome
      obtain ⟨q, -, hscan⟩ := Place.exists_of_scan_cons h
      have hrest := ih cs.length (Nat.lt_succ_self _) hscan rfl
      have hcopy : member.replaceAll (c :: (cs ++ rest)) = c :: member.replaceAll (cs ++ rest) :=
        member.replaceAll_cons hread
      rw [List.cons_append, hcopy, member.replaceAll_cons hread', hrest, List.cons_append]
    | some r =>
      obtain ⟨replacement, after⟩ := r
      obtain ⟨n, hn, a, b, u, ha, hb, hu, hsplit, rfl⟩ := readMember_eq_some_iff.1 hread
      rcases List.append_eq_append_iff.1 hsplit with ⟨e, hmember, -⟩ | ⟨inner, hcs, rfl⟩
      · -- what is read does not end before the key
        have hprefix : c :: cs <+: stringMember n a b u := ⟨e, hmember.symm⟩
        exact absurd h (NoKey.stringMember hn ha hb hu _ hprefix (List.cons_ne_nil _ _))
      · have hread' : readMember (c :: cs) = some (shownMember n, inner) := by
          rw [hcs]
          exact readMember_stringMember hn ha hb hu inner
        obtain ⟨q, hscan⟩ : ∃ q : Place, q.scan inner = some .key := by
          rw [hcs] at h
          exact Place.exists_of_scan_append h
        have hshorter : inner.length < (c :: cs).length := readMember_shorter hread'
        have hrest := ih inner.length hshorter hscan rfl
        rw [member.replaceAll_of_read hread, member.replaceAll_of_read hread', hrest,
          List.append_assoc]

/-! ## The rest of a string -/

/-- A string that starts with a name and a quote ends there. -/
theorem eq_of_name_quote {name w after rest : List Char} (hw : IsString w)
    (hname : ∀ c ∈ name, c ≠ '"' ∧ c ≠ '\\') (h : w ++ '"' :: after = name ++ '"' :: rest) :
    after = rest := by
  induction name generalizing w with
  | nil =>
    cases hw with
    | nil => exact (List.cons.inj h).2
    | char hquote => exact absurd (List.cons.inj h).1 hquote
    | escape => exact absurd (List.cons.inj h).1 (by decide)
  | cons c name ih =>
    obtain ⟨⟨hquote, hbackslash⟩, hname⟩ := List.forall_mem_cons.1 hname
    cases hw with
    | nil => exact absurd (List.cons.inj h).1.symm hquote
    | char _ _ hw => exact ih hw hname (List.cons.inj h).2
    | escape => exact absurd (List.cons.inj h).1.symm hbackslash

theorem GoesOn.ne_colon {after : List Char} (h : GoesOn after) {a rest : List Char}
    (ha : AllBlank a) : after ≠ a ++ ':' :: rest := by
  rintro rfl
  obtain ⟨b, rest', hsplit, hb, hrest'⟩ := h
  have hcolon : (a ++ ':' :: rest).dropWhile isBlank = ':' :: rest := dropWhile_blanks ha rfl
  rw [hsplit, List.dropWhile_append_of_pos hb] at hcolon
  cases rest' with
  | nil => cases hcolon
  | cons c rest' =>
    have hc := hrest' c rfl
    have hblank : isBlank c = false := by
      simp only [List.mem_cons, List.not_mem_nil, or_false] at hc
      rcases hc with rfl | rfl | rfl <;> decide
    rw [List.dropWhile_cons_of_neg (by simp [hblank])] at hcolon
    obtain ⟨rfl, -⟩ := List.cons.inj hcolon
    exact absurd hc (by decide)

theorem GoesOn.ne_name {after : List Char} (h : GoesOn after) {n : String} (hn : n ∈ secretNames)
    (rest : List Char) : after ≠ n.toList ++ rest := by
  obtain ⟨c, cs, hcs, hc⟩ := exists_cons_of_secretName hn
  rintro rfl
  obtain ⟨b, rest', hsplit, hb, hrest'⟩ := h
  rw [hcs] at hsplit
  cases b with
  | nil =>
    have hmem := hrest' c (by rw [← List.nil_append rest', ← hsplit]; rfl)
    rcases hc with rfl | rfl <;> exact absurd hmem (by decide)
  | cons d b =>
    obtain ⟨rfl, -⟩ := List.cons.inj hsplit
    have hblank := hb c (List.mem_cons_self ..)
    rcases hc with rfl | rfl <;> exact absurd hblank (by decide)

/-- The rest of a string is copied. -/
theorem replaceAll_member_string {w after : List Char} (hw : IsString w) (hafter : GoesOn after) :
    member.replaceAll (w ++ '"' :: after) = w ++ '"' :: member.replaceAll after := by
  have copy {c : Char} (hc : c ≠ '"') (cs : List Char) :
      member.replaceAll (c :: cs) = c :: member.replaceAll cs :=
    member.replaceAll_cons (readMember_cons hc cs)
  induction hw with
  | nil =>
    refine member.replaceAll_cons (readMember_eq_none fun n hn a b u rest _ _ _ hcs => ?_)
    rw [stringMember_append] at hcs
    exact hafter.ne_name hn _ (List.cons.inj hcs).2
  | @char c w hquote _ _ ih => rw [List.cons_append, copy hquote, ih, List.cons_append]
  | @escape c w hw ih =>
    have hbackslash : '\\' ≠ '"' := by decide
    by_cases hc : c = '"'
    · -- a name behind an escaped quote goes on to the end of the string, and no colon is there
      subst hc
      have hread : readMember ('"' :: (w ++ '"' :: after)) = none := by
        refine readMember_eq_none fun n hn a b u rest ha _ _ hcs => ?_
        rw [stringMember_append] at hcs
        have hrest := eq_of_name_quote hw (plain_of_mem_name hn) (List.cons.inj hcs).2
        exact hafter.ne_colon ha hrest
      rw [List.cons_append, copy hbackslash, List.cons_append, member.replaceAll_cons hread, ih]
      rfl
    · rw [List.cons_append, copy hbackslash, List.cons_append, copy hc, ih]
      rfl

/-! ## What is shown of a member -/

/-- What is shown of a string: what follows its first quote, with the quote that ends it. -/
def shownRest (v : List Char) : List Char := ((v ++ ['"']).dropWhile (· != '"')).tail

/-- Nothing is shown of a string without a quote. -/
theorem shownRest_eq_nil {v : List Char} (h : '"' ∉ v) : shownRest v = [] := by
  rw [shownRest, dropWhile_quote h]
  rfl

theorem shownRest_append {u : List Char} (h : '"' ∉ u) (w : List Char) :
    shownRest (u ++ '"' :: w) = w ++ ['"'] := by
  rw [shownRest, List.append_assoc, List.cons_append, dropWhile_quote h]
  rfl

theorem IsString.of_quote {u w : List Char} (h : IsString (u ++ '"' :: w)) : IsString w := by
  generalize hv : u ++ '"' :: w = v at h
  induction h generalizing u with
  | nil => simp at hv
  | @char c cs hquote _ _ ih =>
    cases u with
    | nil => exact absurd (List.cons.inj hv).1.symm hquote
    | cons d u => exact ih (List.cons.inj hv).2
  | @escape c cs hcs ih =>
    cases u with
    | nil => exact absurd (List.cons.inj hv).1 (by decide)
    | cons d u =>
      cases u with
      | nil =>
        obtain ⟨-, rfl⟩ := List.cons.inj (List.cons.inj hv).2
        exact hcs
      | cons e u => exact ih (List.cons.inj (List.cons.inj hv).2).2

/-- A member loses its value up to the first quote of it. -/
theorem replaceAll_stringMember {n : String} (hn : n ∈ secretNames) {a b v after : List Char}
    (ha : AllBlank a) (hb : AllBlank b) (hv : IsString v) (hafter : GoesOn after) :
    member.replaceAll (stringMember n a b v ++ after) =
      shownMember n ++ shownRest v ++ member.replaceAll after := by
  by_cases hquote : '"' ∈ v
  · obtain ⟨u, w, rfl, hu⟩ := List.eq_append_cons_of_mem hquote
    have hread := readMember_stringMember hn ha hb hu (w ++ '"' :: after)
    have hsplit : stringMember n a b (u ++ '"' :: w) ++ after =
        stringMember n a b u ++ (w ++ '"' :: after) := by
      simp [stringMember]
    rw [hsplit, member.replaceAll_of_read hread, replaceAll_member_string hv.of_quote hafter,
      shownRest_append hu]
    simp
  · have hread := readMember_stringMember hn ha hb hquote after
    rw [member.replaceAll_of_read hread, shownRest_eq_nil hquote, List.append_nil]

/-! ## All passes -/

/-- Whether no secret form field starts behind a separator. -/
def NoField (cs : List Char) : Prop :=
  ∀ n ∈ secretFields, ¬ '&' :: formField n [] <:+: cs ∧ ¬ '?' :: formField n [] <:+: cs

/-- Whether a text has neither the opening tag of a secret element nor the start of a secret form
field. -/
structure Plain (cs : List Char) : Prop where
  noTag : NoOpeningTag cs
  noField : NoField cs

theorem replaceAll_element_of_noOpeningTag {cs : List Char} (h : NoOpeningTag cs) :
    element.replaceAll cs = cs := by
  refine element.replaceAll_eq_self fun c ds hsuffix => ?_
  refine readElement_eq_none fun n hn hprefix => h n hn ?_
  exact hprefix.isInfix.trans hsuffix.isInfix

theorem replaceAll_field_of_noField {cs : List Char} (h : NoField cs) :
    field.replaceAll cs = cs := by
  refine field.replaceAll_eq_self fun c ds hsuffix => ?_
  show readNextField (c :: ds) = none
  rw [readNextField]
  split
  · next hc =>
    have hread : readField ds = none := by
      refine readField_eq_none fun n hn hprefix => ?_
      have hinfix := (List.cons_prefix_cons.2 ⟨rfl, hprefix⟩).isInfix.trans hsuffix.isInfix
      rcases hc with rfl | rfl
      · exact (h n hn).1 hinfix
      · exact (h n hn).2 hinfix
    rw [hread]
    rfl
  · rfl

theorem Around.exists_cons {before after : List Char} (h : Around .value before after) :
    ∃ c cs, before = c :: cs ∧ (isBlank c = true ∨ c = '[' ∨ c = '\x7b') := by
  generalize hpart : JsonPart.value = part at h
  induction h with
  | object => exact ⟨_, _, rfl, .inr (.inr rfl)⟩
  | array => exact ⟨_, _, rfl, .inr (.inl rfl)⟩
  | @spaced a before after b ha _ _ ih =>
    cases a with
    | nil => exact ih rfl
    | cons c a => exact ⟨c, a ++ before, rfl, .inl (ha c (List.mem_cons_self ..))⟩
  | behind hne => exact absurd hpart.symm hne
  | ahead hne => exact absurd hpart.symm hne
  | here => cases hpart
  | inItem => cases hpart
  | inMember => cases hpart

/-- No form field starts where a JSON text does. -/
theorem readField_of_start {c : Char} (h : isBlank c = true ∨ c = '[' ∨ c = '\x7b')
    (cs : List Char) : readField (c :: cs) = none := by
  refine readField_eq_none fun n hn hprefix => ?_
  have hstart : ∀ m ∈ secretFields, m.toList.head? = some 'S' ∨ m.toList.head? = some 'W' ∨
      m.toList.head? = some 'X' := by decide
  have hhead (d : Char) (hd : n.toList.head? = some d) : d = c := by
    obtain ⟨ds, hname⟩ := List.head?_eq_some_iff.1 hd
    rw [formField, hname] at hprefix
    exact (List.cons_prefix_cons.1 hprefix).1
  rcases hstart n hn with hd | hd | hd <;> obtain rfl := hhead _ hd <;>
    rcases h with h | h | h <;> exact absurd h (by decide)

variable {before after a b : List Char} {n : String}

/-- What is shown of a member and of the text around it, each on its own. -/
theorem redactSecrets_member (h : Around .value before after) (hn : n ∈ secretNames)
    (ha : AllBlank a) (hb : AllBlank b) {v : List Char} (hv : IsString v)
    (hplain : Plain (before ++ stringMember n a b v ++ after)) :
    redactSecrets (before ++ stringMember n a b v ++ after) =
      member.replaceAll before ++ (shownMember n ++ shownRest v) ++ member.replaceAll after := by
  have hfields : redactFields (before ++ stringMember n a b v ++ after) =
      before ++ stringMember n a b v ++ after := by
    obtain ⟨c, cs, rfl, hc⟩ := h.exists_cons
    rw [redactFields, List.cons_append, List.cons_append, readField_of_start hc]
    exact replaceAll_field_of_noField hplain.noField
  have hscan : Place.key.scan before = some .key := by
    have hbehind := h.scan_eq (p := Place.key) rfl (by decide) []
    rw [List.append_nil] at hbehind
    exact hbehind
  rw [redactSecrets, replaceAll_element_of_noOpeningTag hplain.noTag, hfields, List.append_assoc,
    replaceAll_member_append hscan, replaceAll_stringMember hn ha hb hv h.goesOn]
  simp

/-- A secret member may stand at any depth of a JSON text, with any blanks around its colon. Let the
text have neither the opening tag of a secret element nor the start of a secret form field. Then what
is shown of the member is its name, five stars and what follows the first quote of its value, and the
text around it is shown as it would be on its own. So two values are shown alike exactly if they agree
on what follows their first quotes, and a value without a quote is not shown at all. -/
theorem member_shown_from_first_quote (h : Around .value before after) (hn : n ∈ secretNames)
    (ha : AllBlank a) (hb : AllBlank b) :
    let text v := before ++ stringMember n a b v ++ after
    (∀ v, IsString v → JsonText .value (text v)) ∧
    (∀ v, IsString v → Plain (text v) → redactSecrets (text v) =
      member.replaceAll before ++ (shownMember n ++ shownRest v) ++ member.replaceAll after) ∧
    (∀ v v', IsString v → IsString v' → Plain (text v) → Plain (text v') →
      (redactSecrets (text v) = redactSecrets (text v') ↔ shownRest v = shownRest v')) ∧
    (∀ v, shownRest v = [] ↔ '"' ∉ v) ∧
    ∀ v v', IsString v → IsString v' → Plain (text v) → Plain (text v') → '"' ∉ v → '"' ∉ v' →
      redacted (String.ofList (text v)) = redacted (String.ofList (text v')) := by
  intro text
  have shown (v : List Char) (hv : IsString v) (hplain : Plain (text v)) :=
    redactSecrets_member h hn ha hb hv hplain
  have nothing (v : List Char) : shownRest v = [] ↔ '"' ∉ v := by
    refine ⟨fun hnil hquote => ?_, shownRest_eq_nil⟩
    obtain ⟨u, w, rfl, hu⟩ := List.eq_append_cons_of_mem hquote
    rw [shownRest_append hu] at hnil
    simp at hnil
  refine ⟨fun v hv => ?_, shown, fun v v' hv hv' hplain hplain' => ?_, nothing, ?_⟩
  · refine h.jsonText fun c d hc hd => ?_
    have hname : IsString n.toList := isString_of_plain <| List.all_eq_true.2 fun c hc => by
      simpa using plain_of_mem_name hn c hc
    have hvalue := (JsonText.string hv).spaced hb hd
    have hmember := hvalue.member hc hname ha
    simpa [stringMember] using hmember
  · rw [shown v hv hplain, shown v' hv' hplain']
    simp
  · intro v v' hv hv' hplain hplain' hquote hquote'
    have same : redactSecrets (text v) = redactSecrets (text v') := by
      rw [shown v hv hplain, shown v' hv' hplain', shownRest_eq_nil hquote,
        shownRest_eq_nil hquote']
    simp only [redacted, String.toList_ofList, same]

/-- An object may lie in an array, and a value may have separators and brackets in it. -/
theorem nested_token_is_hidden :
    let text (v : String) :=
      "\x7b\"Keys\": [\x7b\"SessionToken\" :\t\"" ++ v ++ "\"\x7d], \"Type\": null\x7d\n"
    redacted (text "one") = redacted (text "t&w=o?<\\\\>") := by
  intro text
  have none : AllBlank [] := List.forall_mem_nil _
  have space : AllBlank [' '] := by simp [AllBlank, isBlank]
  have tab : AllBlank ['\t'] := by simp [AllBlank, isBlank]
  have line : AllBlank ['\n'] := by simp [AllBlank, isBlank]
  have hkeys : IsString "Keys".toList := isString_of_plain (by decide)
  have htype : IsString "Type".toList := isString_of_plain (by decide)
  have hnull : JsonText .value "null".toList :=
    .scalar (by decide) (List.all_eq_true.1 (by decide))
  have hothers := JsonText.member space htype none (.spaced space hnull none)
  have hvalue := Around.spaced space (.array (.inItem (.object (.here none none)))) none
  have hmember := Around.inMember none hkeys none hvalue
  have haround := Around.spaced none (.object (.ahead (by decide) hothers hmember)) line
  have hname : "SessionToken" ∈ secretNames := by decide
  have hone : IsString "one".toList := isString_of_plain (by decide)
  have hother : IsString "t&w=o?<\\\\>".toList :=
    .char (by decide) (by decide) (.char (by decide) (by decide) (.char (by decide) (by decide)
      (.char (by decide) (by decide) (.char (by decide) (by decide) (.char (by decide) (by decide)
      (.char (by decide) (by decide) (.escape (.char (by decide) (by decide) .nil))))))))
  have same := (member_shown_from_first_quote haround hname space tab).2.2.2.2 _ _ hone hother
    ⟨by unfold NoOpeningTag; decide +kernel, by unfold NoField; decide +kernel⟩
    ⟨by unfold NoOpeningTag; decide +kernel, by unfold NoField; decide +kernel⟩
    (by decide) (by decide)
  simpa [text, stringMember] using same

/-- An escaped quote ends what is hidden of a key. So does what looks like a form field, behind which
the quote is lost that ends the key, and all that stands before it is shown. -/
theorem escaped_quote_shows_key :
    let text (v : String) := ['\x7b'] ++ stringMember "SecretAccessKey" [] [] v.toList ++ ['\x7d']
    Around .value ['\x7b'] ['\x7d'] ∧ IsString "c".toList ∧ IsString "a\\\"b".toList ∧
      IsString "a&SessionToken=b".toList ∧
      redacted (String.ofList (text "c")) = "\x7b\"SecretAccessKey\":\"*****\"\x7d" ∧
      redacted (String.ofList (text "a\\\"b")) = "\x7b\"SecretAccessKey\":\"*****\"b\"\x7d" ∧
      redacted (String.ofList (text "a&SessionToken=b")) =
        "\x7b\"SecretAccessKey\":\"a&SessionToken=*****" := by
  intro text
  have blank : AllBlank [] := List.forall_mem_nil _
  refine ⟨Around.object (.here blank blank), ?_, ?_, ?_, ?_, ?_, ?_⟩
  · exact isString_of_plain (by decide)
  · exact .char (by decide) (by decide) (.escape (.char (by decide) (by decide) .nil))
  · exact isString_of_plain (by decide)
  · decide +kernel
  · decide +kernel
  · decide +kernel

end AwsCredentials.Redaction
