import AwsCredentials.Text.Blank
import Mathlib.Data.List.Basic

/-!
# JSON texts

A member of an object stands in the text around it (`Around`), which goes on through the objects and
arrays that it is nested in. What matters of that text is told by reading it from left to right
(`scan`): at each place a key may be next, or something else outside of strings, or the text is within
a string.

* `Around.jsonText`: the text around a member, with the member, is a JSON text;
* `Around.scan_eq`: where the member stands, a key may be next;
* `Around.goesOn`: what follows the member cannot follow a key.
-/

namespace AwsCredentials.Redaction

open Text

/-! ## Texts -/

/-- Whether some characters are nothing but white space. -/
def AllBlank (cs : List Char) : Prop := ∀ c ∈ cs, isBlank c = true

/-- Whether some characters can stand between the quotes of a JSON string: a quote does only behind a
backslash. -/
inductive IsString : List Char → Prop
  | nil : IsString []
  | char {c : Char} {cs : List Char} : c ≠ '"' → c ≠ '\\' → IsString cs → IsString (c :: cs)
  | escape {c : Char} {cs : List Char} : IsString cs → IsString ('\\' :: c :: cs)

theorem isString_of_plain {cs : List Char}
    (h : cs.all (fun c => c != '"' && c != '\\') = true) : IsString cs := by
  induction cs with
  | nil => exact .nil
  | cons c cs ih =>
    simp only [List.all_cons, Bool.and_eq_true, bne_iff_ne] at h
    exact .char h.1.1 h.1.2 (ih h.2)

/-- Whether a character can stand in a number or in one of the words for truth, falsehood and
nothing. -/
def isScalarChar (c : Char) : Bool := "+-.0123456789eEtrufalsn".toList.contains c

/-- The parts of a JSON text. -/
inductive JsonPart where
  | value
  /-- What stands between the brackets of an array, if that is not empty. -/
  | items
  /-- What stands between the braces of an object, if that is not empty. -/
  | members
  deriving DecidableEq

/-- JSON texts. -/
inductive JsonText : JsonPart → List Char → Prop
  | scalar {cs : List Char} : cs ≠ [] → (∀ c ∈ cs, isScalarChar c = true) → JsonText .value cs
  | string {s : List Char} : IsString s → JsonText .value ('"' :: s ++ ['"'])
  | noItems {a : List Char} : AllBlank a → JsonText .value ('[' :: a ++ [']'])
  | array {cs : List Char} : JsonText .items cs → JsonText .value ('[' :: cs ++ [']'])
  | noMembers {a : List Char} : AllBlank a → JsonText .value ('\x7b' :: a ++ ['\x7d'])
  | object {cs : List Char} : JsonText .members cs → JsonText .value ('\x7b' :: cs ++ ['\x7d'])
  | spaced {a cs b : List Char} : AllBlank a → JsonText .value cs → AllBlank b →
    JsonText .value (a ++ cs ++ b)
  | item {cs : List Char} : JsonText .value cs → JsonText .items cs
  | member {a name b cs : List Char} : AllBlank a → IsString name → AllBlank b →
    JsonText .value cs → JsonText .members (a ++ '"' :: name ++ '"' :: b ++ ':' :: cs)
  | next {part : JsonPart} {cs ds : List Char} : part ≠ .value → JsonText part cs → JsonText part ds →
    JsonText part (cs ++ ',' :: ds)

/-- What stands before and after a member, at any depth of a part. -/
inductive Around : JsonPart → List Char → List Char → Prop
  | here {a b : List Char} : AllBlank a → AllBlank b → Around .members a b
  | object {before after : List Char} : Around .members before after →
    Around .value ('\x7b' :: before) (after ++ ['\x7d'])
  | array {before after : List Char} : Around .items before after →
    Around .value ('[' :: before) (after ++ [']'])
  | spaced {a before after b : List Char} : AllBlank a → Around .value before after → AllBlank b →
    Around .value (a ++ before) (after ++ b)
  | inItem {before after : List Char} : Around .value before after → Around .items before after
  | inMember {a name b before after : List Char} : AllBlank a → IsString name → AllBlank b →
    Around .value before after →
    Around .members (a ++ '"' :: name ++ '"' :: b ++ ':' :: before) after
  | behind {part : JsonPart} {cs before after : List Char} : part ≠ .value → JsonText part cs →
    Around part before after → Around part (cs ++ ',' :: before) after
  | ahead {part : JsonPart} {cs before after : List Char} : part ≠ .value → JsonText part cs →
    Around part before after → Around part before (after ++ ',' :: cs)

variable {part : JsonPart} {cs before after rest : List Char}

/-- A member and the text around it are a JSON text. -/
theorem Around.jsonText {m : List Char} (h : Around part before after)
    (hm : ∀ a b, AllBlank a → AllBlank b → JsonText .members (a ++ m ++ b)) :
    JsonText part (before ++ m ++ after) := by
  induction h with
  | here ha hb => exact hm _ _ ha hb
  | object _ ih =>
    have htext := ih.object
    simpa using htext
  | array _ ih =>
    have htext := ih.array
    simpa using htext
  | spaced ha _ hb ih =>
    have htext := ih.spaced ha hb
    simpa using htext
  | inItem _ ih => exact ih.item
  | inMember ha hname hb _ ih =>
    have htext := ih.member ha hname hb
    simpa using htext
  | behind hpart hcs _ ih =>
    have htext := hcs.next hpart ih
    simpa using htext
  | ahead hpart hcs _ ih =>
    have htext := ih.next hpart hcs
    simpa using htext

/-! ## Reading -/

/-- The places of a JSON text. -/
inductive Place where
  /-- A key may be next. -/
  | key
  /-- Something else may be next. -/
  | outside
  | inside
  /-- Within a string, behind a backslash. -/
  | escaped
  deriving DecidableEq

namespace Place

/-- Whether a place is within no string. -/
def isFree : Place → Bool
  | key | outside => true
  | inside | escaped => false

/-- The place behind a character. -/
def step : Place → Char → Option Place
  | inside, c => some (if c = '"' then outside else if c = '\\' then escaped else inside)
  | escaped, _ => some inside
  | p, c =>
    if c = '"' then some inside
    else if isBlank c then some p
    else if c = '\x7b' ∨ c = ',' then some key
    else if isScalarChar c ∨ c ∈ ['[', ']', '\x7d', ':'] then some outside
    else none

/-- The place behind some characters. -/
def scan (p : Place) (cs : List Char) : Option Place := cs.foldlM step p

variable {p q : Place}

theorem scan_cons {c : Char} (h : p.step c = some q) (cs : List Char) :
    p.scan (c :: cs) = q.scan cs := by
  rw [scan, List.foldlM_cons, h]
  rfl

theorem exists_of_scan_cons {c : Char} {cs : List Char} (h : p.scan (c :: cs) = some q) :
    ∃ q', p.step c = some q' ∧ q'.scan cs = some q := by
  rw [scan, List.foldlM_cons] at h
  exact Option.bind_eq_some_iff.1 h

theorem exists_of_scan_append {cs ds : List Char} (h : p.scan (cs ++ ds) = some q) :
    ∃ q' : Place, q'.scan ds = some q := by
  rw [scan, List.foldlM_append] at h
  obtain ⟨q', -, hscan⟩ := Option.bind_eq_some_iff.1 h
  exact ⟨q', hscan⟩

theorem scan_blanks (hp : p.isFree = true) {a : List Char} (ha : AllBlank a) (rest : List Char) :
    p.scan (a ++ rest) = p.scan rest := by
  induction a with
  | nil => rfl
  | cons c a ih =>
    obtain ⟨hc, ha⟩ := List.forall_mem_cons.1 ha
    have hquote : c ≠ '"' := by
      rintro rfl
      exact absurd hc (by decide)
    have hstep : p.step c = some p := by
      cases p <;> simp_all [step, isFree]
    rw [List.cons_append, scan_cons hstep, ih ha]

theorem scan_string (hs : IsString cs) (rest : List Char) :
    inside.scan (cs ++ '"' :: rest) = outside.scan rest := by
  induction hs with
  | nil => exact scan_cons rfl rest
  | @char c cs hquote hbackslash _ ih =>
    have hstep : inside.step c = some inside := by simp [step, hquote, hbackslash]
    rw [List.cons_append, scan_cons hstep, ih]
  | @escape c cs _ ih =>
    have hstep : inside.step '\\' = some escaped := rfl
    have hstep' : escaped.step c = some inside := rfl
    rw [List.cons_append, List.cons_append, scan_cons hstep, scan_cons hstep', ih]

/-- Where no string is, all of these characters leave it so. -/
theorem step_of_mem (hp : p.isFree = true) {c : Char} (hc : c ∈ ['[', ']', '\x7d', ':']) :
    p.step c = some outside := by
  simp only [List.mem_cons, List.not_mem_nil, or_false] at hc
  rcases hc with rfl | rfl | rfl | rfl <;> cases p <;> first | rfl | cases hp

theorem step_scalar (hp : p.isFree = true) {c : Char} (hc : isScalarChar c = true) :
    p.step c = some outside := by
  have hmem : c ∈ "+-.0123456789eEtrufalsn".toList := List.contains_iff_mem.1 hc
  have hall : "+-.0123456789eEtrufalsn".toList.all (p.step · = some outside) = true := by
    cases p with
    | inside => cases hp
    | escaped => cases hp
    | key => decide
    | outside => decide
  exact of_decide_eq_true (List.all_eq_true.1 hall c hmem)

theorem scan_scalar {cs : List Char} (hcs : ∀ c ∈ cs, isScalarChar c = true) (rest : List Char) :
    outside.scan (cs ++ rest) = outside.scan rest := by
  induction cs with
  | nil => rfl
  | cons c cs ih =>
    obtain ⟨hc, hcs⟩ := List.forall_mem_cons.1 hcs
    rw [List.cons_append, scan_cons (step_scalar rfl hc), ih hcs]

theorem step_opening (hp : p.isFree = true) {c : Char} (hc : c = '\x7b' ∨ c = ',') :
    p.step c = some key := by
  rcases hc with rfl | rfl <;> cases p <;> first | rfl | cases hp

theorem step_quote (hp : p.isFree = true) : p.step '"' = some inside := by
  cases p <;> first | rfl | cases hp

/-- A string with its quotes. -/
theorem scan_quoted (hp : p.isFree = true) {s : List Char} (hs : IsString s) (rest : List Char) :
    p.scan ('"' :: (s ++ '"' :: rest)) = outside.scan rest := by
  rw [scan_cons (step_quote hp), scan_string hs]

/-- A name with the colon behind it. -/
theorem scan_name (hp : p.isFree = true) {a name b : List Char} (ha : AllBlank a)
    (hname : IsString name) (hb : AllBlank b) (rest : List Char) :
    p.scan (a ++ '"' :: (name ++ '"' :: (b ++ ':' :: rest))) = outside.scan rest := by
  have hcolon : outside.step ':' = some outside := rfl
  rw [scan_blanks hp ha, scan_quoted hp hname, scan_blanks rfl hb, scan_cons hcolon]

end Place

open Place

/-- Behind a part of a JSON text something else than a key is next. -/
theorem JsonText.scan_eq (h : JsonText part cs) {p : Place} (hp : p.isFree = true)
    (rest : List Char) : p.scan (cs ++ rest) = outside.scan rest := by
  have hclose {c : Char} (hc : c ∈ ['[', ']', '\x7d', ':']) : outside.step c = some outside :=
    step_of_mem rfl hc
  induction h generalizing p rest with
  | @scalar cs hne hcs =>
    obtain ⟨c, cs, rfl⟩ := List.exists_cons_of_ne_nil hne
    obtain ⟨hc, hcs⟩ := List.forall_mem_cons.1 hcs
    rw [List.cons_append, scan_cons (step_scalar hp hc), scan_scalar hcs]
  | string hs => simpa using scan_quoted hp hs rest
  | @noItems a ha =>
    have hblanks := scan_blanks (p := outside) rfl ha (']' :: rest)
    simp [scan_cons (step_of_mem hp (c := '[') (by decide)), hblanks,
      scan_cons (hclose (c := ']') (by decide))]
  | @array cs _ ih =>
    have hitems := ih (p := outside) rfl (']' :: rest)
    simp [scan_cons (step_of_mem hp (c := '[') (by decide)), hitems,
      scan_cons (hclose (c := ']') (by decide))]
  | @noMembers a ha =>
    have hblanks := scan_blanks (p := key) rfl ha ('\x7d' :: rest)
    have hend : key.step '\x7d' = some outside := rfl
    simp [scan_cons (step_opening hp (c := '\x7b') (.inl rfl)), hblanks, scan_cons hend]
  | @object cs _ ih =>
    have hmembers := ih (p := key) rfl ('\x7d' :: rest)
    simp [scan_cons (step_opening hp (c := '\x7b') (.inl rfl)), hmembers,
      scan_cons (hclose (c := '\x7d') (by decide))]
  | @spaced a cs b ha _ hb ih =>
    have hvalue := ih hp (b ++ rest)
    simp [scan_blanks hp ha, hvalue, scan_blanks (p := outside) rfl hb]
  | item _ ih => exact ih hp rest
  | @member a name b cs ha hname hb _ ih =>
    have hvalue := ih (p := outside) rfl rest
    have hscan := scan_name hp ha hname hb (cs ++ rest)
    simpa [hvalue] using hscan
  | @next part cs ds _ _ _ ih ih' =>
    have hfirst := ih hp (',' :: (ds ++ rest))
    have hcomma : outside.step ',' = some key := rfl
    simp [hfirst, scan_cons hcomma, ih' (p := key) rfl]

/-- Where the member stands, a key may be next. -/
theorem Around.scan_eq (h : Around part before after) {p : Place} (hp : p.isFree = true)
    (hpart : part = .members → p = .key) (rest : List Char) :
    p.scan (before ++ rest) = key.scan rest := by
  induction h generalizing p rest with
  | here ha _ =>
    obtain rfl := hpart rfl
    exact scan_blanks rfl ha rest
  | @object before after _ ih =>
    have hinner := ih (p := key) rfl (fun _ => rfl) rest
    rw [List.cons_append, scan_cons (step_opening hp (.inl rfl)), hinner]
  | @array before after _ ih =>
    have hinner := ih (p := outside) rfl (by simp) rest
    rw [List.cons_append, scan_cons (step_of_mem hp (by decide)), hinner]
  | @spaced a before after b ha _ _ ih =>
    rw [List.append_assoc, scan_blanks hp ha, ih hp (by simp)]
  | inItem _ ih => exact ih hp (by simp) rest
  | @inMember a name b before after ha hname hb _ ih =>
    have hinner := ih (p := outside) rfl (by simp) rest
    have hscan := scan_name hp ha hname hb (before ++ rest)
    simpa [hinner] using hscan
  | @behind part cs before after _ hcs _ ih =>
    have hcomma : outside.step ',' = some key := rfl
    have hinner := ih (p := key) rfl (fun _ => rfl) rest
    simp [hcs.scan_eq hp, scan_cons hcomma, hinner]
  | ahead _ _ _ ih => exact ih hp hpart rest

/-! ## What follows a value -/

/-- Whether some characters go on as a text does behind a value: no name and no colon is next. -/
def GoesOn (cs : List Char) : Prop :=
  ∃ a rest, cs = a ++ rest ∧ AllBlank a ∧ ∀ c, rest.head? = some c → c ∈ [',', ']', '\x7d']

theorem GoesOn.append {cs : List Char} (h : GoesOn cs) {c : Char} (hc : c ∈ [',', ']', '\x7d'])
    (ds : List Char) : GoesOn (cs ++ c :: ds) := by
  obtain ⟨a, rest, rfl, ha, hrest⟩ := h
  refine ⟨a, rest ++ c :: ds, List.append_assoc _ _ _, ha, fun d hd => ?_⟩
  cases rest with
  | nil =>
    obtain rfl := Option.some.inj hd
    exact hc
  | cons r rest => exact hrest d hd

theorem Around.goesOn (h : Around part before after) : GoesOn after := by
  induction h with
  | @here a b _ hb => exact ⟨b, [], (List.append_nil b).symm, hb, by simp⟩
  | object _ ih => exact ih.append (by decide) []
  | array _ ih => exact ih.append (by decide) []
  | @spaced a before after b _ _ hb ih =>
    obtain ⟨c, rest, rfl, hc, hrest⟩ := ih
    cases rest with
    | nil =>
      refine ⟨c ++ b, [], by simp, ?_, by simp⟩
      exact List.forall_mem_append.2 ⟨hc, hb⟩
    | cons r rest => exact ⟨c, r :: rest ++ b, by simp, hc, hrest⟩
  | inItem _ ih => exact ih
  | inMember _ _ _ _ ih => exact ih
  | behind _ _ _ ih => exact ih
  | ahead _ _ _ ih => exact ih.append (by decide) _

end AwsCredentials.Redaction
