import AwsCredentials.Ini.Cursor

/-!
# Reading a settings file

`Document.read` reads the sections of a text. A line starts with a section header in brackets, a
comment after `;` or `#`, or a key; after `=` or `:` the value runs to the end of the line. A part
of a value in quotes is taken as it stands, and a backslash starts an escape anywhere but in a
comment. A key may run over several lines.
-/

namespace AwsCredentials.Ini

open Cursor (ending)

/-- What was read so far: the finished sections, last first, the section being read with its
entries, last first, and the key that waits for its value. -/
structure Progress where
  finished : List Section
  name : Option String
  entries : List (String × String)
  key : List Char

namespace Progress

def start : Progress := ⟨[], none, [], []⟩

/-- A new section begins. -/
def enter (p : Progress) (name : List Char) : Progress :=
  { p with
    finished := ⟨p.name, p.entries.reverse⟩ :: p.finished
    name := some (String.ofList (Text.trimChars name))
    entries := [] }

def withKey (p : Progress) (key : List Char) : Progress :=
  { p with key := Text.trimChars key }

/-- The waiting key gets its value. -/
def assign (p : Progress) (value : List Char) : Progress :=
  { p with entries := (String.ofList p.key, String.ofList value) :: p.entries, key := [] }

def document (p : Progress) : Document :=
  (⟨p.name, p.entries.reverse⟩ :: p.finished).reverse

end Progress

/-- The blanks within a line. -/
def isInlineBlank (c : Char) : Bool :=
  Text.isBlank c && c != '\n' && c != '\r'

/-- The rest of a value: quoted parts up to a first part without quotes, which ends the line. The
blanks before that part belong to the value only behind a quoted one. -/
def valueParts (first : Bool) (c : Cursor) : Except (Cursor × Fault) (List Char × Cursor) :=
  match _h : c.rest.head? with
  | none => .ok ([], c)
  | some x =>
    if x = '"' ∨ x = '\'' then
      match _hq : c.next.upTo [some x] with
      | .error e => .error e
      | .ok (part, after) => (valueParts false after.next).map fun r => (part ++ r.1, r.2)
    else
      (c.upTo [some '\n', some '\r', none]).map fun r =>
        (if first then Text.trimChars r.1 else Text.trimEndChars r.1, r.2)
termination_by c.rest.length
decreasing_by
  have h1 := Cursor.length_upTo_le [some x] c.next
  have h2 := Cursor.length_next_lt _h
  have h3 := Cursor.length_next after
  simp only [_hq, Cursor.ending_ok] at h1
  omega

theorem length_valueParts_le (first : Bool) (c : Cursor) :
    (ending (valueParts first c)).rest.length ≤ c.rest.length := by
  fun_induction valueParts first c with
  | case1 => simp
  | case2 first c x hc hx e hq =>
    have h1 := Cursor.length_upTo_le [some x] c.next
    rw [hq] at h1
    exact Nat.le_trans h1 (Nat.le_of_lt (Cursor.length_next_lt hc))
  | case3 first c x hc hx part after hq ih =>
    have h1 := Cursor.length_upTo_le [some x] c.next
    have h2 := Cursor.length_next_lt hc
    have h3 := Cursor.length_next after
    simp only [hq, Cursor.ending_ok] at h1
    rw [Cursor.ending_map (fun text => part ++ text)]
    omega
  | case4 first c x hc hx =>
    rw [Cursor.ending_map fun text => if first then Text.trimChars text else Text.trimEndChars text]
    exact Cursor.length_upTo_le _ c

/-- The value after the delimiter at the cursor. -/
def value (c : Cursor) : Except (Cursor × Fault) (List Char × Cursor) :=
  valueParts true (c.next.skipWhile isInlineBlank)

/-- The name in the section header that starts at the cursor. -/
def header (c : Cursor) : Except (Cursor × Fault) (List Char × Cursor) :=
  (c.next.upTo [some ']']).map fun r => (r.1, r.2.next)

/-- The key that starts at the cursor. -/
def key (c : Cursor) : Except (Cursor × Fault) (List Char × Cursor) :=
  c.upTo [some '=', some ':']

/-- Reads an indented part of a text. A key that is not finished is no fault here. -/
def readIndented (p : Progress) (c : Cursor) : Except (Cursor × Fault) (Progress × Cursor) :=
  let inner := c.skipWhile fun x => x == ' ' || x == '\t'
  match inner.rest.head? with
  | some '[' => (header inner).map fun r => (p.enter r.1, r.2.skipBlanks)
  | some '\n' => .ok (p, inner.next)
  | some '\r' => .ok (p, inner.next)
  | _ =>
    match key inner with
    | .ok (name, after) => .ok (p.withKey name, after.skipBlanks)
    | .error (after, _) => .ok (p, after.skipBlanks)

/-- Reads the next part of a text, which starts with `x`: a comment, a section header, a value, a
key or a blank. -/
def readPart (p : Progress) (c : Cursor) (x : Char) : Except (Cursor × Fault) (Progress × Cursor) :=
  if x = ';' ∨ x = '#' then
    if 1 < c.position.column then c.fail .inlineComment
    else .ok (p, (c.skipWhile (· != '\n')).next.skipBlanks)
  else if x = '[' then (header c).map fun r => (p.enter r.1, r.2.skipBlanks)
  else if x = '=' ∨ x = ':' then
    if p.key.isEmpty then c.fail .missingKey
    else (value c).map fun r => (p.assign r.1, r.2.skipBlanks)
  else if x = ' ' ∨ x = '\t' then readIndented p c
  else if x = '\n' ∨ x = '\r' then .ok (p, c.next.skipBlanks)
  else (key c).map fun r => (p.withKey r.1, r.2.skipBlanks)

theorem length_value_lt {c : Cursor} {x : Char} (h : c.rest.head? = some x) :
    (ending (value c)).rest.length < c.rest.length :=
  Nat.lt_of_le_of_lt
    (Nat.le_trans (length_valueParts_le true _) (Cursor.length_skipWhile_le _ c.next))
    (Cursor.length_next_lt h)

theorem length_header_lt {c : Cursor} {x : Char} (h : c.rest.head? = some x) :
    (ending (header c)).rest.length < c.rest.length := by
  have h1 := Cursor.length_upTo_le [some ']'] c.next
  have h2 := Cursor.length_next_lt h
  unfold header
  cases hr : c.next.upTo [some ']'] with
  | error e => rw [hr] at h1; exact Nat.lt_of_le_of_lt h1 h2
  | ok r =>
    simp only [hr, Cursor.ending_ok] at h1
    have h3 := Cursor.length_next r.2
    simp only [Except.map, Cursor.ending_ok]
    omega

private theorem ending_map_skipBlanks {α β : Type} (f : α → β)
    (r : Except (Cursor × Fault) (α × Cursor)) :
    (ending (r.map fun r => (f r.1, r.2.skipBlanks))).rest.length ≤ (ending r).rest.length := by
  cases r with
  | error e => exact Nat.le_refl _
  | ok r => exact Cursor.length_skipBlanks_le r.2

theorem length_readIndented_lt {p : Progress} {c : Cursor} {x : Char}
    (h : c.rest.head? = some x) (hx : x = ' ' ∨ x = '\t') :
    (ending (readIndented p c)).rest.length < c.rest.length := by
  have hi : (c.skipWhile fun x => x == ' ' || x == '\t').rest.length < c.rest.length :=
    Cursor.length_skipWhile_lt h (by simpa using hx)
  unfold readIndented
  generalize (c.skipWhile fun x => x == ' ' || x == '\t') = inner at hi
  dsimp only
  have hn := Cursor.length_next inner
  split
  · next hb =>
    have := length_header_lt hb
    have := ending_map_skipBlanks (fun name => p.enter name) (header inner)
    omega
  · simp only [Cursor.ending_ok]; omega
  · simp only [Cursor.ending_ok]; omega
  · have hk := Cursor.length_upTo_le [some '=', some ':'] inner
    unfold key
    split
    · next name after he =>
      simp only [he, Cursor.ending_ok] at hk
      exact Nat.lt_of_le_of_lt (Nat.le_trans (Cursor.length_skipBlanks_le after) hk) hi
    · next after _ he =>
      rw [he] at hk
      exact Nat.lt_of_le_of_lt (Nat.le_trans (Cursor.length_skipBlanks_le after) hk) hi

theorem length_readPart_lt {p : Progress} {c : Cursor} {x : Char} (h : c.rest.head? = some x)
    {r : Progress × Cursor} (hr : readPart p c x = .ok r) : r.2.rest.length < c.rest.length := by
  have hn := Cursor.length_next_lt h
  have hlt : (ending (readPart p c x)).rest.length < c.rest.length := by
    unfold readPart at hr ⊢
    split
    · next hx =>
      split
      · next hc => rw [if_pos hx, if_pos hc] at hr; simp [Cursor.fail] at hr
      · have h1 := Cursor.length_skipWhile_le (· != '\n') c
        have h2 := Cursor.length_next (c.skipWhile (· != '\n'))
        have h3 := Cursor.length_skipBlanks_le (c.skipWhile (· != '\n')).next
        simp only [Cursor.ending_ok]
        omega
    · split
      · exact Nat.lt_of_le_of_lt (ending_map_skipBlanks (fun name => p.enter name) (header c))
          (length_header_lt h)
      · split
        · next h1 h2 h3 =>
          split
          · next hk =>
            rw [if_neg h1, if_neg h2, if_pos h3, if_pos hk] at hr
            simp [Cursor.fail] at hr
          · exact Nat.lt_of_le_of_lt (ending_map_skipBlanks (fun v => p.assign v) (value c))
              (length_value_lt h)
        · next hd =>
          split
          · next hx => exact length_readIndented_lt h hx
          · split
            · exact Nat.lt_of_le_of_lt (Cursor.length_skipBlanks_le c.next) hn
            · exact Nat.lt_of_le_of_lt (ending_map_skipBlanks (fun k => p.withKey k) (key c))
                (Cursor.length_upTo_lt h (by simpa using hd))
  rw [hr] at hlt
  exact hlt

/-- Reads the rest of a text. -/
def readAll (p : Progress) (c : Cursor) : Except SyntaxError Document :=
  match _h : c.rest.head? with
  | none => .ok p.document
  | some x =>
    match _hr : readPart p c x with
    | .ok (p', c') => readAll p' c'
    | .error (c', fault) => .error ⟨c'.position, fault⟩
termination_by c.rest.length
decreasing_by exact length_readPart_lt _h _hr

/-- The sections of a text. -/
def Document.read (text : String) : Except SyntaxError Document :=
  readAll Progress.start (Cursor.start text.toList)

end AwsCredentials.Ini
