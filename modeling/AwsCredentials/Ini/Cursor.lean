import AwsCredentials.Ini.Document
import AwsCredentials.Text.Blank
import AwsCredentials.Text.Numeral

/-!
# Reading a settings file character by character

A cursor holds the characters not yet read and the position of the first of them. A line break
counts as the start of the line after it. `Cursor.upTo` reads a text up to one of some characters
and resolves the escapes in it.
-/

namespace AwsCredentials.Ini

/-- The position of a character that follows the one at this position. -/
def Position.enter (p : Position) : Option Char → Position
  | some c => if c = '\n' then ⟨p.line + 1, 0⟩ else ⟨p.line, p.column + 1⟩
  | none => p

/-- The characters not yet read and the position of the first. -/
structure Cursor where
  rest : List Char
  position : Position
  deriving Inhabited

namespace Cursor

/-- The start of a text. -/
def start (text : List Char) : Cursor :=
  ⟨text, Position.enter ⟨0, 0⟩ text.head?⟩

/-- The cursor behind the first character. -/
def next (c : Cursor) : Cursor :=
  ⟨c.rest.tail, c.position.enter c.rest.tail.head?⟩

/-- A fault at the first character. -/
def fail {α : Type} (c : Cursor) (fault : Fault) : Except (Cursor × Fault) α :=
  .error (c, fault)

/-- The cursor that a step of reading leaves, whether it succeeds or stops at a fault. -/
def ending {α : Type} : Except (Cursor × Fault) (α × Cursor) → Cursor
  | .ok r => r.2
  | .error e => e.1

@[simp] theorem ending_ok {α : Type} (r : α × Cursor) : ending (.ok r) = r.2 := rfl

@[simp] theorem ending_fail {α : Type} (c : Cursor) (fault : Fault) :
    ending (c.fail fault : Except _ (α × Cursor)) = c := rfl

@[simp] theorem ending_map {α β : Type} (f : α → β) (x : Except (Cursor × Fault) (α × Cursor)) :
    ending (x.map fun r => (f r.1, r.2)) = ending x := by
  cases x <;> rfl

theorem length_next (c : Cursor) : c.next.rest.length = c.rest.length - 1 := by
  simp [next]

theorem length_next_lt {c : Cursor} {x : Char} (h : c.rest.head? = some x) :
    c.next.rest.length < c.rest.length := by
  cases hc : c.rest with
  | nil => simp [hc] at h
  | cons a l => simp [next, hc]

/-- The cursor at the first character that fails the test. -/
def skipWhile (p : Char → Bool) (c : Cursor) : Cursor :=
  match _h : c.rest.head? with
  | some x => if p x then skipWhile p c.next else c
  | none => c
termination_by c.rest.length
decreasing_by exact length_next_lt _h

theorem length_skipWhile_le (p : Char → Bool) (c : Cursor) :
    (c.skipWhile p).rest.length ≤ c.rest.length := by
  fun_induction skipWhile p c with
  | case1 c x h hp ih => exact Nat.le_trans ih (Nat.le_of_lt (length_next_lt h))
  | case2 => exact Nat.le_refl _
  | case3 => exact Nat.le_refl _

theorem length_skipWhile_lt {p : Char → Bool} {c : Cursor} {x : Char} (h : c.rest.head? = some x)
    (hp : p x = true) : (c.skipWhile p).rest.length < c.rest.length := by
  rw [skipWhile]
  split
  · next y hy =>
    obtain rfl : x = y := Option.some.inj (h.symm.trans hy)
    rw [if_pos hp]
    exact Nat.lt_of_le_of_lt (length_skipWhile_le p c.next) (length_next_lt h)
  · next hy => simp [h] at hy

/-- Behind the blanks, except that the blanks that indent a line stay. -/
def skipBlanks (c : Cursor) : Cursor :=
  match _h : c.rest.head? with
  | some x =>
    if x = '\n' ∨ x = '\r' then
      if c.next.rest.head? = some ' ' ∨ c.next.rest.head? = some '\t' then c.next
      else skipBlanks c.next
    else if Text.isBlank x then skipBlanks c.next
    else c
  | none => c
termination_by c.rest.length
decreasing_by all_goals exact length_next_lt _h

theorem length_skipBlanks_le (c : Cursor) : c.skipBlanks.rest.length ≤ c.rest.length := by
  fun_induction skipBlanks c with
  | case1 c x h _ _ => exact Nat.le_of_lt (length_next_lt h)
  | case2 c x h _ _ ih => exact Nat.le_trans ih (Nat.le_of_lt (length_next_lt h))
  | case3 c x h _ _ ih => exact Nat.le_trans ih (Nat.le_of_lt (length_next_lt h))
  | case4 => exact Nat.le_refl _
  | case5 => exact Nat.le_refl _

/-- The character with a code of up to four hexadecimal digits, which a plus sign may precede. -/
def charOfCode? (code : List Char) : Option Char := do
  let digits := match code with
    | '+' :: digits => digits
    | digits => digits
  if digits.isEmpty then none
  let n ← digits.foldlM (fun n d => (Text.hexValue? d).map (16 * n + ·)) 0
  if n.isValidChar then some (Char.ofNat n) else none

/-- The `n` characters after the first one, and the cursor at the last of them. A backslash among
them has to stand before a line break, which is skipped. -/
def takeCode (stops : List (Option Char)) :
    Nat → Cursor → Except (Cursor × Fault) (List Char × Cursor)
  | 0, c => .ok ([], c)
  | n + 1, c =>
    match c.next.rest.head? with
    | none => c.next.fail (.endOfText stops)
    | some '\\' =>
      if c.next.next.rest.head? = some '\n' then
        (takeCode stops n c.next.next).map fun r => ('\\' :: r.1, r.2)
      else c.next.next.fail (.brokenCode c.next.next.rest.head?)
    | some x => (takeCode stops n c.next).map fun r => (x :: r.1, r.2)

theorem length_takeCode_le (stops : List (Option Char)) (n : Nat) (c : Cursor) :
    (ending (takeCode stops n c)).rest.length ≤ c.rest.length := by
  induction n generalizing c with
  | zero => simp [takeCode]
  | succ n ih =>
    have h1 := ih c.next
    have h2 := ih c.next.next
    simp only [length_next] at h1 h2
    simp only [takeCode]
    split
    · simp [length_next]
    · split
      · rw [ending_map (fun code => '\\' :: code)]; omega
      · simp only [ending_fail, length_next]; omega
    · rename_i x _ _
      rw [ending_map (fun code => x :: code)]; omega

/-- What an escape stands for, from the cursor at the character after the backslash. A line break
stands for nothing, and at the end of the text the backslash stands for itself. -/
def escape (stops : List (Option Char)) (c : Cursor) :
    Except (Cursor × Fault) (List Char × Cursor) :=
  match c.rest.head? with
  | none => .ok (['\\'], c.next)
  | some '0' => .ok (['\x00'], c.next)
  | some 'a' => .ok (['\x07'], c.next)
  | some 'b' => .ok (['\x08'], c.next)
  | some 't' => .ok (['\t'], c.next)
  | some 'r' => .ok (['\r'], c.next)
  | some 'n' => .ok (['\n'], c.next)
  | some '\n' => .ok ([], c.next)
  | some 'x' =>
    match takeCode stops 4 c with
    | .error e => .error e
    | .ok (code, last) =>
      match charOfCode? code with
      | some x => .ok ([x], last.next)
      | none => last.fail .unknownCode
  | some x => .ok ([x], c.next)

theorem length_escape_le (stops : List (Option Char)) (c : Cursor) :
    (ending (escape stops c)).rest.length ≤ c.rest.length := by
  have hn := length_next c
  unfold escape
  split
  case h_9 =>
    have hk := length_takeCode_le stops 4 c
    split
    · next e he => rw [he] at hk; exact hk
    · next code last he =>
      simp only [he, ending_ok] at hk
      have hl := length_next last
      split
      · simp only [ending_ok]; omega
      · simp only [ending_fail]; omega
  all_goals simp only [ending_ok]; omega

/-- The text up to one of the given characters, or up to the end where `none` is among them, with
its escapes resolved, and the cursor there. -/
def upTo (stops : List (Option Char)) (c : Cursor) :
    Except (Cursor × Fault) (List Char × Cursor) :=
  if c.rest.head? ∈ stops then .ok ([], c)
  else match _h : c.rest.head? with
    | none => c.fail (.endOfText stops)
    | some '\\' =>
      match _he : escape stops c.next with
      | .error e => .error e
      | .ok (part, after) => (upTo stops after).map fun r => (part ++ r.1, r.2)
    | some x => (upTo stops c.next).map fun r => (x :: r.1, r.2)
termination_by c.rest.length
decreasing_by
  · have h1 := length_escape_le stops c.next
    rw [_he, ending_ok] at h1
    exact Nat.lt_of_le_of_lt h1 (length_next_lt _h)
  · exact length_next_lt _h

theorem length_upTo_le (stops : List (Option Char)) (c : Cursor) :
    (ending (upTo stops c)).rest.length ≤ c.rest.length := by
  fun_induction upTo stops c with
  | case1 => simp
  | case2 => simp
  | case3 c _ hc e he =>
    have h1 := length_escape_le stops c.next
    rw [he] at h1
    exact Nat.le_trans h1 (Nat.le_of_lt (length_next_lt hc))
  | case4 c _ hc part after he ih =>
    have h1 := length_escape_le stops c.next
    rw [he, ending_ok] at h1
    rw [ending_map (fun text => part ++ text)]
    exact Nat.le_trans ih (Nat.le_trans h1 (Nat.le_of_lt (length_next_lt hc)))
  | case5 c _ x _ hc ih =>
    rw [ending_map (fun text => x :: text)]
    exact Nat.le_trans ih (Nat.le_of_lt (length_next_lt hc))

theorem length_upTo_lt {stops : List (Option Char)} {c : Cursor} {x : Char}
    (h : c.rest.head? = some x) (hx : some x ∉ stops) :
    (ending (upTo stops c)).rest.length < c.rest.length := by
  have hn := length_next_lt h
  rw [upTo, if_neg (by rwa [h])]
  split
  · next h' => simp [h] at h'
  · have h1 := length_escape_le stops c.next
    split
    · next e he => rw [he] at h1; exact Nat.lt_of_le_of_lt h1 hn
    · next part after he =>
      rw [he, ending_ok] at h1
      rw [ending_map (fun text => part ++ text)]
      exact Nat.lt_of_le_of_lt (Nat.le_trans (length_upTo_le stops after) h1) hn
  · next y _ _ =>
    rw [ending_map (fun text => y :: text)]
    exact Nat.lt_of_le_of_lt (length_upTo_le stops c.next) hn

end Cursor

end AwsCredentials.Ini
