import AwsCredentials.Text.Numeral
import AwsCredentials.Text.Quoted

/-!
# Reading quoted text

Every character of a quoted text can be read back (`readEscaped_escapeChar`), and so a quoted text
tells where it ends and what was quoted (`quoted_append_inj`).
-/

namespace AwsCredentials.Text

/-- The number that digits in base sixteen stand for. -/
def hexNumber (digits : List Char) : Nat :=
  digits.foldl (fun n c => 16 * n + (hexValue? c).getD 0) 0

theorem hexNumber_hexDigits (n : Nat) : hexNumber (hexDigits n) = n := by
  have digit : ∀ n < 16, (hexValue? (Nat.digitChar n)).getD 0 = n := by decide
  induction n using Nat.strongRecOn with
  | ind n ih =>
    rw [hexDigits, Nat.toDigits_eq_if (by decide)]
    split
    · next h => simp [hexNumber, digit n h]
    · next h =>
      have hlast := digit (n % 16) (Nat.mod_lt n (by decide))
      have hrest := ih (n / 16) (Nat.div_lt_self (by omega) (by decide))
      rw [hexNumber, List.foldl_append, List.foldl_cons, List.foldl_nil, hlast]
      rw [hexNumber, hexDigits] at hrest
      rw [hrest, Nat.div_add_mod]

theorem brace_not_mem_hexDigits (n : Nat) : '\x7d' ∉ hexDigits n := by
  have digit : ∀ n < 16, Nat.digitChar n ≠ '\x7d' := by decide
  induction n using Nat.strongRecOn with
  | ind n ih =>
    rw [hexDigits, Nat.toDigits_eq_if (by decide)]
    split
    · next h => exact fun hmem => digit n h (List.mem_singleton.1 hmem).symm
    · next h =>
      intro hmem
      obtain hrest | hlast := List.mem_append.1 hmem
      · exact ih (n / 16) (Nat.div_lt_self (by omega) (by decide)) hrest
      · exact digit (n % 16) (Nat.mod_lt n (by decide)) (List.mem_singleton.1 hlast).symm

/-- The first character that some quoted characters stand for, and those after it. -/
def readEscaped : List Char → Option (Char × List Char)
  | '\\' :: '0' :: rest => some ('\x00', rest)
  | '\\' :: 't' :: rest => some ('\t', rest)
  | '\\' :: 'r' :: rest => some ('\r', rest)
  | '\\' :: 'n' :: rest => some ('\n', rest)
  | '\\' :: 'u' :: '\x7b' :: rest =>
    some (Char.ofNat (hexNumber (rest.takeWhile (· ≠ '\x7d'))), (rest.dropWhile (· ≠ '\x7d')).tail)
  | '\\' :: c :: rest => some (c, rest)
  | '"' :: _ => none
  | c :: rest => some (c, rest)
  | [] => none

theorem readEscaped_escapeCode (c : Char) (rest : List Char) :
    readEscaped (escapeCode c ++ rest) = some (c, rest) := by
  have hdigits : ∀ d ∈ hexDigits c.toNat, (decide (d ≠ '\x7d')) = true := by
    intro d hd
    rw [decide_eq_true_eq]
    rintro rfl
    exact brace_not_mem_hexDigits c.toNat hd
  have htake : (hexDigits c.toNat ++ '\x7d' :: rest).takeWhile (· ≠ '\x7d') = hexDigits c.toNat := by
    rw [List.takeWhile_append_of_pos hdigits]
    simp
  have hdrop : (hexDigits c.toNat ++ '\x7d' :: rest).dropWhile (· ≠ '\x7d') = '\x7d' :: rest := by
    rw [List.dropWhile_append_of_pos hdigits]
    simp
  have split : escapeCode c ++ rest =
      '\\' :: 'u' :: '\x7b' :: (hexDigits c.toNat ++ '\x7d' :: rest) := by
    simp [escapeCode]
  rw [split, readEscaped, htake, hdrop, hexNumber_hexDigits, Char.ofNat_toNat, List.tail_cons]

theorem readEscaped_escapeChar (c : Char) (rest : List Char) :
    readEscaped (escapeChar '"' c ++ rest) = some (c, rest) := by
  unfold escapeChar
  split
  · next h => rw [h]; rfl
  split
  · next h => rw [h]; rfl
  split
  · next h => rw [h]; rfl
  split
  · next h => rw [h]; rfl
  split
  · next h =>
    obtain rfl | rfl := h
    · rfl
    · rfl
  split
  · exact readEscaped_escapeCode c rest
  · next h _ =>
    obtain ⟨hslash, hquote⟩ := not_or.1 h
    rw [List.singleton_append]
    simp [readEscaped, hslash]

/-- Characters in quotes tell where they end and what they are. -/
theorem escaped_cancel {cs ds u v : List Char}
    (h : cs.flatMap (escapeChar '"') ++ '"' :: u = ds.flatMap (escapeChar '"') ++ '"' :: v) :
    cs = ds ∧ u = v := by
  have stop (d : Char) (rest w : List Char) : '"' :: w ≠ escapeChar '"' d ++ rest := by
    intro heq
    have hread := readEscaped_escapeChar d rest
    rw [← heq] at hread
    cases hread
  induction cs generalizing ds with
  | nil =>
    cases ds with
    | nil => exact ⟨rfl, List.tail_eq_of_cons_eq h⟩
    | cons d ds =>
      rw [List.flatMap_cons, List.append_assoc] at h
      exact absurd h (stop _ _ _)
  | cons c cs ih =>
    cases ds with
    | nil =>
      rw [List.flatMap_cons, List.append_assoc] at h
      exact absurd h.symm (stop _ _ _)
    | cons d ds =>
      rw [List.flatMap_cons, List.flatMap_cons, List.append_assoc, List.append_assoc] at h
      have hread := congrArg readEscaped h
      rw [readEscaped_escapeChar, readEscaped_escapeChar] at hread
      obtain ⟨rfl, hrest⟩ := Prod.mk.inj (Option.some.inj hread)
      obtain ⟨rfl, rfl⟩ := ih hrest
      exact ⟨rfl, rfl⟩

/-- A quoted text tells where it ends and what was quoted. -/
theorem quoted_append_inj {s t u v : String} :
    quoted s ++ u = quoted t ++ v ↔ s = t ∧ u = v := by
  constructor
  · intro h
    have hlist := congrArg String.toList h
    simp only [quoted, String.toList_append, String.toList_ofList, List.cons_append,
      List.append_assoc, List.nil_append, List.cons.injEq, true_and] at hlist
    obtain ⟨hs, hu⟩ := escaped_cancel hlist
    exact ⟨String.toList_inj.1 hs, String.toList_inj.1 hu⟩
  · rintro ⟨rfl, rfl⟩
    rfl

end AwsCredentials.Text
