import AwsCredentials.Proofs.Task.Twin
import AwsCredentials.CredentialChain

/-!
# Secrets of the environment

Environments that differ at most in their secrets are twins. They hold key pairs that are twins
(`findKeys`), and they expand a path alike unless it asks for a secret (`Path.expand_of_plain`):
`Expansion.names` are the variables that the placeholders of a path look up, and a text in which the
name of a variable does not occur does not look it up (`Path.plain_of_not_infix`).
-/

namespace AwsCredentials

/-- Two credentials that differ at most in their secrets. -/
def Credentials.Twin (c c' : Credentials) : Prop :=
  ∃ secret token, c' = { c with secretAccessKey := secret, sessionToken := token }

theorem Credentials.Twin.origin {c c' : Credentials} (h : c.Twin c') : c'.origin = c.origin := by
  obtain ⟨secret, token, rfl⟩ := h
  rfl

namespace Environment

/-- The variables whose values are secret. -/
def secretNames : List String := ["AWS_SECRET_ACCESS_KEY", "AWS_SESSION_TOKEN"]

/-- Two environments that differ at most in their secrets. A secret that is set in one of them is set
in the other one. -/
structure Twin (env env' : Environment) : Prop where
  home : env'.home = env.home
  get? : ∀ key, key ∉ secretNames → env'.get? key = env.get? key
  isSome : ∀ key, (env'.get? key).isSome = (env.get? key).isSome

namespace Twin

variable {env env' : Environment}

theorem first? (h : env.Twin env') {keys : List String} (hkeys : ∀ key ∈ keys, key ∉ secretNames) :
    env'.first? keys = env.first? keys := by
  unfold Environment.first?
  induction keys with
  | nil => rfl
  | cons key rest ih =>
    rw [List.forall_mem_cons] at hkeys
    rw [List.findSome?_cons, List.findSome?_cons, h.get? key hkeys.1, ih hkeys.2]

theorem settingsFile? (h : env.Twin env') {key : String} (hkey : key ∉ secretNames) (name : String) :
    env'.settingsFile? key name = env.settingsFile? key name := by
  rw [Environment.settingsFile?, Environment.settingsFile?, h.get? key hkey, h.home]

theorem hasHalfKeys (h : env.Twin env') : env'.hasHalfKeys = env.hasHalfKeys := by
  rw [Environment.hasHalfKeys, Environment.hasHalfKeys, h.isSome, h.isSome]

theorem keys? (h : env.Twin env') : Option.Rel Credentials.Twin env.keys? env'.keys? := by
  unfold Environment.keys?
  rw [h.get? "AWS_ACCESS_KEY_ID" (by decide)]
  have hsecret := h.isSome "AWS_SECRET_ACCESS_KEY"
  cases env.get? "AWS_ACCESS_KEY_ID" with
  | none => exact .none
  | some accessKey =>
    revert hsecret
    cases env.get? "AWS_SECRET_ACCESS_KEY" <;> cases env'.get? "AWS_SECRET_ACCESS_KEY" <;>
      intro hsecret
    · exact .none
    · cases hsecret
    · cases hsecret
    · exact .some ⟨_, _, rfl⟩

theorem findKeys {I : Interface} {L : Likeness I} (h : env.Twin env') :
    Task.Twin L (Option.Rel Credentials.Twin) env.findKeys env'.findKeys := by
  unfold Environment.findKeys
  rw [h.hasHalfKeys]
  split
  · exact .log _ (.done h.keys?)
  · exact .done h.keys?

end Twin

end Environment

namespace Expansion

/-- The variable that a placeholder between braces stands for. -/
def bracedName (inner : List Char) : String :=
  match cutDefault? inner with
  | some ([], _) => String.ofList inner
  | some (name, _) => String.ofList name
  | none => String.ofList inner

/-- The variables that are looked up when placeholders are replaced. -/
def names : List Char → List String
  | [] => []
  | '$' :: '\x7b' :: rest =>
    match _h : Text.cut? '\x7d' rest with
    | some (inner, after) => bracedName inner :: names after
    | none => names rest
  | '$' :: '$' :: rest => names rest
  | '$' :: rest =>
    let name := rest.takeWhile isNameChar
    if name.isEmpty then names rest
    else String.ofList name :: names (rest.dropWhile isNameChar)
  | _ :: rest => names rest
termination_by cs => cs.length
decreasing_by
  · have := (Text.eq_of_cut? _h).1
    simp only [this, List.length_cons, List.length_append]
    omega
  · simp only [List.length_cons]; omega
  · simp only [List.length_cons]; omega
  · simp only [List.length_cons]; omega
  · have := (List.dropWhile_suffix (l := rest) isNameChar).length_le
    simp only [List.length_cons]; omega
  · simp only [List.length_cons]; omega

variable {lookup lookup' : String → Option String}

theorem braced_congr {inner : List Char} (h : lookup' (bracedName inner) = lookup (bracedName inner)) :
    braced lookup' inner = braced lookup inner := by
  revert h
  unfold bracedName braced
  rcases cutDefault? inner with _ | ⟨_ | ⟨c, name⟩, text⟩ <;> intro h <;> simp only [h]

theorem replace_of_cut {lookup : String → Option String} {rest inner after : List Char}
    (h : Text.cut? '\x7d' rest = some (inner, after)) :
    replace lookup ('$' :: '\x7b' :: rest) = braced lookup inner ++ replace lookup after := by
  rw [replace]
  split
  · next hcut =>
    cases hcut.symm.trans h
    rfl
  · next hcut => cases hcut.symm.trans h

theorem replace_of_not_cut {lookup : String → Option String} {rest : List Char}
    (h : Text.cut? '\x7d' rest = none) :
    replace lookup ('$' :: '\x7b' :: rest) = '$' :: '\x7b' :: replace lookup rest := by
  rw [replace]
  split
  · next hcut => cases hcut.symm.trans h
  · rfl

/-- Only the variables that are looked up count. -/
theorem replace_congr {cs : List Char} (h : ∀ name ∈ names cs, lookup' name = lookup name) :
    replace lookup' cs = replace lookup cs := by
  fun_induction names cs with
  | case1 => simp only [replace]
  | case2 rest inner after hcut ih =>
    obtain ⟨hname, hafter⟩ := List.forall_mem_cons.1 h
    rw [replace_of_cut hcut, replace_of_cut hcut, braced_congr hname, ih hafter]
  | case3 rest hcut ih => rw [replace_of_not_cut hcut, replace_of_not_cut hcut, ih h]
  | case4 rest ih => rw [replace, replace, ih h]
  | case5 rest hbrace hdollar name hname ih =>
    rw [replace.eq_4 _ _ hbrace hdollar, replace.eq_4 _ _ hbrace hdollar, if_pos hname, if_pos hname,
      ih h]
  | case6 rest hbrace hdollar name hname ih =>
    obtain ⟨hlookup, hrest⟩ := List.forall_mem_cons.1 h
    rw [replace.eq_4 _ _ hbrace hdollar, replace.eq_4 _ _ hbrace hdollar, if_neg hname, if_neg hname,
      ih hrest, hlookup]
  | case7 c rest hbrace hdollar hc ih =>
    rw [replace.eq_5 _ _ _ hbrace hdollar hc, replace.eq_5 _ _ _ hbrace hdollar hc, ih h]

/-! ## Names occur in the text -/

theorem prefix_of_cutDefault? {cs name text : List Char} (h : cutDefault? cs = some (name, text)) :
    name <+: cs := by
  fun_induction cutDefault? cs generalizing name with
  | case1 rest =>
    cases h
    exact List.nil_prefix
  | case2 c rest _ ih =>
    obtain ⟨⟨name, text⟩, hrest, hp⟩ := Option.map_eq_some_iff.1 h
    cases hp
    exact List.cons_prefix_cons.2 ⟨rfl, ih hrest⟩
  | case3 => cases h

theorem isPrefix_bracedName (inner : List Char) : (bracedName inner).toList <+: inner := by
  unfold bracedName
  rcases h : cutDefault? inner with _ | ⟨_ | ⟨c, name⟩, text⟩
  · simp
  · simp
  · simpa using prefix_of_cutDefault? h

/-- A variable that is looked up is named in the text. -/
theorem infix_of_mem_names {cs : List Char} {name : String} (h : name ∈ names cs) :
    name.toList <:+: cs := by
  fun_induction names cs with
  | case1 => cases h
  | case2 rest inner after hcut ih =>
    rw [(Text.eq_of_cut? hcut).1]
    refine List.infix_cons (List.infix_cons ?_)
    obtain rfl | hafter := List.mem_cons.1 h
    · exact ((isPrefix_bracedName inner).trans (List.prefix_append _ _)).isInfix
    · exact ((ih hafter).trans (List.suffix_cons _ _).isInfix).trans (List.suffix_append _ _).isInfix
  | case3 rest hcut ih => exact List.infix_cons (List.infix_cons (ih h))
  | case4 rest ih => exact List.infix_cons (List.infix_cons (ih h))
  | case5 rest hbrace hdollar name hname ih => exact List.infix_cons (ih h)
  | case6 rest hbrace hdollar name hname ih =>
    refine List.infix_cons ?_
    obtain rfl | hrest := List.mem_cons.1 h
    · rw [String.toList_ofList]
      exact (List.takeWhile_prefix isNameChar).isInfix
    · exact (ih hrest).trans (List.dropWhile_suffix isNameChar).isInfix
  | case7 c rest hbrace hdollar hc ih => exact List.infix_cons (ih h)

end Expansion

namespace Path

/-- Whether no secret is looked up when a path is expanded. -/
def Plain (path : Path) : Prop :=
  ∀ name ∈ Expansion.names path.toList, name ∉ Environment.secretNames

/-- A path that does not mention the secret variables is plain. -/
theorem plain_of_not_infix {path : Path}
    (h : ∀ name ∈ Environment.secretNames, ¬ name.toList <:+: path.toList) : path.Plain :=
  fun name hname hsecret => h name hsecret (Expansion.infix_of_mem_names hname)

/-- Plain paths do not tell secrets. -/
theorem expand_of_plain {path : Path} (h : path.Plain) {env env' : Environment}
    (henv : env.Twin env') : path.expand env' = path.expand env := by
  have replaced : Expansion.replace env'.get? path.toList = Expansion.replace env.get? path.toList :=
    Expansion.replace_congr fun name hname => henv.get? name (h name hname)
  simp only [expand, replaced, henv.home]

end Path

end AwsCredentials
