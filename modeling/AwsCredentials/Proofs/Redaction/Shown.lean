import AwsCredentials.Http.Traffic
import AwsCredentials.Proofs.Redaction.Authorization
import AwsCredentials.Proofs.Redaction.Field

/-!
# What is shown of a message

Messages that differ at most in their secrets look the same: `SameButSecrets` says it of a text,
`SameButSecret` of a header and `Body.Same` of a body, and `shown_eq_of_same` puts them together for
requests and responses.
-/

namespace AwsCredentials

open Text
open Authorization (IsRun isHexChar)

namespace Redaction

/-! ## Texts -/

/-- Two texts that differ at most in secret elements and form fields, changed one after another. -/
inductive SameButSecrets : String → String → Prop
  | elements {s t : String} : SameButElements s.toList t.toList → SameButSecrets s t
  | fields {s t : String} : SameButFields true s.toList t.toList → SameButSecrets s t
  | trans {s t u : String} : SameButSecrets s t → SameButSecrets t u → SameButSecrets s u

/-- The secrets of a text are not shown. -/
theorem SameButSecrets.redacted {s t : String} (h : SameButSecrets s t) :
    redacted s = redacted t := by
  induction h with
  | elements h =>
    rw [Redaction.redacted, Redaction.redacted, redactSecrets, redactSecrets, h.replaceAll_element]
  | fields h =>
    have same := h.redactSecrets [] fun _ => .inl rfl
    rw [List.nil_append, List.nil_append] at same
    rw [Redaction.redacted, Redaction.redacted, same]
  | trans _ _ ih ih' => exact ih.trans ih'

/-! ## Headers -/

/-- Two headers with the same name that differ at most in a session token or in the digits of a
signature at the end of an `Authorization` value. -/
inductive SameButSecret : String × String → String × String → Prop
  | same {header : String × String} : SameButSecret header header
  | token {name value value' : String} : sameIgnoringCase name "x-amz-security-token" = true →
    SameButSecret (name, value) (name, value')
  | signature {name value value' : String} {before signature signature' after : List Char} :
    sameIgnoringCase name "authorization" = true → IsRun isHexChar signature →
    IsRun isHexChar signature' → (∀ c ∈ after, isBlank c = true) →
    value.toList = before ++ signature ++ after → value'.toList = before ++ signature' ++ after →
    SameButSecret (name, value) (name, value')

theorem not_both_names {name : String} (h : sameIgnoringCase name "x-amz-security-token" = true) :
    sameIgnoringCase name "authorization" = false := by
  simp only [sameIgnoringCase, beq_iff_eq] at h
  simp only [sameIgnoringCase, h]
  decide

theorem SameButSecret.header? {h h' : String × String} (same : SameButSecret h h') :
    h'.1 = h.1 ∧ header? h.1 h.2 = header? h'.1 h'.2 := by
  cases same with
  | same => exact ⟨rfl, rfl⟩
  | token hname =>
    refine ⟨rfl, ?_⟩
    simp only [Redaction.header?, not_both_names hname, hname, if_true, Bool.false_eq_true, if_false]
  | signature hname hrun hrun' hafter hvalue hvalue' =>
    refine ⟨rfl, ?_⟩
    simp only [Redaction.header?, hname, if_true]
    exact authorization?_signature hrun hrun' hafter hvalue hvalue'

/-- The secrets of headers are not shown. -/
theorem headers_eq_of_same {hs hs' : Headers} (h : List.Forall₂ SameButSecret hs hs') :
    headers hs = headers hs' := by
  induction h with
  | nil => rfl
  | cons same _ ih =>
    obtain ⟨hname, hvalue⟩ := same.header?
    simp only [headers, List.filterMap_cons, hname, hvalue] at ih ⊢
    rw [ih]

end Redaction

/-! ## Messages -/

open Redaction

/-- Two bodies that differ at most in the secrets of their text. -/
inductive Body.Same : Option Body → Option Body → Prop
  | same {body : Option Body} : Same body body
  | text {s s' : String} : SameButSecrets s s' → Same (some (.text s)) (some (.text s'))

theorem Body.Same.shown {body body' : Option Body} (h : Same body body') :
    body.map Body.shown = body'.map Body.shown := by
  cases h with
  | same => rfl
  | text h => exact congrArg some h.redacted

/-- Requests, and likewise responses, that differ at most in their secrets are shown alike. -/
theorem shown_eq_of_same {uri uri' : String} {hs hs' : Headers} {body body' : Option Body}
    (huri : SameButSecrets uri uri') (hheaders : List.Forall₂ SameButSecret hs hs')
    (hbody : Body.Same body body') :
    (∀ method, ShownRequest.ofParts method uri hs body =
      ShownRequest.ofParts method uri' hs' body') ∧
    ∀ status duration, ShownResponse.ofParts status hs body duration =
      ShownResponse.ofParts status hs' body' duration := by
  have hshown := headers_eq_of_same hheaders
  refine ⟨fun method => ?_, fun status duration => ?_⟩
  · rw [ShownRequest.ofParts, ShownRequest.ofParts, huri.redacted, hshown, hbody.shown]
  · rw [ShownResponse.ofParts, ShownResponse.ofParts, hshown, hbody.shown]

/-- A session token in the address and in a header, a signature, and a key in the body: none of them
is shown. -/
theorem request_hides_secrets :
    let uri (token : String) := "/?Action=GetUser&X-Amz-Security-Token=" ++ token
    let headers (token signature : String) : Headers :=
      [("Host", "iam.amazonaws.com"), ("x-amz-security-TOKEN", token),
        ("Authorization", "AWS4-HMAC-SHA256 Credential=AKIA/iam, SignedHeaders=host, Signature="
          ++ signature)]
    let body (key : String) : Option Body :=
      some (.text ("<Key><SecretAccessKey>" ++ key ++ "</SecretAccessKey></Key>"))
    ShownRequest.ofParts "GET" (uri "abc") (headers "abc" "0a") (body "key") =
      ShownRequest.ofParts "GET" (uri "d/=") (headers "d/=" "f") (body "another") := by
  intro uri headers body
  have huri : SameButSecrets (uri "abc") (uri "d/=") := by
    have split (token : String) : (uri token).toList = "/?Action=GetUser".toList ++
        '&' :: (formField "X-Amz-Security-Token" token.toList ++ []) := by
      simp [uri, formField]
    refine .fields ?_
    rw [split, split]
    refine SameButFields.after (.field (by decide) ?_ ?_ ?_ .nil) rfl _
    · exact isValue_of_all (by decide)
    · exact isValue_of_all (by decide)
    · intro c hc
      simp at hc
  have hheaders : List.Forall₂ SameButSecret (headers "abc" "0a") (headers "d/=" "f") := by
    have split (digits : String) :
        ("AWS4-HMAC-SHA256 Credential=AKIA/iam, SignedHeaders=host, Signature=" ++ digits).toList =
          "AWS4-HMAC-SHA256 Credential=AKIA/iam, SignedHeaders=host, Signature=".toList ++
            digits.toList ++ [] := by
      rw [String.toList_append, List.append_nil]
    refine .cons .same (.cons (.token (by decide)) (.cons ?_ .nil))
    refine .signature (by decide) ⟨?_, ?_⟩ ⟨?_, ?_⟩ ?_ (split "0a") (split "f")
    · decide
    · exact List.all_eq_true.1 (by decide)
    · decide
    · exact List.all_eq_true.1 (by decide)
    · simp
  have hbody : Body.Same (body "key") (body "another") := by
    have split (key : String) :
        ("<Key><SecretAccessKey>" ++ key ++ "</SecretAccessKey></Key>").toList =
          "<Key>".toList ++ tagged "SecretAccessKey" key.toList ++ "</Key>".toList := by
      simp [tagged, openingTag]
    refine .text (.elements ?_)
    rw [split, split]
    refine .next ?_ (by decide) (by decide) (by decide) (.last ?_)
    · unfold NoOpeningTag; decide +kernel
    · unfold NoOpeningTag; decide +kernel
  exact (shown_eq_of_same huri hheaders hbody).1 "GET"

end AwsCredentials
