import Mathlib.Data.List.Basic
import SignedHttp.Proofs.Octets
import SignedHttp.Proofs.Token
import SignedHttp.Scheme.Legacy

/-!
# The Authorization value of the first scheme

`LegacyScheme.render` writes an id and a signature as they are, with a colon in between, and
`LegacyScheme.parse` cuts at the last colon.  So colons and blanks inside an id do no harm, and
what a reader finds is again what was written, except that blanks at the beginning of an id are
lost and an empty id is refused.

* `LegacyScheme.parse_eq_ok_iff` says what the reader accepts, and what it then gives.
* `LegacyScheme.Carriable` is what an id must satisfy in order to be read back, and
  `LegacyScheme.Trailing` what a signature must.
* `LegacyScheme.parse_render_eq` says what becomes of any id that is written with such a signature.
* `LegacyScheme.parse_render` reads both back, and `LegacyScheme.carriable_of_parse` and
  `LegacyScheme.trailing_of_parse` say that nothing else is ever read.
* `LegacyScheme.parse_render_eq_self_iff` says which parameters are read back as a whole.
-/

set_option autoImplicit false

namespace SignedHttp
namespace LegacyScheme

variable {s : LegacyScheme} {value : String} {a : Authorization}

/-! ## Reading -/

/-- What a value says once its token has been taken off. -/
theorem parse_eq_ok_iff : s.parse value = .ok a ↔
    Token.begins token value = true ∧ ∃ id signature,
      Text.cutLast ':' (Text.trim (Token.credentials value)) = some (id, signature) ∧
        id ≠ [] ∧ signature ≠ [] ∧
        a = (s.newParameters (String.ofList id) []).withSignature (String.ofList signature) := by
  rw [parse]
  cases hbegins : Token.begins token value with
  | false => simp
  | true =>
    cases hcut : Text.cutLast ':' (Text.trim (Token.credentials value)) with
    | none => simp
    | some parts =>
      obtain ⟨id, signature⟩ := parts
      cases hempty : id.isEmpty || signature.isEmpty with
      | true =>
        have hrefused : id ≠ [] → signature = [] := by
          simpa [or_iff_not_imp_left] using hempty
        simp +contextual [hempty, hrefused]
      | false =>
        have hread : id ≠ [] ∧ signature ≠ [] := by simpa using hempty
        simp [hempty, hread, newParameters, Authorization.withSignature, eq_comm]

/-- The value says nothing of header names, so they are those of the scheme. -/
theorem headers_of_parse (h : s.parse value = .ok a) : a.headers = s.headers := by
  obtain ⟨-, id, signature, -, -, -, rfl⟩ := parse_eq_ok_iff.1 h
  rfl

/-- An id that survives in an Authorization value. -/
structure Carriable (id : String) : Prop where
  /-- The id is not empty. -/
  ne : id ≠ ""
  /-- It does not begin with a blank. -/
  first : ∀ c ∈ id.toList.head?, Text.isBlank c = false

/-- **Whatever is read can be written**: no other id is ever found. -/
theorem carriable_of_parse (h : s.parse value = .ok a) : Carriable a.id := by
  obtain ⟨-, id, signature, hcut, hid, -, rfl⟩ := parse_eq_ok_iff.1 h
  obtain ⟨hcredentials, -⟩ := Text.eq_of_cutLast hcut
  have hne : String.ofList id ≠ "" := by
    rw [Ne, ← String.toList_inj, String.toList_ofList]
    exact hid
  refine ⟨hne, fun c hc => ?_⟩
  refine @Text.isBlank_of_mem_head?_trim (Token.credentials value) c ?_
  have hhead : id.head? = some c := by simpa [newParameters, Authorization.withSignature] using hc
  rw [hcredentials, List.head?_append, hhead]
  rfl

/-- A signature that survives behind the last colon. -/
structure Trailing (signature : String) : Prop where
  /-- The signature is not empty. -/
  ne : signature ≠ ""
  /-- It has no colon of its own. -/
  colon : ':' ∉ signature.toList
  /-- It does not end with a blank. -/
  last : ∀ c ∈ signature.toList.getLast?, Text.isBlank c = false

theorem trailing_of_isText {signature : String} (h : Base64.IsText signature) :
    Trailing signature where
  ne := h.ne
  colon := fun hmem => (h.written _ hmem).unspaced.1 rfl
  last := h.isBlank_of_mem_getLast?

/-- **No other signature is ever found**, either. -/
theorem trailing_of_parse (h : s.parse value = .ok a) : Trailing a.signature := by
  obtain ⟨-, id, signature, hcut, -, hsignature, rfl⟩ := parse_eq_ok_iff.1 h
  obtain ⟨hcredentials, hcolon⟩ := Text.eq_of_cutLast hcut
  have htoList : ((s.newParameters (String.ofList id) []).withSignature
      (String.ofList signature)).signature.toList = signature := String.toList_ofList
  refine ⟨?_, by rwa [htoList], fun c hc => ?_⟩
  · rwa [Ne, ← String.toList_inj, htoList]
  · rw [htoList] at hc
    refine @Text.isBlank_of_mem_getLast?_trimEnd (Text.trimStart (Token.credentials value)) c ?_
    rw [← Text.trim, hcredentials, List.append_cons, List.getLast?_append_of_ne_nil _ hsignature]
    exact hc

/-! ## Reading what was written -/

theorem toList_render (a : Authorization) :
    (render a).toList = token.toList ++ ' ' :: (a.id.toList ++ ':' :: a.signature.toList) := by
  rw [render, String.toList_append, String.toList_append, String.toList_append,
    String.toList_append, show " ".toList = [' '] from rfl, show ":".toList = [':'] from rfl]
  simp only [List.append_assoc, List.cons_append, List.nil_append]

/-- The written value begins with the token and ends with the signature. -/
theorem trim_render (hsignature : Trailing a.signature) :
    Text.trim (render a).toList =
      token.toList ++ ' ' :: (a.id.toList ++ ':' :: a.signature.toList) := by
  have hsplit : token.toList ++ ' ' :: (a.id.toList ++ ':' :: a.signature.toList) =
      (token.toList ++ ' ' :: a.id.toList ++ [':']) ++ a.signature.toList := by
    simp only [List.append_assoc, List.cons_append, List.nil_append]
  rw [toList_render]
  refine Text.trim_eq_self (fun c hc => ?_) ?_
  · obtain rfl : 'A' = c := by simpa [token] using hc
    decide
  · rw [hsplit, List.getLast?_append_of_ne_nil _ (by simpa using hsignature.ne)]
    exact hsignature.last

theorem begins_render (hsignature : Trailing a.signature) :
    Token.begins token (render a) = true := by
  have hfirst := Token.first_eq (trim_render hsignature) (by decide)
  rw [Token.begins, hfirst, String.ofList_toList, beq_self_eq_true, Bool.and_true,
    Bool.not_eq_true', String.isEmpty_eq_false_iff, Ne, ← String.toList_inj, toList_render]
  simp

/-- The blanks at the beginning of the id are trimmed away with those that follow the token. -/
theorem trim_credentials_render (hsignature : Trailing a.signature) :
    Text.trim (Token.credentials (render a)) =
      Text.trimStart a.id.toList ++ ':' :: a.signature.toList := by
  rw [Token.credentials_eq (trim_render hsignature) (by decide), Text.trim,
    Text.trimStart_append_cons (by decide)]
  refine Text.trimEnd_eq_self ?_
  rw [List.append_cons, List.getLast?_append_of_ne_nil _ (by simpa using hsignature.ne)]
  exact hsignature.last

/-- **What becomes of an id**: it loses the blanks that it begins with, and is refused if nothing is
left of it. -/
theorem parse_render_eq (hsignature : Trailing a.signature) :
    s.parse (render a) =
      if Text.trimStart a.id.toList = [] then .error .malformedLegacy
      else .ok ((s.newParameters (String.ofList (Text.trimStart a.id.toList)) []).withSignature
        a.signature) := by
  have hcut : Text.cutLast ':' (Text.trim (Token.credentials (render a))) =
      some (Text.trimStart a.id.toList, a.signature.toList) := by
    rw [trim_credentials_render hsignature, Text.cutLast_append hsignature.colon]
  have hne : a.signature.toList ≠ [] := by simpa using hsignature.ne
  split
  · next hblank =>
    rw [parse, begins_render hsignature, hcut, hblank]
    rfl
  · next hid =>
    refine parse_eq_ok_iff.2 ⟨begins_render hsignature, _, _, hcut, hid, hne, ?_⟩
    rw [String.ofList_toList]

/-- **A carriable id is read back**, together with the signature. -/
theorem parse_render (hid : Carriable a.id) (hsignature : Trailing a.signature) :
    s.parse (render a) = .ok ((s.newParameters a.id []).withSignature a.signature) := by
  have htrimmed : Text.trimStart a.id.toList = a.id.toList := Text.dropWhile_eq_self hid.first
  rw [parse_render_eq hsignature, htrimmed, if_neg (by simpa using hid.ne), String.ofList_toList]

/-- The parameters that the written value gives back. -/
structure Readable (s : LegacyScheme) (a : Authorization) : Prop where
  id : Carriable a.id
  signature : Trailing a.signature
  /-- The first scheme has no realm, no nonce and no version. -/
  realm : a.realm = ""
  nonce : a.nonce = ""
  version : a.version = ""
  /-- The header names are those of the scheme. -/
  headers : a.headers = s.headers

/-- **The parameters that the Authorization value carries are exactly the readable ones.**  An id
may have colons and blanks in it, and blanks at its end. -/
theorem parse_render_eq_self_iff : s.parse (render a) = .ok a ↔ Readable s a := by
  constructor
  · intro h
    have hid := carriable_of_parse h
    have hsignature := trailing_of_parse h
    obtain ⟨-, id, signature, -, -, -, ha⟩ := parse_eq_ok_iff.1 h
    exact {
      id := hid
      signature := hsignature
      realm := congrArg Authorization.realm ha
      nonce := congrArg Authorization.nonce ha
      version := congrArg Authorization.version ha
      headers := congrArg Authorization.headers ha }
  · intro h
    have hread := parse_render (s := s) h.id h.signature
    obtain ⟨id, realm, nonce, version, headers, signature⟩ := a
    obtain rfl : realm = "" := h.realm
    obtain rfl : nonce = "" := h.nonce
    obtain rfl : version = "" := h.version
    obtain rfl : headers = s.headers := h.headers
    exact hread

end LegacyScheme
end SignedHttp
