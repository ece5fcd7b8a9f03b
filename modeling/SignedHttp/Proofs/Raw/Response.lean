import SignedHttp.Proofs.Raw.SignedText
import SignedHttp.Proofs.Raw.Strings
import SignedHttp.Proofs.Response

/-!
# Signed responses with lone surrogates

A response is accepted exactly when its claimed signature is the one that signing it gives, whatever
the texts hold (`Raw.Registry.verifyResponse_eq_accepted_iff`).  But not every response has a verdict:
once there is a key, the nonce and the timestamp are written in UTF-8, and the claimed signature after
them (`Raw.Registry.exists_verifyResponse_error_iff`).

* `Raw.Registry.Keyed`: there is a key, so that the signer has nothing to object to.
* `Raw.Registry.verifyResponse_cases`: the check goes on as the signer does.
* `Raw.Registry.verifyResponse_eq_rejected_iff`: the causes for which a response is rejected.
* `Raw.Registry.verifyResponse_outcome`: all the ways in which the check ends.
* `Verifier.verifyResponse_raw`: without lone surrogates there is always the verdict that there is
  among strings.
-/

set_option autoImplicit false

namespace SignedHttp
namespace Raw

open Points (ofString)

variable {s : CurrentScheme} {r : Response} {signature : Points} {a : Authorization}
  {timestamp version : Points} {value : String}

/-! ## Signing -/

theorem CurrentScheme.exists_responseText_iff :
    (∃ octets, responseText r a timestamp = .ok octets) ↔ a.nonce.IsText ∧ timestamp.IsText := by
  have hwritten : (∃ octets, (a.nonce ++ ofString "\n" ++ timestamp ++ ofString "\n").encode =
      .ok octets) ↔ a.nonce.IsText ∧ timestamp.IsText := by
    rw [Points.exists_encode_iff]
    simp only [Points.isText_append, Points.isText_ofString, and_true]
  rw [← hwritten]
  simp only [responseText, map_eq_ok_iff]
  exact ⟨fun ⟨_, octets, h, _⟩ => ⟨octets, h⟩, fun ⟨octets, h⟩ => ⟨_, octets, h, rfl⟩⟩

namespace Registry

variable {reg : Registry}

/-- The version is that of a scheme that signs responses, and the signature of the request stands for
at least one octet. -/
def Keyed (reg : Registry) (signature version : Points) : Prop :=
  ∃ s key, reg.find? version = some (.current s) ∧
    CurrentScheme.decodeStrict? signature = some key ∧ key ≠ []

theorem signResponse_of_keyed (r : Response) (a : Authorization) (timestamp : Points)
    (h : reg.Keyed signature version) :
    ∃ digest key, reg.signResponse r signature a timestamp version =
      ((CurrentScheme.responseText r a timestamp).mapError .encoding).map
        (Algorithm.macBase64 digest key) := by
  obtain ⟨s, key, hfind, hkey, hne⟩ := h
  refine ⟨s.digest, key, ?_⟩
  rw [signResponse, scheme, hfind]
  show CurrentScheme.signResponse s r signature a timestamp = _
  rw [CurrentScheme.signResponse, hkey]
  exact if_neg (by simpa using hne)

/-- **The signer objects where there is no key**, and tells the cause. -/
theorem exists_signResponse_cause_iff :
    (∃ cause, reg.signResponse r signature a timestamp version = .error (.cause cause)) ↔
      ¬reg.Keyed signature version := by
  constructor
  · rintro ⟨cause, hcause⟩ hkeyed
    obtain ⟨digest, key, hsigned⟩ := signResponse_of_keyed r a timestamp hkeyed
    rw [hsigned, map_eq_error_iff, mapError_eq_error_iff] at hcause
    obtain ⟨_, -, hcause⟩ := hcause
    exact absurd hcause (by simp)
  · intro h
    rw [signResponse, scheme]
    cases hfind : reg.find? version with
    | none => exact ⟨_, rfl⟩
    | some s =>
      cases s with
      | legacy digest => exact ⟨_, rfl⟩
      | current s =>
        show ∃ cause, CurrentScheme.signResponse s r signature a timestamp = _
        rw [CurrentScheme.signResponse]
        cases hkey : CurrentScheme.decodeStrict? signature with
        | none => exact ⟨_, rfl⟩
        | some key =>
          cases key with
          | nil => exact ⟨_, rfl⟩
          | cons b key => exact absurd ⟨s, b :: key, hfind, hkey, by simp⟩ h

/-- There is no key under an unknown version, with the first scheme, and where the signature of the
request is not in base 64 or stands for nothing. -/
theorem not_keyed_iff :
    ¬reg.Keyed signature version ↔
      reg.find? version = none ∨ (∃ digest, reg.find? version = some (.legacy digest)) ∨
        CurrentScheme.decodeStrict? signature = none ∨
        CurrentScheme.decodeStrict? signature = some [] := by
  rw [Keyed]
  cases reg.find? version with
  | none => simp
  | some s =>
    cases s with
    | legacy digest => simp
    | current s =>
      cases CurrentScheme.decodeStrict? signature with
      | none => simp
      | some key =>
        cases key with
        | nil => simp
        | cons b key => simp

theorem exists_signResponse_iff :
    (∃ value, reg.signResponse r signature a timestamp version = .ok value) ↔
      reg.Keyed signature version ∧ a.nonce.IsText ∧ timestamp.IsText := by
  by_cases h : reg.Keyed signature version
  · obtain ⟨digest, key, hsigned⟩ := signResponse_of_keyed r a timestamp h
    rw [and_iff_right h, ← CurrentScheme.exists_responseText_iff (r := r), hsigned]
    simp only [map_eq_ok_iff, mapError_eq_ok_iff]
    exact ⟨fun ⟨_, octets, hoctets, _⟩ => ⟨octets, hoctets⟩,
      fun ⟨octets, hoctets⟩ => ⟨_, octets, hoctets, rfl⟩⟩
  · obtain ⟨cause, hcause⟩ : ∃ cause, reg.signResponse r signature a timestamp version =
      .error (.cause cause) := exists_signResponse_cause_iff.2 h
    simp [hcause, h]

/-- **Behind the key only the nonce and the timestamp are in the way.** -/
theorem exists_signResponse_encoding_iff :
    (∃ e, reg.signResponse r signature a timestamp version = .error (.encoding e)) ↔
      reg.Keyed signature version ∧ ¬(a.nonce.IsText ∧ timestamp.IsText) := by
  rw [exists_encoding_iff, exists_signResponse_iff, exists_signResponse_cause_iff]
  tauto

/-! ## Verifying -/

variable {claimed : Option Points} {text : Points} {expected : String}

/-- Without a claimed signature nothing else is looked at. -/
theorem verifyResponse_of_unclaimed (hclaimed : claim r claimed = none) :
    reg.verifyResponse r signature a timestamp claimed version =
      .ok (.rejected version .unclaimed) := by
  rw [verifyResponse, checkResponse, hclaimed]

/-- With one, the check follows the signer up to the comparison. -/
theorem checkResponse_eq_bind (hclaimed : claim r claimed = some text) :
    reg.checkResponse r signature a timestamp claimed version = (do
      let expected ← (reg.signResponse r signature a timestamp version).mapError
        (.map .unsignable)
      let octets ← text.encode.mapError .encoding
      if Utf8.encode expected = octets then return else .error (.cause .mismatch)) := by
  rw [checkResponse, hclaimed, signResponse]
  cases reg.scheme version with
  | error error => rfl
  | ok s => rfl

/-- The objection of the signer is told as it is. -/
theorem verifyResponse_of_refused {cause : SigningError} (hclaimed : claim r claimed = some text)
    (hsigned : reg.signResponse r signature a timestamp version = .error (.cause cause)) :
    reg.verifyResponse r signature a timestamp claimed version =
      .ok (.rejected version (.unsignable cause)) := by
  rw [verifyResponse, checkResponse_eq_bind hclaimed, hsigned]
  rfl

/-- What the signer cannot write, the check cannot write either. -/
theorem verifyResponse_of_unwritable {e : EncodeError} (hclaimed : claim r claimed = some text)
    (hsigned : reg.signResponse r signature a timestamp version = .error (.encoding e)) :
    reg.verifyResponse r signature a timestamp claimed version = .error e := by
  rw [verifyResponse, checkResponse_eq_bind hclaimed, hsigned]
  rfl

/-- A claimed signature that cannot be written is not compared. -/
theorem verifyResponse_of_unreadable {e : EncodeError} (hclaimed : claim r claimed = some text)
    (hsigned : reg.signResponse r signature a timestamp version = .ok expected)
    (htext : text.encode = .error e) :
    reg.verifyResponse r signature a timestamp claimed version = .error e := by
  rw [verifyResponse, checkResponse_eq_bind hclaimed, hsigned, htext]
  rfl

theorem verifyResponse_of_signed {found : String} (hclaimed : claim r claimed = some (ofString found))
    (hsigned : reg.signResponse r signature a timestamp version = .ok expected) :
    reg.verifyResponse r signature a timestamp claimed version =
      .ok (if expected = found then .accepted version a.id else .rejected version .mismatch) := by
  have hcheck : reg.checkResponse r signature a timestamp claimed version =
      if Utf8.encode expected = Utf8.encode found then .ok () else .error (.cause .mismatch) := by
    rw [checkResponse_eq_bind hclaimed, hsigned, Points.encode_ofString]
    rfl
  rw [verifyResponse, hcheck]
  by_cases hmatch : expected = found
  · rw [if_pos hmatch, if_pos (congrArg Utf8.encode hmatch)]
  · rw [if_neg hmatch, if_neg fun h => hmatch (Utf8.encode_inj h)]

/-- Where there is a claimed signature, the signer decides how the check goes on. -/
theorem verifyResponse_cases (reg : Registry) (signature : Points) (a : Authorization)
    (timestamp version : Points) (hclaimed : claim r claimed = some text) :
    (∃ cause, reg.signResponse r signature a timestamp version = .error (.cause cause) ∧
      reg.verifyResponse r signature a timestamp claimed version =
        .ok (.rejected version (.unsignable cause))) ∨
    (∃ e, reg.signResponse r signature a timestamp version = .error (.encoding e) ∧
      reg.verifyResponse r signature a timestamp claimed version = .error e) ∨
    (∃ expected e, reg.signResponse r signature a timestamp version = .ok expected ∧
      ¬text.IsText ∧
      reg.verifyResponse r signature a timestamp claimed version = .error e) ∨
    ∃ expected found, reg.signResponse r signature a timestamp version = .ok expected ∧
      text = ofString found ∧
      reg.verifyResponse r signature a timestamp claimed version =
        .ok (if expected = found then .accepted version a.id
          else .rejected version .mismatch) := by
  cases hsigned : reg.signResponse r signature a timestamp version with
  | error failure =>
    cases failure with
    | cause cause => exact .inl ⟨cause, rfl, verifyResponse_of_refused hclaimed hsigned⟩
    | encoding e => exact .inr (.inl ⟨e, rfl, verifyResponse_of_unwritable hclaimed hsigned⟩)
  | ok expected =>
    cases htext : text.encode with
    | error e =>
      exact .inr (.inr (.inl ⟨expected, e, rfl, Points.not_isText_of_encode htext,
        verifyResponse_of_unreadable hclaimed hsigned htext⟩))
    | ok octets =>
      obtain ⟨found, rfl⟩ := Points.isText_iff.1 (Points.exists_encode_iff.1 ⟨octets, htext⟩)
      exact .inr (.inr (.inr ⟨expected, found, rfl, rfl,
        verifyResponse_of_signed hclaimed hsigned⟩))

/-- **There is no verdict when something that has to be written cannot be**: the nonce, the timestamp
or the claimed signature, once there is a key. -/
theorem exists_verifyResponse_error_iff :
    (∃ e, reg.verifyResponse r signature a timestamp claimed version = .error e) ↔
      ∃ text, claim r claimed = some text ∧ reg.Keyed signature version ∧
        ¬(a.nonce.IsText ∧ timestamp.IsText ∧ text.IsText) := by
  cases hclaimed : claim r claimed with
  | none => simp [verifyResponse_of_unclaimed hclaimed]
  | some text =>
    simp only [Option.some.injEq, exists_eq_left']
    rcases verifyResponse_cases reg signature a timestamp version hclaimed with
      ⟨cause, hsigned, h⟩ | ⟨e, hsigned, h⟩ | ⟨expected, e, hsigned, htext, h⟩ |
      ⟨expected, found, hsigned, rfl, h⟩
    · have hkey := exists_signResponse_cause_iff.1 ⟨cause, hsigned⟩
      simp [h, hkey]
    · obtain ⟨hkey, hwritten⟩ := exists_signResponse_encoding_iff.1 ⟨e, hsigned⟩
      simp only [h, hkey, true_and, Except.error.injEq, exists_eq', true_iff]
      exact fun ⟨hnonce, htimestamp, _⟩ => hwritten ⟨hnonce, htimestamp⟩
    · obtain ⟨hkey, -, -⟩ := exists_signResponse_iff.1 ⟨expected, hsigned⟩
      simp [h, hkey, htext]
    · obtain ⟨hkey, hnonce, htimestamp⟩ := exists_signResponse_iff.1 ⟨expected, hsigned⟩
      simp [h, hnonce, htimestamp, Points.isText_ofString]

/-- **A response is accepted exactly when its claimed signature is the one that signing it gives.** -/
theorem verifyResponse_eq_accepted_iff :
    reg.verifyResponse r signature a timestamp claimed version = .ok (.accepted version a.id) ↔
      ∃ text, claim r claimed = some (ofString text) ∧
        reg.signResponse r signature a timestamp version = .ok text := by
  cases hclaimed : claim r claimed with
  | none => simp [verifyResponse_of_unclaimed hclaimed]
  | some text =>
    rcases verifyResponse_cases reg signature a timestamp version hclaimed with
      ⟨cause, hsigned, h⟩ | ⟨e, hsigned, h⟩ | ⟨expected, e, hsigned, htext, h⟩ |
      ⟨expected, found, hsigned, rfl, h⟩
    · simp [h, hsigned]
    · simp [h, hsigned]
    · simp [h, Points.ne_ofString_of_not_isText htext]
    · by_cases hmatch : expected = found
      · simp [h, hsigned, hmatch]
      · simp [h, hsigned, hmatch, Points.ofString_inj, eq_comm (a := found)]

/-- **A response is rejected for one of three causes**, the first of these that is the case. -/
theorem verifyResponse_eq_rejected_iff {error : ResponseError} :
    reg.verifyResponse r signature a timestamp claimed version = .ok (.rejected version error) ↔
      claim r claimed = none ∧ error = .unclaimed ∨
      (∃ cause, claim r claimed ≠ none ∧
        reg.signResponse r signature a timestamp version = .error (.cause cause) ∧
        error = .unsignable cause) ∨
      ∃ text expected, claim r claimed = some (ofString text) ∧
        reg.signResponse r signature a timestamp version = .ok expected ∧ expected ≠ text ∧
        error = .mismatch := by
  cases hclaimed : claim r claimed with
  | none => simp [verifyResponse_of_unclaimed hclaimed, eq_comm (a := error)]
  | some text =>
    rcases verifyResponse_cases reg signature a timestamp version hclaimed with
      ⟨cause, hsigned, h⟩ | ⟨e, hsigned, h⟩ | ⟨expected, e, hsigned, htext, h⟩ |
      ⟨expected, found, hsigned, rfl, h⟩
    · simp [h, hsigned, eq_comm (a := error)]
    · simp [h, hsigned]
    · simp [h, hsigned, Points.ne_ofString_of_not_isText htext]
    · by_cases hmatch : expected = found
      · simp [h, hsigned, hmatch, Points.ofString_inj]
      · simp [h, hsigned, hmatch, Points.ofString_inj, eq_comm (a := error)]

theorem exists_rejected_iff {kind : ErrorKind} :
    (∃ error, reg.verifyResponse r signature a timestamp claimed version =
        .ok (.rejected version error) ∧ error.kind = kind) ↔
      claim r claimed = none ∧ kind = .missingRequiredHeader ∨
      (claim r claimed ≠ none ∧
        ∃ cause, reg.signResponse r signature a timestamp version = .error (.cause cause)) ∧
          kind = .invalidAuthHeader ∨
      (∃ text expected, claim r claimed = some (ofString text) ∧
        reg.signResponse r signature a timestamp version = .ok expected ∧ expected ≠ text) ∧
          kind = .signatureMismatch := by
  simp only [verifyResponse_eq_rejected_iff]
  refine ⟨fun ⟨error, herror, hkind⟩ => ?_, fun h => ?_⟩
  · rcases herror with ⟨hfound, rfl⟩ | ⟨cause, hfound, hsigned, rfl⟩ |
      ⟨text, expected, hfound, hsigned, hne, rfl⟩
    · exact .inl ⟨hfound, hkind.symm⟩
    · exact .inr (.inl ⟨⟨hfound, cause, hsigned⟩, hkind.symm⟩)
    · exact .inr (.inr ⟨⟨text, expected, hfound, hsigned, hne⟩, hkind.symm⟩)
  · rcases h with ⟨hfound, rfl⟩ | ⟨⟨hfound, cause, hsigned⟩, rfl⟩ |
      ⟨⟨text, expected, hfound, hsigned, hne⟩, rfl⟩
    · exact ⟨_, .inl ⟨hfound, rfl⟩, rfl⟩
    · exact ⟨_, .inr (.inl ⟨cause, hfound, hsigned, rfl⟩), rfl⟩
    · exact ⟨_, .inr (.inr ⟨text, expected, hfound, hsigned, hne, rfl⟩), rfl⟩

theorem accepted_or_rejected_or_error :
    reg.verifyResponse r signature a timestamp claimed version = .ok (.accepted version a.id) ∨
      (∃ error, reg.verifyResponse r signature a timestamp claimed version =
        .ok (.rejected version error)) ∨
      ∃ e, reg.verifyResponse r signature a timestamp claimed version = .error e := by
  cases hclaimed : claim r claimed with
  | none => exact .inr (.inl ⟨_, verifyResponse_of_unclaimed hclaimed⟩)
  | some text =>
    rcases verifyResponse_cases reg signature a timestamp version hclaimed with
      ⟨cause, -, h⟩ | ⟨e, -, h⟩ | ⟨expected, e, -, -, h⟩ | ⟨expected, found, -, -, h⟩
    · exact .inr (.inl ⟨_, h⟩)
    · exact .inr (.inr ⟨e, h⟩)
    · exact .inr (.inr ⟨e, h⟩)
    · by_cases hmatch : expected = found
      · exact .inl (h.trans (by rw [if_pos hmatch]))
      · exact .inr (.inl ⟨_, h.trans (by rw [if_neg hmatch])⟩)

/-- **How the check of a response ends.**  It is accepted, it is rejected for the first of three
causes, or a text that has to be written cannot be, and then there is no verdict at all. -/
theorem verifyResponse_outcome (reg : Registry) (r : Response) (signature : Points)
    (a : Authorization) (timestamp : Points) (claimed : Option Points) (version : Points) :
    let found := claim r claimed
    let signed := reg.signResponse r signature a timestamp version
    let outcome := reg.verifyResponse r signature a timestamp claimed version
    ((∃ e, outcome = .error e) ↔
      ∃ text, found = some text ∧ reg.Keyed signature version ∧
        ¬(a.nonce.IsText ∧ timestamp.IsText ∧ text.IsText)) ∧
    (outcome = .ok (.accepted version a.id) ↔
      ∃ text, found = some (ofString text) ∧ signed = .ok text) ∧
    ((∃ error, outcome = .ok (.rejected version error) ∧ error.kind = .missingRequiredHeader) ↔
      found = none) ∧
    ((∃ error, outcome = .ok (.rejected version error) ∧ error.kind = .invalidAuthHeader) ↔
      found ≠ none ∧ ∃ cause, signed = .error (.cause cause)) ∧
    ((∃ error, outcome = .ok (.rejected version error) ∧ error.kind = .signatureMismatch) ↔
      ∃ text expected, found = some (ofString text) ∧ signed = .ok expected ∧ expected ≠ text) ∧
    ((∃ cause, signed = .error (.cause cause)) ↔
      reg.find? version = none ∨ (∃ digest, reg.find? version = some (.legacy digest)) ∨
        CurrentScheme.decodeStrict? signature = none ∨
        CurrentScheme.decodeStrict? signature = some []) ∧
    (outcome = .ok (.accepted version a.id) ∨ (∃ error, outcome = .ok (.rejected version error)) ∨
      ∃ e, outcome = .error e) := by
  dsimp only
  exact ⟨exists_verifyResponse_error_iff, verifyResponse_eq_accepted_iff,
    exists_rejected_iff.trans (by simp), exists_rejected_iff.trans (by simp),
    exists_rejected_iff.trans (by simp), exists_signResponse_cause_iff.trans not_keyed_iff,
    accepted_or_rejected_or_error⟩

/-! A response under a key, with a lone surrogate for its claimed signature. -/

/-- What the octet FF becomes where it is kept as a surrogate. -/
def unreadable : Points := [.surrogate 0x4FF]

def sampleRegistry : Registry where
  schemes := [.current ⟨.sha256, []⟩]
  distinct := List.nodup_singleton _

def sampleResponse : Response where
  status := 200
  headers := ⟨[(ofString Headers.responseSignature, unreadable)]⟩
  body := []

def sampleAuthorization : SignedHttp.Authorization where
  id := "a"
  realm := ""
  nonce := "n"
  version := "2.0"
  headers := []
  signature := "QQ=="

theorem not_forall_verifyResponse_eq_ok :
    ¬∀ (reg : Registry) (r : Response) (signature : Points) (a : Authorization)
      (timestamp : Points) (claimed : Option Points) (version : Points),
      ∃ verdict, reg.verifyResponse r signature a timestamp claimed version = .ok verdict := by
  intro h
  obtain ⟨verdict, hverdict⟩ := h sampleRegistry sampleResponse (ofString "QQ==")
    sampleAuthorization.raw (ofString "1432075982") none (ofString "v2")
  have hkeyed : sampleRegistry.Keyed (ofString "QQ==") (ofString "v2") :=
    ⟨⟨.sha256, []⟩, [65], by decide, by decide, by decide⟩
  have hclaim : claim sampleResponse none = some unreadable := by decide
  have hnot : ¬unreadable.IsText := by decide
  obtain ⟨e, he⟩ := exists_verifyResponse_error_iff.2
    ⟨unreadable, hclaim, hkeyed, fun h => hnot h.2.2⟩
  exact absurd (he.symm.trans hverdict) (by simp)

end Registry

/-! ## Where there are no lone surrogates -/

/-- That a verdict is one over strings, in version, identity, kind and wording. -/
structure Verdict.Matches (verdict : Verdict) (other : SignedHttp.Verdict) : Prop where
  isOk : verdict.isOk = other.isOk
  version : some verdict.version = other.version?.map ofString
  identity : verdict.identity? = other.identity?.map ofString
  kind : verdict.error?.map ResponseError.kind = other.error?.map AuthError.kind
  message : verdict.error?.map ResponseError.message =
    (other.error?.map AuthError.message).map ofString

end Raw

open Points (ofString)

/-- **A response over strings has the verdict that it has among strings.** -/
theorem Verifier.verifyResponse_raw (v : Verifier) (r : Response) (signature : String)
    (a : Authorization) (timestamp version : String) (claimed : Option String) :
    ∃ verdict, v.registry.raw.verifyResponse r.raw (ofString signature) a.raw (ofString timestamp)
        (claimed.map ofString) (ofString version) = .ok verdict ∧
      verdict.Matches (v.verifyResponse r signature a timestamp claimed version).value := by
  have hclaim : Raw.Registry.claim r.raw (claimed.map ofString) =
      (claimed.or (r.headers.get? Headers.responseSignature)).map ofString := by
    rw [Raw.Registry.claim, Option.map_or]
    exact congrArg _ (Headers.get?_raw _ _)
  have hsign := Registry.signResponse_raw r signature a timestamp version v.registry
  cases hfound : claimed.or (r.headers.get? Headers.responseSignature) with
  | none =>
    rw [hfound] at hclaim
    refine ⟨_, Raw.Registry.verifyResponse_of_unclaimed hclaim, ?_⟩
    rw [verifyResponse_of_unclaimed hfound]
    exact ⟨rfl, rfl, rfl, rfl, rfl⟩
  | some text =>
    rw [hfound] at hclaim
    cases hsigned : (v.registry.signResponse r signature a timestamp version).value with
    | error e =>
      rw [hsigned] at hsign
      refine ⟨_, Raw.Registry.verifyResponse_of_refused hclaim hsign, ?_⟩
      rw [verifyResponse_of_unsignable hfound hsigned]
      exact ⟨rfl, rfl, rfl, rfl, congrArg some e.message_raw⟩
    | ok expected =>
      rw [hsigned] at hsign
      refine ⟨_, Raw.Registry.verifyResponse_of_signed hclaim hsign, ?_⟩
      rw [verifyResponse_of_signed hfound hsigned]
      by_cases hmatch : expected = text
      · rw [if_pos hmatch, if_pos hmatch]
        exact ⟨rfl, rfl, rfl, rfl, rfl⟩
      · rw [if_neg hmatch, if_neg hmatch]
        exact ⟨rfl, rfl, rfl, rfl, rfl⟩

end SignedHttp
