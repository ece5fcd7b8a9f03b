import SignedHttp.Proofs.Registry
import SignedHttp.Signing
import SignedHttp.Verification

/-!
# Signed responses

A client checks the signature of a response by signing the response once more.  The server signs
through `Registry.signResponse` and the client checks through `Verifier.checkResponse`; both look
the scheme up on their own and report its faults in their own way.

* `Registry.exists_signResponse_eq_error_iff`: when a response cannot be signed.
* `Verifier.verifyResponse_of_unclaimed`, `Verifier.verifyResponse_of_unsignable`,
  `Verifier.verifyResponse_of_signed`: the verdict, in the order in which the check goes on.
* `Verifier.verifyResponse_iff`: the one is accepted exactly when it is what the other gives.
-/

set_option autoImplicit false

namespace SignedHttp

variable {s : Scheme} {r : Response} {signature : String} {a : Authorization}
  {timestamp version value : String}

/-! ## Signing -/

namespace Scheme

theorem signResponse_eq_ok_iff :
    s.signResponse r signature a timestamp = .ok value ↔
      ∃ scheme key, s = .current scheme ∧ Base64.decodeStrict? signature = some key ∧ key ≠ [] ∧
        scheme.digest.macBase64 key (CurrentScheme.responseText r a timestamp) = value := by
  cases s with
  | legacy s => simp [signResponse]
  | current s =>
    rw [signResponse, CurrentScheme.signResponse]
    cases Base64.decodeStrict? signature with
    | none => simp
    | some key =>
      cases key with
      | nil => simp
      | cons b rest => simp

/-- A response is not signed with the first scheme, nor under a signature that gives no key. -/
theorem exists_signResponse_eq_error_iff :
    (∃ error, s.signResponse r signature a timestamp = .error error) ↔
      (∃ scheme, s = .legacy scheme) ∨ Base64.decodeStrict? signature = none ∨
        Base64.decodeStrict? signature = some [] := by
  cases s with
  | legacy s => simp [signResponse]
  | current s =>
    rw [signResponse, CurrentScheme.signResponse]
    cases Base64.decodeStrict? signature with
    | none => simp
    | some key =>
      cases key with
      | nil => simp
      | cons b rest => simp

end Scheme

namespace Registry

variable {reg : Registry}

theorem signResponse_of_find?_eq_none (h : reg.find? version = none) :
    (reg.signResponse r signature a timestamp version).value =
      .error (.unknownVersion version) := by
  rw [signResponse, scheme, h]

theorem signResponse_of_find?_eq_some (h : reg.find? version = some s) :
    (reg.signResponse r signature a timestamp version).value =
      s.signResponse r signature a timestamp := by
  rw [signResponse, scheme, h]
  cases hsigned : s.signResponse r signature a timestamp with
  | error error => simp only [hsigned]
  | ok signed => simp only [hsigned]

theorem exists_signResponse_eq_error_iff :
    (∃ error, (reg.signResponse r signature a timestamp version).value = .error error) ↔
      reg.find? version = none ∨ (∃ scheme, reg.find? version = some (.legacy scheme)) ∨
        Base64.decodeStrict? signature = none ∨ Base64.decodeStrict? signature = some [] := by
  cases hfind : reg.find? version with
  | none => simp [signResponse_of_find?_eq_none hfind]
  | some s => simp [signResponse_of_find?_eq_some hfind, Scheme.exists_signResponse_eq_error_iff]

end Registry

/-! ## Verifying -/

namespace Verifier

variable {v : Verifier} {claimed : Option String}

/-- Without a claimed signature nothing else is looked at. -/
theorem verifyResponse_of_unclaimed
    (hclaimed : claimed.or (r.headers.get? Headers.responseSignature) = none) :
    (v.verifyResponse r signature a timestamp claimed version).value =
      .rejected (some version) (.missingHeader (.required Headers.responseSignature)) := by
  rw [verifyResponse, checkResponse, hclaimed]

/-- With one, the check follows the signer up to the comparison. -/
theorem checkResponse_eq_bind {text : String}
    (hclaimed : claimed.or (r.headers.get? Headers.responseSignature) = some text) :
    v.checkResponse r signature a timestamp claimed version = (do
      let expected ← (v.registry.signResponse r signature a timestamp version).value.mapError
        .responseUnsignable
      if expected = text then return else .error .responseSignatureMismatch) := by
  rw [checkResponse, hclaimed]
  cases hfind : v.registry.find? version with
  | none =>
    rw [Registry.signResponse_of_find?_eq_none hfind]
    rfl
  | some s =>
    rw [Registry.signResponse_of_find?_eq_some hfind]
    rfl

/-- The fault of the signer is told as it is. -/
theorem verifyResponse_of_unsignable {text : String} {error : SigningError}
    (hclaimed : claimed.or (r.headers.get? Headers.responseSignature) = some text)
    (hsigned : (v.registry.signResponse r signature a timestamp version).value = .error error) :
    (v.verifyResponse r signature a timestamp claimed version).value =
      .rejected (some version) (.responseUnsignable error) := by
  rw [verifyResponse, checkResponse_eq_bind hclaimed, hsigned]
  rfl

theorem verifyResponse_of_signed {text expected : String}
    (hclaimed : claimed.or (r.headers.get? Headers.responseSignature) = some text)
    (hsigned : (v.registry.signResponse r signature a timestamp version).value = .ok expected) :
    (v.verifyResponse r signature a timestamp claimed version).value =
      if expected = text then .accepted version a.id
      else .rejected (some version) .responseSignatureMismatch := by
  have hcheck : v.checkResponse r signature a timestamp claimed version =
      if expected = text then .ok () else .error .responseSignatureMismatch := by
    rw [checkResponse_eq_bind hclaimed, hsigned]
    rfl
  rw [verifyResponse, hcheck]
  by_cases hmatch : expected = text
  · rw [if_pos hmatch, if_pos hmatch]
  · rw [if_neg hmatch, if_neg hmatch]

/-- **A response is accepted exactly when its claimed signature is the one that signing it gives.**
Otherwise the verdict tells whether there is no such claim, whether the response cannot be signed,
or whether the two differ, the first of these that is the case. -/
theorem verifyResponse_iff (v : Verifier) (r : Response) (signature : String) (a : Authorization)
    (timestamp version : String) (claimed : Option String) :
    let found := claimed.or (r.headers.get? Headers.responseSignature)
    let signed := (v.registry.signResponse r signature a timestamp version).value
    let verdict := (v.verifyResponse r signature a timestamp claimed version).value
    (verdict.isOk = true ↔ ∃ text, found = some text ∧ signed = .ok text) ∧
    (verdict.error?.map AuthError.kind = some .missingRequiredHeader ↔ found = none) ∧
    (verdict.error?.map AuthError.kind = some .invalidAuthHeader ↔
      found ≠ none ∧ ∃ error, signed = .error error) ∧
    (verdict.error?.map AuthError.kind = some .signatureMismatch ↔
      ∃ text expected, found = some text ∧ signed = .ok expected ∧ expected ≠ text) ∧
    ((∃ error, signed = .error error) ↔
      v.registry.find? version = none ∨
        (∃ scheme, v.registry.find? version = some (.legacy scheme)) ∨
        Base64.decodeStrict? signature = none ∨ Base64.decodeStrict? signature = some []) ∧
    verdict.version? = some version ∧
    verdict.identity? = if verdict.isOk then some a.id else none := by
  dsimp only
  rw [← @Registry.exists_signResponse_eq_error_iff r signature a timestamp version v.registry]
  cases hclaimed : claimed.or (r.headers.get? Headers.responseSignature) with
  | none =>
    rw [verifyResponse_of_unclaimed hclaimed]
    simp [Verdict.isOk, Verdict.error?, Verdict.version?, Verdict.identity?, AuthError.kind]
  | some text =>
    cases hsigned : (v.registry.signResponse r signature a timestamp version).value with
    | error error =>
      rw [verifyResponse_of_unsignable hclaimed hsigned]
      simp [Verdict.isOk, Verdict.error?, Verdict.version?, Verdict.identity?, AuthError.kind]
    | ok expected =>
      rw [verifyResponse_of_signed hclaimed hsigned]
      by_cases hmatch : expected = text
      · simp [hmatch, Verdict.isOk, Verdict.error?, Verdict.version?, Verdict.identity?]
      · simp [hmatch, Verdict.isOk, Verdict.error?, Verdict.version?, Verdict.identity?,
          AuthError.kind]

end Verifier
end SignedHttp
