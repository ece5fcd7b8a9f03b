import SignedHttp.Proofs.Registry
import SignedHttp.Proofs.Timestamp
import SignedHttp.Verification

/-!
# The pass over a request

One lemma for each group of checks says when the group succeeds, and one when it rejects.  The
checks behind the credential can also end in a fault of the numbers, and `Scheme.judge_eq_fault_iff`
says that only the time window is to blame for it.

* `Scheme.authorize_eq_ok_iff`, `Scheme.judge_eq_ok_iff`: the checks before and after the credential
  is known.
* `Scheme.authorize_eq_error_iff`, `Scheme.judge_eq_rejected_iff`: how they reject.
* `Verifier.verifyValue_of_judge`: what verification comes to when they all succeed.
* `Verifier.verifyValue_eq_accepted_iff`, `Verifier.verifyValue_eq_rejected_iff`,
  `Verifier.verifyValue_eq_fault_iff`: when it accepts, rejects or comes to no verdict.
* `Verifier.verifyValue_agrees`: two requests on which every check comes to the same cannot be told
  apart by what verification comes to (`Verification.Agrees`).
* `Verifier.log_verifyValue`: what the log says, given the outcome.
-/

set_option autoImplicit false

namespace SignedHttp

variable {s : Scheme} {clock : Clock} {tolerance : Int} {r : Request} {a : Authorization}
  {c : Credential}

/-! ## The groups of checks -/

namespace Scheme

theorem authorize_eq_ok_iff {value : String} :
    s.authorize r value = .ok a ↔
      s.parse value = .ok a ∧ ∀ name ∈ s.requiredHeaders r a, r.headers.contains name = true := by
  have hmissing (b : Authorization) :
      ((s.requiredHeaders r b).filter (!r.headers.contains ·)).isEmpty = true ↔
        ∀ name ∈ s.requiredHeaders r b, r.headers.contains name = true := by
    simp [List.isEmpty_iff]
  rw [authorize, bind_eq_ok_iff]
  constructor
  · rintro ⟨b, hparse, h⟩
    dsimp only at h
    split at h
    · next hempty =>
      obtain rfl := Except.ok.inj h
      exact ⟨hparse, (hmissing b).1 hempty⟩
    · exact absurd h (by simp)
  · rintro ⟨hparse, hnames⟩
    refine ⟨a, hparse, ?_⟩
    dsimp only
    rw [if_pos ((hmissing a).2 hnames)]
    rfl

/-- The required header fields that a request lacks. -/
def missing (s : Scheme) (r : Request) (a : Authorization) : List String :=
  (s.requiredHeaders r a).filter (!r.headers.contains ·)

theorem authorize_eq_error_iff {value : String} {error : AuthError} :
    s.authorize r value = .error error ↔
      s.parse value = .error error ∨
        ∃ a, s.parse value = .ok a ∧ s.missing r a ≠ [] ∧
          error = .missingHeaders (s.missing r a) := by
  rw [authorize, bind_eq_error_iff]
  refine or_congr_right (exists_congr fun a => and_congr_right fun _ => ?_)
  dsimp only
  rw [← missing]
  by_cases hmissing : s.missing r a = []
  · rw [if_pos (by rw [hmissing]; rfl)]
    simp [hmissing, pure, Except.pure]
  · rw [if_neg (by simpa using hmissing)]
    simp [hmissing, eq_comm]

/-- The first scheme has no time window. -/
theorem checkTime_legacy {scheme : LegacyScheme} :
    (Scheme.legacy scheme).checkTime clock tolerance r = .ok () :=
  rfl

theorem checkTime_current {scheme : CurrentScheme} {declared : String}
    (h : r.headers.get? Headers.timestamp = some declared) :
    (Scheme.current scheme).checkTime clock tolerance r =
      (Timestamp.check clock tolerance (.text declared)).map fun _ => () := by
  rw [checkTime, h]
  rfl

theorem checkTime_current_eq_ok_iff {scheme : CurrentScheme} {declared : String}
    (h : r.headers.get? Headers.timestamp = some declared) :
    (Scheme.current scheme).checkTime clock tolerance r = .ok () ↔
      ∃ seconds, Timestamp.check clock tolerance (.text declared) = .ok seconds := by
  rw [checkTime_current h, map_eq_ok_iff]
  simp

theorem checkTime_current_eq_error_iff {scheme : CurrentScheme} {declared : String} {halt : Halt}
    (h : r.headers.get? Headers.timestamp = some declared) :
    (Scheme.current scheme).checkTime clock tolerance r = .error halt ↔
      Timestamp.check clock tolerance (.text declared) = .error halt := by
  rw [checkTime_current h, map_eq_error_iff]

theorem checkContentDigest_eq_ok_iff {alg : Algorithm} {body : Octets} {claimed : String} :
    checkContentDigest alg body claimed = .ok () ↔ body ≠ [] ∧ alg.hashBase64 body = claimed := by
  rw [checkContentDigest]
  by_cases hbody : body = []
  · simp [hbody]
  · by_cases hclaimed : alg.hashBase64 body = claimed
    · simp [hbody, hclaimed]
    · simp [hbody, hclaimed]

/-- Where no digest is declared there is none to check. -/
theorem checkBody_current_eq_ok_iff {scheme : CurrentScheme} :
    (Scheme.current scheme).checkBody r = .ok () ↔
      ∀ claimed ∈ r.headers.get? Headers.contentDigest,
        r.body ≠ [] ∧ Algorithm.sha256.hashBase64 r.body = claimed := by
  cases hclaimed : r.headers.get? Headers.contentDigest with
  | none => simp [checkBody, hclaimed]
  | some claimed => simp [checkBody, hclaimed, checkContentDigest_eq_ok_iff]

theorem checkContentDigest_eq_error_iff {alg : Algorithm} {body : Octets} {claimed : String}
    {error : AuthError} :
    checkContentDigest alg body claimed = .error error ↔
      body = [] ∧ error = .digestWithoutBody ∨
        body ≠ [] ∧ alg.hashBase64 body ≠ claimed ∧ error = .digestMismatch := by
  rw [checkContentDigest]
  by_cases hbody : body = []
  · simp [hbody, eq_comm (a := error)]
  · by_cases hclaimed : alg.hashBase64 body = claimed
    · simp [hbody, hclaimed]
    · simp [hbody, hclaimed, eq_comm (a := error)]

theorem checkBody_current_eq_error_iff {scheme : CurrentScheme} {error : AuthError} :
    (Scheme.current scheme).checkBody r = .error error ↔
      ∃ claimed, r.headers.get? Headers.contentDigest = some claimed ∧
        checkContentDigest .sha256 r.body claimed = .error error := by
  cases hclaimed : r.headers.get? Headers.contentDigest with
  | none => simp [checkBody, hclaimed]
  | some claimed => simp [checkBody, hclaimed]

/-- What is declared of the body is checked against the body alone. -/
theorem checkBody_congr {r' : Request} (hbody : r.body = r'.body)
    (hdigest : r.headers.get? Headers.contentDigest = r'.headers.get? Headers.contentDigest) :
    s.checkBody r = s.checkBody r' := by
  cases hclaimed : r'.headers.get? Headers.contentDigest with
  | none =>
    rw [hclaimed] at hdigest
    simp only [checkBody, hdigest, hclaimed]
  | some claimed =>
    rw [hclaimed] at hdigest
    simp only [checkBody, hdigest, hclaimed, hbody]

theorem checkSignature_eq_ok_iff {key : Octets} :
    s.checkSignature r a key = .ok () ↔
      ∃ text, s.signedText r a = .ok text ∧ s.digest.macBase64 key text = a.signature := by
  rw [checkSignature, bind_eq_ok_iff]
  constructor
  · rintro ⟨text, htext, h⟩
    split at h
    · next hmac => exact ⟨text, mapError_eq_ok_iff.1 htext, hmac⟩
    · exact absurd h (by simp)
  · rintro ⟨text, htext, hmac⟩
    refine ⟨text, mapError_eq_ok_iff.2 htext, ?_⟩
    rw [if_pos hmac]
    rfl

/-- Once there is a text to sign, only the signature can be wrong. -/
theorem checkSignature_eq_error_iff {key text : Octets} {error : AuthError}
    (htext : s.signedText r a = .ok text) :
    s.checkSignature r a key = .error error ↔
      s.digest.macBase64 key text ≠ a.signature ∧ error = .signatureMismatch := by
  have hmap : (s.signedText r a).mapError AuthError.missingHeader = .ok text :=
    mapError_eq_ok_iff.2 htext
  rw [checkSignature, hmap]
  change (if s.digest.macBase64 key text = a.signature then pure () else _) = _ ↔ _
  by_cases hmac : s.digest.macBase64 key text = a.signature
  · simp [hmac, pure, Except.pure]
  · simp [hmac, eq_comm]

/-- Once there is a key, three checks are left. -/
theorem judge_of_key {key : Octets} (hkey : s.key c = .ok key) :
    s.judge clock tolerance r a c = (do
      s.checkTime clock tolerance r
      (s.checkBody r).mapError .rejected
      (s.checkSignature r a key).mapError .rejected) := by
  rw [judge, hkey]
  rfl

theorem judge_eq_ok_iff :
    s.judge clock tolerance r a c = .ok () ↔
      ∃ key, s.key c = .ok key ∧ s.checkTime clock tolerance r = .ok () ∧ s.checkBody r = .ok () ∧
        s.checkSignature r a key = .ok () := by
  rw [judge, bind_eq_ok_iff]
  constructor
  · rintro ⟨key, hkey, h⟩
    obtain ⟨_, htime, h⟩ := bind_eq_ok_iff.1 h
    obtain ⟨_, hbody, h⟩ := bind_eq_ok_iff.1 h
    exact ⟨key, mapError_eq_ok_iff.1 hkey, htime, mapError_eq_ok_iff.1 hbody,
      mapError_eq_ok_iff.1 h⟩
  · rintro ⟨key, hkey, htime, hbody, hsignature⟩
    refine ⟨key, mapError_eq_ok_iff.2 hkey, ?_⟩
    rw [bind_eq_ok_iff]
    refine ⟨(), htime, ?_⟩
    rw [bind_eq_ok_iff]
    exact ⟨(), mapError_eq_ok_iff.2 hbody, mapError_eq_ok_iff.2 hsignature⟩

theorem mapError_rejected_eq_iff {ε α : Type} {x : Except ε α} {f : ε → AuthError}
    {error : AuthError} :
    x.mapError (fun e => Halt.rejected (f e)) = .error (.rejected error) ↔
      ∃ e, x = .error e ∧ error = f e := by
  rw [mapError_eq_error_iff]
  simp only [Halt.rejected.injEq, eq_comm]

/-- **The first check that does not succeed is the one that rejects.** -/
theorem judge_eq_rejected_iff {error : AuthError} :
    s.judge clock tolerance r a c = .error (.rejected error) ↔
      (∃ fault, s.key c = .error fault ∧ error = .secret fault) ∨
        ∃ key, s.key c = .ok key ∧
          (s.checkTime clock tolerance r = .error (.rejected error) ∨
            s.checkTime clock tolerance r = .ok () ∧
              (s.checkBody r = .error error ∨
                s.checkBody r = .ok () ∧ s.checkSignature r a key = .error error)) := by
  have hreject (x : Except AuthError Unit) :
      x.mapError Halt.rejected = .error (.rejected error) ↔ x = .error error := by
    rw [mapError_eq_error_iff]
    simp
  rw [judge, bind_eq_error_iff]
  refine or_congr mapError_rejected_eq_iff (exists_congr fun key => ?_)
  rw [mapError_eq_ok_iff, check_bind_eq_error_iff, check_bind_eq_error_iff, hreject, hreject,
    mapError_eq_ok_iff]

/-- A check that can only reject brings in no fault of the numbers. -/
theorem mapError_rejected_ne_fault {ε α : Type} {x : Except ε α} {f : ε → AuthError}
    {fault : NumericFault} :
    x.mapError (fun e => Halt.rejected (f e)) ≠ .error (.fault fault) := by
  intro h
  obtain ⟨e, -, he⟩ := mapError_eq_error_iff.1 h
  exact absurd he (by simp)

/-- **The time window alone brings in faults of the numbers**, once there is a key. -/
theorem judge_eq_fault_iff {fault : NumericFault} :
    s.judge clock tolerance r a c = .error (.fault fault) ↔
      (∃ key, s.key c = .ok key) ∧ s.checkTime clock tolerance r = .error (.fault fault) := by
  rw [judge, bind_eq_error_iff]
  constructor
  · rintro (hkey | ⟨key, hkey, h⟩)
    · exact absurd hkey mapError_rejected_ne_fault
    · refine ⟨⟨key, mapError_eq_ok_iff.1 hkey⟩, ?_⟩
      rcases bind_eq_error_iff.1 h with htime | ⟨_, -, h⟩
      · exact htime
      · rcases bind_eq_error_iff.1 h with hbody | ⟨_, -, hsignature⟩
        · exact absurd hbody mapError_rejected_ne_fault
        · exact absurd hsignature mapError_rejected_ne_fault
  · rintro ⟨⟨key, hkey⟩, htime⟩
    refine .inr ⟨key, mapError_eq_ok_iff.2 hkey, ?_⟩
    rw [bind_eq_error_iff]
    exact .inl htime

end Scheme

/-! ## The whole pass -/

namespace Verifier

variable {v : Verifier} {lookup : String → Option Credential}

/-- Why a value that belongs to no scheme is rejected. -/
def unidentified (value : Option String) : AuthError :=
  if (value.getD "").isEmpty then .missingAuthorization else .unrecognizedScheme

theorem verifyValue_eq_reject_unidentified {value : Option String}
    (hscheme : v.registry.schemeOf? value = none) :
    v.verifyValue clock lookup r value =
      reject r none (unidentified value) [] [.schemeUnmatched (Registry.unmatchedToken value)] := by
  rw [verifyValue, Registry.identify, hscheme]
  rfl

theorem verifyValue_eq_reject {text : String} {error : AuthError}
    (hscheme : v.registry.schemeOf? (some text) = some s)
    (hauthorize : s.authorize r text = .error error) :
    v.verifyValue clock lookup r (some text) = reject r (some s.id) error [] [] := by
  rw [verifyValue, Registry.identify, hscheme]
  dsimp only [Option.getD_some]
  rw [hauthorize]

/-- Up to the credential nothing is asked for, and from there on the rest decides. -/
theorem verifyValue_eq_conclude {text : String}
    (hscheme : v.registry.schemeOf? (some text) = some s)
    (hauthorize : s.authorize r text = .ok a) :
    v.verifyValue clock lookup r (some text) = v.conclude clock s r a (lookup a.id) := by
  rw [verifyValue, Registry.identify, hscheme]
  dsimp only [Option.getD_some]
  rw [hauthorize]

/-- **What verification comes to when every check succeeds.** -/
theorem verifyValue_of_judge {text : String} (hscheme : v.registry.schemeOf? (some text) = some s)
    (hauthorize : s.authorize r text = .ok a) (hlookup : lookup a.id = some c)
    (hjudge : s.judge clock v.tolerance r a c = .ok ()) :
    v.verifyValue clock lookup r (some text) =
      ⟨.ok (.accepted s.id c.id), [a.id], [.requestVerified s.id c.id]⟩ := by
  rw [verifyValue_eq_conclude hscheme hauthorize, hlookup, conclude, hjudge]

/-- How far the pass gets before the credential: there is no scheme, or the scheme does not
authorize the request, or it does. -/
theorem authorization_cases (v : Verifier) (r : Request) (value : Option String) :
    v.registry.schemeOf? value = none ∨
      ∃ text s, value = some text ∧ v.registry.schemeOf? (some text) = some s ∧
        ((∃ error, s.authorize r text = .error error) ∨ ∃ a, s.authorize r text = .ok a) := by
  cases value with
  | none => exact .inl Registry.schemeOf?_none
  | some text =>
    cases hscheme : v.registry.schemeOf? (some text) with
    | none => exact .inl rfl
    | some s =>
      refine .inr ⟨text, s, rfl, hscheme, ?_⟩
      cases s.authorize r text with
      | error error => exact .inl ⟨error, rfl⟩
      | ok a => exact .inr ⟨a, rfl⟩

/-- How the pass can end from the credential on. -/
theorem outcome_conclude_eq_iff {found : Option Credential} {x : Except NumericFault Verdict} :
    (v.conclude clock s r a found).outcome = x ↔
      found = none ∧ x = .ok (.rejected (some s.id) (.unknownId a.id)) ∨
        ∃ c, found = some c ∧
          (s.judge clock v.tolerance r a c = .ok () ∧ x = .ok (.accepted s.id c.id) ∨
            (∃ error, s.judge clock v.tolerance r a c = .error (.rejected error) ∧
              x = .ok (.rejected (some s.id) error)) ∨
            ∃ fault, s.judge clock v.tolerance r a c = .error (.fault fault) ∧
              x = .error fault) := by
  cases found with
  | none => simp [conclude, reject, eq_comm (a := x)]
  | some c =>
    rw [conclude]
    cases hjudge : s.judge clock v.tolerance r a c with
    | ok _ => simp [hjudge, eq_comm (a := x)]
    | error halt =>
      cases halt with
      | rejected error => simp [hjudge, reject, eq_comm (a := x)]
      | fault found => simp [hjudge, eq_comm (a := x)]

theorem conclude_eq_accepted_iff {found : Option Credential} {version identity : String} :
    (v.conclude clock s r a found).outcome = .ok (.accepted version identity) ↔
      ∃ c, found = some c ∧ s.judge clock v.tolerance r a c = .ok () ∧ version = s.id ∧
        identity = c.id := by
  rw [outcome_conclude_eq_iff]
  simp

theorem conclude_eq_rejected_iff {found : Option Credential} {version : Option String}
    {error : AuthError} :
    (v.conclude clock s r a found).outcome = .ok (.rejected version error) ↔
      version = some s.id ∧
        (found = none ∧ error = .unknownId a.id ∨
          ∃ c, found = some c ∧ s.judge clock v.tolerance r a c = .error (.rejected error)) := by
  rw [outcome_conclude_eq_iff]
  constructor
  · rintro (⟨hfound, h⟩ | ⟨c, hfound, ⟨-, h⟩ | ⟨other, hjudge, h⟩ | ⟨fault, -, h⟩⟩)
    · obtain ⟨rfl, rfl⟩ := Verdict.rejected.inj (Except.ok.inj h)
      exact ⟨rfl, .inl ⟨hfound, rfl⟩⟩
    · exact absurd h (by simp)
    · obtain ⟨rfl, rfl⟩ := Verdict.rejected.inj (Except.ok.inj h)
      exact ⟨rfl, .inr ⟨c, hfound, hjudge⟩⟩
    · exact absurd h (by simp)
  · rintro ⟨rfl, ⟨hfound, rfl⟩ | ⟨c, hfound, hjudge⟩⟩
    · exact .inl ⟨hfound, rfl⟩
    · exact .inr ⟨c, hfound, .inr (.inl ⟨error, hjudge, rfl⟩)⟩

theorem conclude_eq_fault_iff {found : Option Credential} {fault : NumericFault} :
    (v.conclude clock s r a found).outcome = .error fault ↔
      ∃ c, found = some c ∧ s.judge clock v.tolerance r a c = .error (.fault fault) := by
  rw [outcome_conclude_eq_iff]
  simp

/-- One id is asked for, whatever the credential is good for. -/
theorem asked_conclude {found : Option Credential} :
    (v.conclude clock s r a found).asked = [a.id] := by
  cases found with
  | none => rfl
  | some c =>
    rw [conclude]
    split <;> rfl

/-- What comes to something else than a rejection comes to it behind the credential. -/
theorem verifyValue_outcome_iff {value : Option String} {p : Except NumericFault Verdict → Prop}
    (hp : ∀ version error, ¬p (.ok (.rejected version error))) :
    p (v.verifyValue clock lookup r value).outcome ↔
      ∃ text s a, value = some text ∧ v.registry.schemeOf? (some text) = some s ∧
        s.authorize r text = .ok a ∧ p (v.conclude clock s r a (lookup a.id)).outcome := by
  constructor
  · intro h
    rcases authorization_cases v r value with
      hscheme | ⟨text, s, rfl, hscheme, ⟨error, hauthorize⟩ | ⟨a, hauthorize⟩⟩
    · rw [verifyValue_eq_reject_unidentified hscheme] at h
      exact absurd h (hp _ _)
    · rw [verifyValue_eq_reject hscheme hauthorize] at h
      exact absurd h (hp _ _)
    · rw [verifyValue_eq_conclude hscheme hauthorize] at h
      exact ⟨text, s, a, rfl, hscheme, hauthorize, h⟩
  · rintro ⟨text, s, a, rfl, hscheme, hauthorize, h⟩
    rwa [verifyValue_eq_conclude hscheme hauthorize]

/-- **Verification accepts only in the checks behind the credential.** -/
theorem verifyValue_eq_accepted_iff {value : Option String} {version identity : String} :
    (v.verifyValue clock lookup r value).outcome = .ok (.accepted version identity) ↔
      ∃ text s a c, value = some text ∧ v.registry.schemeOf? (some text) = some s ∧
        s.authorize r text = .ok a ∧ lookup a.id = some c ∧
        s.judge clock v.tolerance r a c = .ok () ∧ version = s.id ∧ identity = c.id := by
  rw [verifyValue_outcome_iff (p := (· = .ok (.accepted version identity))) (by simp)]
  simp only [conclude_eq_accepted_iff, exists_and_left]

/-- **Verification comes to no verdict only in the checks behind the credential.** -/
theorem verifyValue_eq_fault_iff {value : Option String} {fault : NumericFault} :
    (v.verifyValue clock lookup r value).outcome = .error fault ↔
      ∃ text s a c, value = some text ∧ v.registry.schemeOf? (some text) = some s ∧
        s.authorize r text = .ok a ∧ lookup a.id = some c ∧
        s.judge clock v.tolerance r a c = .error (.fault fault) := by
  rw [verifyValue_outcome_iff (p := (· = .error fault)) (by simp)]
  simp only [conclude_eq_fault_iff, exists_and_left]

/-- **Verification rejects in the first group of checks that does not succeed.** -/
theorem verifyValue_eq_rejected_iff {value : Option String} {version : Option String}
    {error : AuthError} :
    (v.verifyValue clock lookup r value).outcome = .ok (.rejected version error) ↔
      v.registry.schemeOf? value = none ∧ version = none ∧ error = unidentified value ∨
        ∃ text s, value = some text ∧ v.registry.schemeOf? (some text) = some s ∧
          version = some s.id ∧
          (s.authorize r text = .error error ∨ ∃ a, s.authorize r text = .ok a ∧
            (lookup a.id = none ∧ error = .unknownId a.id ∨
              ∃ c, lookup a.id = some c ∧
                s.judge clock v.tolerance r a c = .error (.rejected error))) := by
  constructor
  · intro h
    rcases authorization_cases v r value with
      hscheme | ⟨text, s, rfl, hscheme, ⟨error', hauthorize⟩ | ⟨a, hauthorize⟩⟩
    · rw [verifyValue_eq_reject_unidentified hscheme] at h
      obtain ⟨rfl, rfl⟩ := Verdict.rejected.inj (Except.ok.inj h)
      exact .inl ⟨hscheme, rfl, rfl⟩
    · rw [verifyValue_eq_reject hscheme hauthorize] at h
      obtain ⟨rfl, rfl⟩ := Verdict.rejected.inj (Except.ok.inj h)
      exact .inr ⟨text, s, rfl, hscheme, rfl, .inl hauthorize⟩
    · rw [verifyValue_eq_conclude hscheme hauthorize] at h
      obtain ⟨rfl, hrest⟩ := conclude_eq_rejected_iff.1 h
      exact .inr ⟨text, s, rfl, hscheme, rfl, .inr ⟨a, hauthorize, hrest⟩⟩
  · rintro (⟨hscheme, rfl, rfl⟩ | ⟨text, s, rfl, hscheme, rfl, hauthorize | ⟨a, hauthorize, hrest⟩⟩)
    · rw [verifyValue_eq_reject_unidentified hscheme]
      rfl
    · rw [verifyValue_eq_reject hscheme hauthorize]
      rfl
    · rw [verifyValue_eq_conclude hscheme hauthorize]
      exact conclude_eq_rejected_iff.2 ⟨rfl, hrest⟩

/-- A verdict names a version unless the value belongs to no scheme. -/
theorem version?_eq_none_iff {value : Option String} {verdict : Verdict}
    (h : (v.verifyValue clock lookup r value).outcome = .ok verdict) :
    verdict.version? = none ↔ v.registry.schemeOf? value = none := by
  cases verdict with
  | accepted version identity =>
    obtain ⟨text, s, a, c, rfl, hscheme, -⟩ := verifyValue_eq_accepted_iff.1 h
    simp [Verdict.version?, hscheme]
  | rejected version error =>
    rcases verifyValue_eq_rejected_iff.1 h with
      ⟨hscheme, rfl, -⟩ | ⟨text, s, rfl, hscheme, rfl, -⟩
    · simp [Verdict.version?, hscheme]
    · simp [Verdict.version?, hscheme]

/-- The credential of one id is asked for once the request is authorized. -/
theorem asked_of_authorize {text : String} (hscheme : v.registry.schemeOf? (some text) = some s)
    (hauthorize : s.authorize r text = .ok a) :
    (v.verifyValue clock lookup r (some text)).asked = [a.id] := by
  rw [verifyValue_eq_conclude hscheme hauthorize, asked_conclude]

/-- Before that none is asked for. -/
theorem asked_eq_nil {value : Option String}
    (h : ∀ text s a, value = some text → v.registry.schemeOf? (some text) = some s →
      s.authorize r text ≠ .ok a) :
    (v.verifyValue clock lookup r value).asked = [] := by
  rcases authorization_cases v r value with
    hscheme | ⟨text, s, rfl, hscheme, ⟨error, hauthorize⟩ | ⟨a, hauthorize⟩⟩
  · rw [verifyValue_eq_reject_unidentified hscheme]
    rfl
  · rw [verifyValue_eq_reject hscheme hauthorize]
    rfl
  · exact absurd hauthorize (h text s a rfl hscheme)

end Verifier

/-! ## Two passes that come to the same -/

/-- Two verifications came to the same and asked for the same credentials.  Their logs may differ,
because a log shows a request as it came. -/
structure Verification.Agrees (x y : Verification) : Prop where
  outcome : x.outcome = y.outcome
  asked : x.asked = y.asked

/-- Two verifications that agree differ in their logs at most. -/
theorem Verification.Agrees.eq {x y : Verification} (h : x.Agrees y) (hlog : x.log = y.log) :
    x = y := by
  obtain ⟨outcome, asked, log⟩ := x
  obtain ⟨rfl, rfl⟩ := h
  obtain rfl : log = y.log := hlog
  rfl

namespace Verifier

variable {v : Verifier} {lookup : String → Option Credential} {r' : Request}

theorem reject_agrees {version : Option String} {error : AuthError} {asked : List String}
    {log : List LogEntry} :
    (reject r version error asked log).Agrees (reject r' version error asked log) :=
  ⟨rfl, rfl⟩

theorem conclude_agrees {found : Option Credential}
    (h : ∀ c ∈ found, s.judge clock v.tolerance r a c = s.judge clock v.tolerance r' a c) :
    (v.conclude clock s r a found).Agrees (v.conclude clock s r' a found) := by
  cases found with
  | none => exact reject_agrees
  | some c =>
    rw [conclude, conclude, h c rfl]
    cases s.judge clock v.tolerance r' a c with
    | ok _ => exact ⟨rfl, rfl⟩
    | error halt =>
      cases halt with
      | rejected error => exact reject_agrees
      | fault fault => exact ⟨rfl, rfl⟩

/-- **Where the checks come to the same, so does the whole pass.** -/
theorem verifyValue_agrees {value : Option String}
    (hauthorize : ∀ text s, value = some text → v.registry.schemeOf? (some text) = some s →
      s.authorize r text = s.authorize r' text)
    (hjudge : ∀ text s a c, value = some text → v.registry.schemeOf? (some text) = some s →
      s.authorize r text = .ok a → lookup a.id = some c →
      s.judge clock v.tolerance r a c = s.judge clock v.tolerance r' a c) :
    (v.verifyValue clock lookup r value).Agrees (v.verifyValue clock lookup r' value) := by
  rcases authorization_cases v r value with
    hscheme | ⟨text, s, rfl, hscheme, ⟨error, herror⟩ | ⟨a, hok⟩⟩
  · rw [verifyValue_eq_reject_unidentified hscheme, verifyValue_eq_reject_unidentified hscheme]
    exact reject_agrees
  · have herror' := (hauthorize text s rfl hscheme).symm.trans herror
    rw [verifyValue_eq_reject hscheme herror, verifyValue_eq_reject hscheme herror']
    exact reject_agrees
  · have hok' := (hauthorize text s rfl hscheme).symm.trans hok
    rw [verifyValue_eq_conclude hscheme hok, verifyValue_eq_conclude hscheme hok']
    exact conclude_agrees fun c hc => hjudge text s a c rfl hscheme hok hc

/-! ## The log -/

/-- What the log says of a pass with this outcome. -/
def entries (r : Request) (value : Option String) : Except NumericFault Verdict → List LogEntry
  | .ok (.accepted version identity) => [.requestVerified version identity]
  | .ok (.rejected (some version) error) =>
    [.requestRejected (some version) error r.method (.text r.path)]
  | .ok (.rejected none error) =>
    [.schemeUnmatched (Registry.unmatchedToken value),
      .requestRejected none error r.method (.text r.path)]
  | .error _ => []

theorem log_conclude {found : Option Credential} {value : Option String} :
    (v.conclude clock s r a found).log =
      entries r value (v.conclude clock s r a found).outcome := by
  cases found with
  | none => rfl
  | some c =>
    rw [conclude]
    cases s.judge clock v.tolerance r a c with
    | ok _ => rfl
    | error halt =>
      cases halt with
      | rejected error => rfl
      | fault fault => rfl

/-- **The log tells the outcome and nothing else**, under the method and the path of the request. -/
theorem log_verifyValue {value : Option String} :
    (v.verifyValue clock lookup r value).log =
      entries r value (v.verifyValue clock lookup r value).outcome := by
  rcases authorization_cases v r value with
    hscheme | ⟨text, s, rfl, hscheme, ⟨error, herror⟩ | ⟨a, hok⟩⟩
  · rw [verifyValue_eq_reject_unidentified hscheme]
    rfl
  · rw [verifyValue_eq_reject hscheme herror]
    rfl
  · rw [verifyValue_eq_conclude hscheme hok]
    exact log_conclude

/-- With the same method and path the log is the same, too. -/
theorem verifyValue_eq_of_agrees {value : Option String} (hmethod : r.method = r'.method)
    (hpath : r.path = r'.path)
    (h : (v.verifyValue clock lookup r value).Agrees (v.verifyValue clock lookup r' value)) :
    v.verifyValue clock lookup r value = v.verifyValue clock lookup r' value := by
  refine h.eq ?_
  rw [log_verifyValue, log_verifyValue, h.outcome, entries.eq_def, entries.eq_def, hmethod, hpath]

end Verifier
end SignedHttp
