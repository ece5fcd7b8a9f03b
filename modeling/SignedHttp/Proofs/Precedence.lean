import SignedHttp.Proofs.Current.SignedText
import SignedHttp.Proofs.Verdict

/-!
# Which check decides

A request is accepted on eight conditions, and when several of them fail, the first one says why.
They are stated here one by one, without the functions that check them:

* `Verifier.Authorized`, `Verifier.Keyed`, `Verifier.Accepts`: the first three conditions, the first
  five, and all of them.
* `Verifier.Rejects`: the ways in which one condition fails after all that come before it hold, each
  with the error that it gives.
* `Verifier.verdict_iff`: whenever verification comes to a verdict, these are the verdicts.

The last condition compares codes of the signed text.  There always is one, because the header
fields that it needs are the required ones (`Scheme.exists_signedText`); so a header field that is
absent is reported before any credential is asked for.
-/

set_option autoImplicit false

namespace SignedHttp

/-! ## The conditions that only the second scheme has -/

namespace Scheme

variable {s : Scheme} {r : Request} {a : Authorization}

/-- The timestamp is a numeral of a moment within the window. -/
def OnTime (now tolerance : Int) (r : Request) : Scheme → Prop
  | legacy _ => True
  | current _ => ∃ declared digits, r.headers.get? Headers.timestamp = some declared ∧
      Timestamp.digits? declared = some digits ∧
      Timestamp.distance now (Timestamp.moment digits) ≤ tolerance

/-- A digest is declared for a body only, and it is that of the body. -/
def DigestFits (r : Request) : Scheme → Prop
  | legacy _ => True
  | current _ => ∀ claimed ∈ r.headers.get? Headers.contentDigest,
      r.body ≠ [] ∧ Algorithm.sha256.hashBase64 r.body = claimed

theorem checkBody_eq_ok_iff : s.checkBody r = .ok () ↔ DigestFits r s := by
  cases s with
  | legacy s => exact ⟨fun _ => trivial, fun _ => rfl⟩
  | current s => exact checkBody_current_eq_ok_iff

/-- **Nothing that the signed text needs is missing** once the required header fields are there. -/
theorem exists_signedText
    (hrequired : ∀ name ∈ s.requiredHeaders r a, r.headers.contains name = true) :
    ∃ text, s.signedText r a = .ok text := by
  cases s with
  | legacy s => exact ⟨_, rfl⟩
  | current s => exact ⟨_, CurrentScheme.signedText_eq_ok_iff.2 ⟨hrequired, rfl⟩⟩

end Scheme

/-! ## The conditions together -/

namespace Verifier

/-- The first three conditions: the value belongs to a registered scheme, this finds parameters in
it, and the header fields that they ask for are there. -/
structure Authorized (v : Verifier) (r : Request) (text : String) (s : Scheme)
    (a : Authorization) : Prop where
  scheme : s ∈ v.registry.schemes
  identifies : s.identifies text = true
  parse : s.parse text = .ok a
  required : ∀ name ∈ s.requiredHeaders r a, r.headers.contains name = true

/-- The first five conditions: there also is a credential for the id, and its secret gives a key. -/
structure Keyed (v : Verifier) (lookup : String → Option Credential) (r : Request) (text : String)
    (s : Scheme) (a : Authorization) (c : Credential) (key : Octets) : Prop
    extends Authorized v r text s a where
  credential : lookup a.id = some c
  secret : s.key c = .ok key

/-- All eight conditions: the timestamp and the digest are in order too, and the signature is the
code of the signed text under the key. -/
structure Accepts (v : Verifier) (now : Int) (lookup : String → Option Credential) (r : Request)
    (text : String) (s : Scheme) (a : Authorization) (c : Credential) (key : Octets) : Prop
    extends Keyed v lookup r text s a c key where
  time : Scheme.OnTime now v.tolerance r s
  digest : Scheme.DigestFits r s
  signature : ∃ message, s.signedText r a = .ok message ∧
    s.digest.macBase64 key message = a.signature

/-- The rejections of a value, with the version that was recognized: one condition fails, and all
that come before it hold. -/
inductive Rejects (v : Verifier) (now : Int) (lookup : String → Option Credential) (r : Request) :
    Option String → Option String → AuthError → Prop
  | scheme {value : Option String}
      (h : ∀ text ∈ value, ∀ s ∈ v.registry.schemes, s.identifies text = false) :
      Rejects v now lookup r value none (unidentified value)
  | parameters {text : String} {s : Scheme} {error : AuthError} (hmem : s ∈ v.registry.schemes)
      (hidentifies : s.identifies text = true) (h : s.parse text = .error error) :
      Rejects v now lookup r (some text) (some s.id) error
  | headers {text : String} {s : Scheme} {a : Authorization} (hmem : s ∈ v.registry.schemes)
      (hidentifies : s.identifies text = true) (hparse : s.parse text = .ok a)
      (h : s.missing r a ≠ []) :
      Rejects v now lookup r (some text) (some s.id) (.missingHeaders (s.missing r a))
  | credential {text : String} {s : Scheme} {a : Authorization} (before : Authorized v r text s a)
      (h : lookup a.id = none) :
      Rejects v now lookup r (some text) (some s.id) (.unknownId a.id)
  | secret {text : String} {s : Scheme} {a : Authorization} {c : Credential} {fault : SecretFault}
      (before : Authorized v r text s a) (hlookup : lookup a.id = some c)
      (h : s.key c = .error fault) :
      Rejects v now lookup r (some text) (some s.id) (.secret fault)
  | numeral {text : String} {s : CurrentScheme} {a : Authorization} {c : Credential} {key : Octets}
      {declared : String} (before : Keyed v lookup r text (.current s) a c key)
      (hdeclared : r.headers.get? Headers.timestamp = some declared)
      (h : Timestamp.digits? declared = none) :
      Rejects v now lookup r (some text) (some CurrentScheme.id)
        (.invalidTimestamp (.text declared))
  | window {text : String} {s : CurrentScheme} {a : Authorization} {c : Credential} {key : Octets}
      {declared : String} {digits : List Char} {rounded : Binary64}
      (before : Keyed v lookup r text (.current s) a c key)
      (hdeclared : r.headers.get? Headers.timestamp = some declared)
      (hdigits : Timestamp.digits? declared = some digits)
      (h : v.tolerance < Timestamp.distance now (Timestamp.moment digits))
      (hrounded : Binary64.ofInt? (Timestamp.distance now (Timestamp.moment digits)) =
        some rounded) :
      Rejects v now lookup r (some text) (some CurrentScheme.id)
        (.outsideWindow (Timestamp.side now (Timestamp.moment digits)) rounded v.tolerance)
  | bodiless {text : String} {s : CurrentScheme} {a : Authorization} {c : Credential} {key : Octets}
      {claimed : String} (before : Keyed v lookup r text (.current s) a c key)
      (htime : Scheme.OnTime now v.tolerance r (.current s))
      (hclaimed : r.headers.get? Headers.contentDigest = some claimed) (h : r.body = []) :
      Rejects v now lookup r (some text) (some CurrentScheme.id) .digestWithoutBody
  | digest {text : String} {s : CurrentScheme} {a : Authorization} {c : Credential} {key : Octets}
      {claimed : String} (before : Keyed v lookup r text (.current s) a c key)
      (htime : Scheme.OnTime now v.tolerance r (.current s))
      (hclaimed : r.headers.get? Headers.contentDigest = some claimed) (hbody : r.body ≠ [])
      (h : Algorithm.sha256.hashBase64 r.body ≠ claimed) :
      Rejects v now lookup r (some text) (some CurrentScheme.id) .digestMismatch
  | signature {text : String} {s : Scheme} {a : Authorization} {c : Credential} {key : Octets}
      {message : Octets} (before : Keyed v lookup r text s a c key)
      (htime : Scheme.OnTime now v.tolerance r s) (hdigest : Scheme.DigestFits r s)
      (hmessage : s.signedText r a = .ok message)
      (h : s.digest.macBase64 key message ≠ a.signature) :
      Rejects v now lookup r (some text) (some s.id) .signatureMismatch

variable {v : Verifier} {now : Int} {lookup : String → Option Credential} {r : Request}
  {text : String} {s : Scheme} {a : Authorization} {c : Credential} {key : Octets}

theorem authorized_iff : Authorized v r text s a ↔
    v.registry.schemeOf? (some text) = some s ∧ s.authorize r text = .ok a := by
  rw [Registry.schemeOf?_eq_some_iff, Scheme.authorize_eq_ok_iff]
  constructor
  · rintro ⟨hmem, hidentifies, hparse, hrequired⟩
    exact ⟨⟨hmem, hidentifies⟩, hparse, hrequired⟩
  · rintro ⟨⟨hmem, hidentifies⟩, hparse, hrequired⟩
    exact ⟨hmem, hidentifies, hparse, hrequired⟩

theorem unidentified_iff {value : Option String} : v.registry.schemeOf? value = none ↔
    ∀ text ∈ value, ∀ s ∈ v.registry.schemes, s.identifies text = false := by
  rw [Registry.schemeOf?, List.find?_eq_none]
  cases value with
  | none => simp
  | some text => simp

theorem Authorized.outcome_eq_rejected {error : AuthError} (h : Authorized v r text s a)
    (hrest : lookup a.id = none ∧ error = .unknownId a.id ∨
      ∃ c, lookup a.id = some c ∧
        s.judge (.whole now) v.tolerance r a c = .error (.rejected error)) :
    (v.verifyValue (.whole now) lookup r (some text)).outcome =
      .ok (.rejected (some s.id) error) := by
  obtain ⟨hscheme, hauthorize⟩ := authorized_iff.1 h
  exact verifyValue_eq_rejected_iff.2
    (.inr ⟨text, s, rfl, hscheme, rfl, .inr ⟨a, hauthorize, hrest⟩⟩)

theorem Keyed.outcome_eq_rejected {error : AuthError} (h : Keyed v lookup r text s a c key)
    (hrest : s.checkTime (.whole now) v.tolerance r = .error (.rejected error) ∨
      s.checkTime (.whole now) v.tolerance r = .ok () ∧
        (s.checkBody r = .error error ∨
          s.checkBody r = .ok () ∧ s.checkSignature r a key = .error error)) :
    (v.verifyValue (.whole now) lookup r (some text)).outcome =
      .ok (.rejected (some s.id) error) :=
  h.toAuthorized.outcome_eq_rejected (.inr ⟨c, h.credential,
    Scheme.judge_eq_rejected_iff.2 (.inr ⟨key, h.secret, hrest⟩)⟩)

/-! ## When verification comes to a verdict

From here on the pass is known to come to a verdict, so each timestamp that it reaches is
judgeable. -/

section Verdict

variable
  (hverdict : ∀ fault, (v.verifyValue (.whole now) lookup r (some text)).outcome ≠ .error fault)

namespace Keyed

theorem reachesWindow {s : CurrentScheme} (h : Keyed v lookup r text (.current s) a c key) :
    ReachesWindow v lookup r text s a c :=
  ⟨h.scheme, h.identifies, h.parse, h.required, h.credential, key, h.secret⟩

include hverdict

theorem judgeable {s : CurrentScheme} (h : Keyed v lookup r text (.current s) a c key)
    {declared : String} {digits : List Char}
    (hdeclared : r.headers.get? Headers.timestamp = some declared)
    (hdigits : Timestamp.digits? declared = some digits) :
    Timestamp.Judgeable now v.tolerance digits := by
  refine Timestamp.check_ne_fault_iff.1 (fun fault hcheck => hverdict fault ?_) digits hdigits
  exact verifyValue_eq_fault_iff_check.2
    ⟨text, s, a, c, declared, rfl, h.reachesWindow, hdeclared, hcheck⟩

theorem checkTime_eq_ok_iff (h : Keyed v lookup r text s a c key) :
    s.checkTime (.whole now) v.tolerance r = .ok () ↔ Scheme.OnTime now v.tolerance r s := by
  cases s with
  | legacy s => exact ⟨fun _ => trivial, fun _ => Scheme.checkTime_legacy⟩
  | current s =>
    obtain ⟨declared, hdeclared⟩ := h.reachesWindow.exists_declared
    rw [Scheme.checkTime_current_eq_ok_iff hdeclared]
    constructor
    · rintro ⟨seconds, hcheck⟩
      obtain ⟨digits, hdigits, -, rfl, hwithin⟩ := Timestamp.check_eq_ok_iff.1 hcheck
      exact ⟨declared, digits, hdeclared, hdigits, hwithin⟩
    · rintro ⟨other, digits, hother, hdigits, hwithin⟩
      obtain rfl : declared = other := Option.some.inj (hdeclared.symm.trans hother)
      exact ⟨_, (h.judgeable hverdict hdeclared hdigits).check_eq_ok hdigits hwithin⟩

end Keyed

include hverdict

theorem judge_eq_ok_iff (h : Keyed v lookup r text s a c key) :
    s.judge (.whole now) v.tolerance r a c = .ok () ↔ Accepts v now lookup r text s a c key := by
  rw [Scheme.judge_eq_ok_iff]
  constructor
  · rintro ⟨key', hkey, htime, hbody, hsignature⟩
    obtain rfl : key = key' := Except.ok.inj (h.secret.symm.trans hkey)
    exact ⟨h, (h.checkTime_eq_ok_iff hverdict).1 htime, Scheme.checkBody_eq_ok_iff.1 hbody,
      Scheme.checkSignature_eq_ok_iff.1 hsignature⟩
  · intro haccepts
    exact ⟨key, h.secret, (h.checkTime_eq_ok_iff hverdict).2 haccepts.time,
      Scheme.checkBody_eq_ok_iff.2 haccepts.digest,
      Scheme.checkSignature_eq_ok_iff.2 haccepts.signature⟩

/-- What rejects behind the credential is the first of the last four conditions that fails. -/
theorem rejects_of_judge {error : AuthError} (h : Authorized v r text s a)
    (hlookup : lookup a.id = some c)
    (hjudge : s.judge (.whole now) v.tolerance r a c = .error (.rejected error)) :
    Rejects v now lookup r (some text) (some s.id) error := by
  rcases Scheme.judge_eq_rejected_iff.1 hjudge with ⟨fault, hkey, rfl⟩ | ⟨key, hkey, hrest⟩
  · exact .secret h hlookup hkey
  have hkeyed : Keyed v lookup r text s a c key := ⟨h, hlookup, hkey⟩
  rw [hkeyed.checkTime_eq_ok_iff hverdict, Scheme.checkBody_eq_ok_iff] at hrest
  -- only the second scheme can fail on the time or on the digest
  rcases hrest with htime | ⟨htime, hbody | ⟨hdigest, hsignature⟩⟩
  · cases s with
    | legacy s => exact absurd htime (by simp [Scheme.checkTime_legacy])
    | current s =>
      obtain ⟨declared, hdeclared⟩ := hkeyed.reachesWindow.exists_declared
      rw [Scheme.checkTime_current_eq_error_iff hdeclared, Timestamp.check_eq_rejected_iff] at htime
      rcases htime with ⟨hnone, rfl⟩ | ⟨digits, hdigits, -, hwindow⟩
      · exact .numeral hkeyed hdeclared hnone
      · obtain ⟨hbeyond, -, rounded, hrounded, rfl⟩ :=
          Timestamp.checkWindow_eq_rejected_iff.1 hwindow
        exact .window hkeyed hdeclared hdigits hbeyond hrounded
  · cases s with
    | legacy s => exact absurd hbody (by simp [Scheme.checkBody])
    | current s =>
      obtain ⟨claimed, hclaimed, hdigest⟩ := Scheme.checkBody_current_eq_error_iff.1 hbody
      rcases Scheme.checkContentDigest_eq_error_iff.1 hdigest with ⟨hnil, rfl⟩ | ⟨hne, hhash, rfl⟩
      · exact .bodiless hkeyed htime hclaimed hnil
      · exact .digest hkeyed htime hclaimed hne hhash
  · obtain ⟨message, hmessage⟩ := Scheme.exists_signedText h.required
    obtain ⟨hne, rfl⟩ := (Scheme.checkSignature_eq_error_iff hmessage).1 hsignature
    exact .signature hkeyed htime hdigest hmessage hne

end Verdict

section Outcome

variable {value : Option String}
  (hverdict : ∀ fault, (v.verifyValue (.whole now) lookup r value).outcome ≠ .error fault)

include hverdict

/-- **Verification accepts when all conditions hold**, and only then. -/
theorem outcome_eq_accepted_iff {version identity : String} :
    (v.verifyValue (.whole now) lookup r value).outcome = .ok (.accepted version identity) ↔
      ∃ text s a c key, value = some text ∧ Accepts v now lookup r text s a c key ∧
        version = s.id ∧ identity = c.id := by
  rw [verifyValue_eq_accepted_iff]
  constructor
  · rintro ⟨text, s, a, c, rfl, hscheme, hauthorize, hlookup, hjudge, rfl, rfl⟩
    obtain ⟨key, hkey, -⟩ := Scheme.judge_eq_ok_iff.1 hjudge
    have hkeyed : Keyed v lookup r text s a c key :=
      ⟨authorized_iff.2 ⟨hscheme, hauthorize⟩, hlookup, hkey⟩
    exact ⟨text, s, a, c, key, rfl, (judge_eq_ok_iff hverdict hkeyed).1 hjudge, rfl, rfl⟩
  · rintro ⟨text, s, a, c, key, rfl, h, rfl, rfl⟩
    obtain ⟨hscheme, hauthorize⟩ := authorized_iff.1 h.toAuthorized
    exact ⟨text, s, a, c, rfl, hscheme, hauthorize, h.credential,
      (judge_eq_ok_iff hverdict h.toKeyed).2 h, rfl, rfl⟩

theorem rejects_of_outcome {version : Option String} {error : AuthError}
    (h : (v.verifyValue (.whole now) lookup r value).outcome = .ok (.rejected version error)) :
    Rejects v now lookup r value version error := by
  rcases verifyValue_eq_rejected_iff.1 h with ⟨hscheme, rfl, rfl⟩ |
    ⟨text, s, rfl, hscheme, rfl, herror | ⟨a, hauthorize, hrest⟩⟩
  · exact .scheme (unidentified_iff.1 hscheme)
  · obtain ⟨hmem, hidentifies⟩ := Registry.schemeOf?_eq_some_iff.1 hscheme
    rcases Scheme.authorize_eq_error_iff.1 herror with hparse | ⟨a, hparse, hmissing, rfl⟩
    · exact .parameters hmem hidentifies hparse
    · exact .headers hmem hidentifies hparse hmissing
  · have hauthorized := authorized_iff.2 ⟨hscheme, hauthorize⟩
    rcases hrest with ⟨hlookup, rfl⟩ | ⟨c, hlookup, hjudge⟩
    · exact .credential hauthorized hlookup
    · exact rejects_of_judge hverdict hauthorized hlookup hjudge

theorem outcome_of_rejects {version : Option String} {error : AuthError}
    (h : Rejects v now lookup r value version error) :
    (v.verifyValue (.whole now) lookup r value).outcome = .ok (.rejected version error) := by
  cases h with
  | scheme h => exact verifyValue_eq_rejected_iff.2 (.inl ⟨unidentified_iff.2 h, rfl, rfl⟩)
  | parameters hmem hidentifies h =>
    refine verifyValue_eq_rejected_iff.2 (.inr ⟨_, _, rfl, ?_, rfl, .inl ?_⟩)
    · exact Registry.schemeOf?_eq_some_iff.2 ⟨hmem, hidentifies⟩
    · exact Scheme.authorize_eq_error_iff.2 (.inl h)
  | headers hmem hidentifies hparse h =>
    refine verifyValue_eq_rejected_iff.2 (.inr ⟨_, _, rfl, ?_, rfl, .inl ?_⟩)
    · exact Registry.schemeOf?_eq_some_iff.2 ⟨hmem, hidentifies⟩
    · exact Scheme.authorize_eq_error_iff.2 (.inr ⟨_, hparse, h, rfl⟩)
  | credential before h => exact before.outcome_eq_rejected (.inl ⟨h, rfl⟩)
  | secret before hlookup h =>
    exact before.outcome_eq_rejected
      (.inr ⟨_, hlookup, Scheme.judge_eq_rejected_iff.2 (.inl ⟨_, h, rfl⟩)⟩)
  | numeral before hdeclared h =>
    refine before.outcome_eq_rejected (.inl ?_)
    rw [Scheme.checkTime_current_eq_error_iff hdeclared, Timestamp.check_eq_rejected_iff]
    exact .inl ⟨h, rfl⟩
  | window before hdeclared hdigits h hrounded =>
    refine before.outcome_eq_rejected (.inl ?_)
    rw [Scheme.checkTime_current_eq_error_iff hdeclared]
    exact (before.judgeable hverdict hdeclared hdigits).check_eq_rejected hdigits h hrounded
  | bodiless before htime hclaimed h =>
    refine before.outcome_eq_rejected
      (.inr ⟨(before.checkTime_eq_ok_iff hverdict).2 htime, .inl ?_⟩)
    refine Scheme.checkBody_current_eq_error_iff.2 ⟨_, hclaimed, ?_⟩
    exact Scheme.checkContentDigest_eq_error_iff.2 (.inl ⟨h, rfl⟩)
  | digest before htime hclaimed hbody h =>
    refine before.outcome_eq_rejected
      (.inr ⟨(before.checkTime_eq_ok_iff hverdict).2 htime, .inl ?_⟩)
    refine Scheme.checkBody_current_eq_error_iff.2 ⟨_, hclaimed, ?_⟩
    exact Scheme.checkContentDigest_eq_error_iff.2 (.inr ⟨hbody, h, rfl⟩)
  | signature before htime hdigest hmessage h =>
    exact before.outcome_eq_rejected (.inr ⟨(before.checkTime_eq_ok_iff hverdict).2 htime,
      .inr ⟨Scheme.checkBody_eq_ok_iff.2 hdigest,
        (Scheme.checkSignature_eq_error_iff hmessage).2 ⟨h, rfl⟩⟩⟩)

/-- **Verification rejects where the first condition fails**, with the error of that condition. -/
theorem outcome_eq_rejected_iff {version : Option String} {error : AuthError} :
    (v.verifyValue (.whole now) lookup r value).outcome = .ok (.rejected version error) ↔
      Rejects v now lookup r value version error :=
  ⟨rejects_of_outcome hverdict, outcome_of_rejects hverdict⟩

end Outcome

/-- **What verification comes to, and whose credential it asks for.**  It accepts exactly when all
conditions hold, it rejects as the first one that fails, and the credential of one id is asked for
once the first three of them hold. -/
theorem verdict_iff {value : Option String} {verdict : Verdict}
    (h : (v.verify (.whole now) lookup r value).outcome = .ok verdict) :
    (∀ version identity, verdict = .accepted version identity ↔
      ∃ text s a c key, value.or (r.headers.get? Headers.authorization) = some text ∧
        Accepts v now lookup r text s a c key ∧ version = s.id ∧ identity = c.id) ∧
    (∀ version error, verdict = .rejected version error ↔
      Rejects v now lookup r (value.or (r.headers.get? Headers.authorization)) version error) ∧
    (verdict.version? = none ↔ ∀ text ∈ value.or (r.headers.get? Headers.authorization),
      ∀ s ∈ v.registry.schemes, s.identifies text = false) ∧
    (∀ text s a, value.or (r.headers.get? Headers.authorization) = some text →
      Authorized v r text s a → (v.verify (.whole now) lookup r value).asked = [a.id]) ∧
    ((∀ text s a, value.or (r.headers.get? Headers.authorization) = some text →
      ¬Authorized v r text s a) → (v.verify (.whole now) lookup r value).asked = []) := by
  rw [verify] at h ⊢
  generalize value.or (r.headers.get? Headers.authorization) = used at h ⊢
  have hverdict (fault : NumericFault) :
      (v.verifyValue (.whole now) lookup r used).outcome ≠ .error fault := by
    rw [h]
    simp
  have hiff (other : Verdict) :
      verdict = other ↔ (v.verifyValue (.whole now) lookup r used).outcome = .ok other := by
    rw [h, Except.ok.injEq]
  refine ⟨fun version identity => ?_, fun version error => ?_, ?_, ?_, fun hnone => ?_⟩
  · rw [hiff, outcome_eq_accepted_iff hverdict]
  · rw [hiff, outcome_eq_rejected_iff hverdict]
  · rw [version?_eq_none_iff h, unidentified_iff]
  · rintro text s a rfl hauthorized
    obtain ⟨hscheme, hauthorize⟩ := authorized_iff.1 hauthorized
    exact asked_of_authorize hscheme hauthorize
  · refine asked_eq_nil fun text s a hused hscheme hauthorize => ?_
    exact hnone text s a hused (authorized_iff.2 ⟨hscheme, hauthorize⟩)

/-! A request with three faults: it is late, it declares a digest without a body, and its signature
is wrong.  Only the first of them is told. -/

def lateRequest : Request where
  method := "GET"
  host := "example.com"
  path := "/"
  query := ""
  headers := ⟨[(Headers.timestamp, "0"), (Headers.contentDigest, "x")]⟩
  body := []

def lateValue : String := "acquia-http-hmac id=\"a\",nonce=\"n\",signature=\"x\",version=\"2.0\""

def lateError : AuthError := .outsideWindow .past (.finite false 6006562019606528 (-22)) 900

theorem late_keyed : Keyed zerosVerifier zerosLookup lateRequest lateValue
    (.current ⟨.sha256, []⟩) zerosAuthorization ⟨"a", "QQ=="⟩ [65] where
  scheme := zeros_reachesWindow.scheme
  identifies := zeros_reachesWindow.identifies
  parse := zeros_reachesWindow.parse
  required := by decide
  credential := rfl
  secret := by decide

theorem late_check :
    Timestamp.check (.whole 1432075982) 900 (.text "0") = .error (.rejected lateError) := by
  have hrounded : Binary64.ofInt? (Timestamp.distance 1432075982 (Timestamp.moment ['0'])) =
      some (.finite false 6006562019606528 (-22)) := by decide
  have hside : Timestamp.side 1432075982 (Timestamp.moment ['0']) = .past := by decide
  refine Timestamp.check_eq_rejected_iff.2 (.inr ⟨['0'], by decide, by decide, ?_⟩)
  refine Timestamp.checkWindow_eq_rejected_iff.2
    ⟨by decide, by decide +kernel, _, hrounded, ?_⟩
  rw [hside, lateError]

theorem late_rejected :
    (zerosVerifier.verify (.whole 1432075982) zerosLookup lateRequest (some lateValue)).outcome =
      .ok (.rejected (some "v2") lateError) ∧
    (zerosVerifier.verify (.whole 1432075982) zerosLookup lateRequest (some lateValue)).asked =
      ["a"] ∧
    Rejects zerosVerifier 1432075982 zerosLookup lateRequest (some lateValue) (some "v2")
      lateError := by
  have hdeclared : lateRequest.headers.get? Headers.timestamp = some "0" := by decide +kernel
  have h : (zerosVerifier.verify (.whole 1432075982) zerosLookup lateRequest
      (some lateValue)).outcome = .ok (.rejected (some "v2") lateError) :=
    late_keyed.outcome_eq_rejected
      (.inl ((Scheme.checkTime_current_eq_error_iff hdeclared).2 late_check))
  obtain ⟨-, hrejected, -, hasked, -⟩ := verdict_iff h
  exact ⟨h, hasked _ _ _ rfl late_keyed.toAuthorized, (hrejected _ _).1 rfl⟩

end Verifier
end SignedHttp
