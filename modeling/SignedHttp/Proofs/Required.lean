import SignedHttp.Proofs.Precedence
import SignedHttp.Proofs.Raw.Signable

/-!
# Header fields that are missing

Header fields are asked for twice.  `Scheme.requiredHeaders` lists the names that a request must have
before its credential is looked up.  The signed text asks for the same names in another order, and
its texts must be written besides, which no check before the credential makes sure of.

* `Scheme.kind_of_judge`: behind the credential nothing is missing any more.
* `Verifier.verifyValue_eq_missing_iff`: the one place where a header field is reported as missing.
* `Verifier.reported_before_lookup`: when the signed text lacks a header field and when it can be
  written, and that what is missing is reported before any credential is asked for.
-/

set_option autoImplicit false

namespace SignedHttp

/-! ## The kinds of errors

A check reports errors of its own kinds, and only the one for required header fields reports that a
header field is missing. -/

namespace Timestamp

variable {clock : Clock} {tolerance : Int} {declared : Value} {error : AuthError}

theorem kind_of_read (h : read declared = .error (.rejected error)) :
    error.kind = .invalidRequiredHeader := by
  cases declared with
  | text value =>
    obtain ⟨-, rfl⟩ := readText_eq_rejected_iff.1 h
    rfl
  | _ =>
    obtain rfl := Halt.rejected.inj (Except.error.inj h)
    rfl

theorem kind_of_turnAway {direction : Direction} {distance : Binary64}
    (h : turnAway direction distance tolerance = .rejected error) :
    error.kind = .timestampRange := by
  rw [turnAway] at h
  split at h
  · obtain rfl := Halt.rejected.inj h
    rfl
  · exact absurd h (by simp)

theorem kind_of_checkWindow {seconds : Int}
    (h : checkWindow clock tolerance seconds = .error (.rejected error)) :
    error.kind = .timestampRange := by
  cases clock with
  | whole now =>
    dsimp only [checkWindow] at h
    split at h
    · exact absurd h (by simp)
    · split at h
      · exact absurd h (by simp)
      · exact kind_of_turnAway (Except.error.inj h)
  | real now =>
    dsimp only [checkWindow] at h
    split at h
    · exact absurd h (by simp)
    · split at h
      · exact kind_of_turnAway (Except.error.inj h)
      · exact absurd h (by simp)

theorem kind_of_check (h : check clock tolerance declared = .error (.rejected error)) :
    error.kind = .invalidRequiredHeader ∨ error.kind = .timestampRange := by
  rcases bind_eq_error_iff.1 h with hread | ⟨seconds, -, h⟩
  · exact .inl (kind_of_read hread)
  · rcases bind_eq_error_iff.1 h with hwindow | ⟨_, -, h⟩
    · exact .inr (kind_of_checkWindow hwindow)
    · exact absurd h (by simp [pure, Except.pure])

end Timestamp

namespace Scheme

variable {s : Scheme} {clock : Clock} {tolerance : Int} {r : Request} {a : Authorization}
  {c : Credential} {text : String} {error : AuthError}

theorem kind_of_parse (h : s.parse text = .error error) : error.kind = .invalidAuthHeader := by
  cases s with
  | legacy s =>
    change s.parse text = _ at h
    rw [LegacyScheme.parse] at h
    split at h
    · rw [← Except.error.inj h]
      rfl
    · split at h
      · split at h
        · rw [← Except.error.inj h]
          rfl
        · exact absurd h (by simp)
      · rw [← Except.error.inj h]
        rfl
  | current s =>
    change s.parse text = _ at h
    rw [CurrentScheme.parse] at h
    split at h
    · rw [← Except.error.inj h]
      rfl
    · dsimp only at h
      split at h
      · exact absurd h (by simp)
      · rw [← Except.error.inj h]
        rfl

theorem kind_of_checkTime (h : s.checkTime clock tolerance r = .error (.rejected error)) :
    error.kind = .invalidRequiredHeader ∨ error.kind = .timestampRange := by
  cases s with
  | legacy s => exact absurd h (by simp [checkTime_legacy])
  | current s => exact Timestamp.kind_of_check (map_eq_error_iff.1 h)

theorem kind_of_checkBody (h : s.checkBody r = .error error) :
    error.kind = .invalidRequiredHeader := by
  cases s with
  | legacy s => exact absurd h (by simp [checkBody])
  | current s =>
    obtain ⟨claimed, -, hdigest⟩ := checkBody_current_eq_error_iff.1 h
    rcases checkContentDigest_eq_error_iff.1 hdigest with ⟨-, rfl⟩ | ⟨-, -, rfl⟩
    · rfl
    · rfl

/-- **Behind the credential nothing is missing** once the required header fields are there. -/
theorem kind_of_judge (hrequired : ∀ name ∈ s.requiredHeaders r a, r.headers.contains name = true)
    (h : s.judge clock tolerance r a c = .error (.rejected error)) :
    error.kind ≠ .missingRequiredHeader := by
  rcases judge_eq_rejected_iff.1 h with
    ⟨fault, -, rfl⟩ | ⟨key, -, htime | ⟨-, hbody | ⟨-, hsignature⟩⟩⟩
  · exact fun hkind => by cases hkind
  · rcases kind_of_checkTime htime with hkind | hkind
    · simp [hkind]
    · simp [hkind]
  · simp [kind_of_checkBody hbody]
  · obtain ⟨message, hmessage⟩ := exists_signedText hrequired
    obtain ⟨-, rfl⟩ := (checkSignature_eq_error_iff hmessage).1 hsignature
    exact fun hkind => by cases hkind

end Scheme

/-! ## The pass over a request -/

namespace Verifier

variable {v : Verifier} {clock : Clock} {lookup : String → Option Credential} {r : Request}
  {value : Option String}

theorem kind_unidentified : (unidentified value).kind = .invalidAuthHeader := by
  rw [unidentified]
  split
  · rfl
  · rfl

/-- **That a header field is missing is reported in one place**, with all names that are. -/
theorem verifyValue_eq_missing_iff {version : Option String} {error : AuthError} :
    (v.verifyValue clock lookup r value).outcome = .ok (.rejected version error) ∧
        error.kind = .missingRequiredHeader ↔
      ∃ text s a, value = some text ∧ v.registry.schemeOf? (some text) = some s ∧
        s.parse text = .ok a ∧ s.missing r a ≠ [] ∧ version = some s.id ∧
        error = .missingHeaders (s.missing r a) := by
  rw [verifyValue_eq_rejected_iff]
  constructor
  · rintro ⟨⟨-, -, rfl⟩ | ⟨text, s, rfl, hscheme, rfl, herror | ⟨a, hauthorize, hrest⟩⟩, hkind⟩
    · exact absurd (kind_unidentified.symm.trans hkind) (by decide)
    · rcases Scheme.authorize_eq_error_iff.1 herror with hparse | ⟨a, hparse, hmissing, rfl⟩
      · exact absurd ((Scheme.kind_of_parse hparse).symm.trans hkind) (by decide)
      · exact ⟨text, s, a, rfl, hscheme, hparse, hmissing, rfl, rfl⟩
    · rcases hrest with ⟨-, rfl⟩ | ⟨c, -, hjudge⟩
      · cases hkind
      · exact absurd hkind (Scheme.kind_of_judge (Scheme.authorize_eq_ok_iff.1 hauthorize).2 hjudge)
  · rintro ⟨text, s, a, rfl, hscheme, hparse, hmissing, rfl, rfl⟩
    exact ⟨.inr ⟨text, s, rfl, hscheme, rfl,
      .inl (Scheme.authorize_eq_error_iff.2 (.inr ⟨a, hparse, hmissing, rfl⟩))⟩, rfl⟩

/-- **A header field that is missing is reported before any credential is asked for**, and never
after it.  The signed text lacks a header field exactly when a required one is absent and everything
that is percent-encoded before can be written.  Once all required ones are there it lacks none, and
there is a signed text exactly when all of it can be written, as it always can without lone
surrogates. -/
theorem reported_before_lookup (v : Verifier) (clock : Clock)
    (lookup : String → Option Credential) (r : Request) (value : Option String) :
    let used := value.or (r.headers.get? Headers.authorization)
    let pass := v.verify clock lookup r value
    (∀ (r : Raw.Request) (a : Raw.Authorization),
      ((∃ e, Raw.CurrentScheme.signedText r a = .error (.cause e)) ↔
        Raw.CurrentScheme.Quotable r a ∧
          ∃ name ∈ Raw.CurrentScheme.requiredHeaders r a, r.headers.contains name = false) ∧
      ((∃ octets, Raw.CurrentScheme.signedText r a = .ok octets) ↔
        (∀ name ∈ Raw.CurrentScheme.requiredHeaders r a, r.headers.contains name = true) ∧
          Raw.CurrentScheme.Quotable r a ∧ Raw.CurrentScheme.Writable r a) ∧
      ((∃ e, Raw.CurrentScheme.signedText r a = .error (.encoding e)) ↔
        ¬Raw.CurrentScheme.Quotable r a ∨
          (∀ name ∈ Raw.CurrentScheme.requiredHeaders r a, r.headers.contains name = true) ∧
            ¬Raw.CurrentScheme.Writable r a)) ∧
    (∀ (s : Raw.Scheme) (r : Raw.Request) (a : Raw.Authorization),
      (∀ name ∈ s.requiredHeaders r a, r.headers.contains name = true) →
      (∀ e, s.signedText r a ≠ .error (.cause e)) ∧
        ((∃ octets, s.signedText r a = .ok octets) ↔ s.Writable r a)) ∧
    (∀ (s : Scheme) text a, s.authorize r text = .ok a →
      ∃ octets, s.raw.signedText r.raw a.raw = .ok octets) ∧
    (∀ version error, pass.outcome = .ok (.rejected version error) ∧
        error.kind = .missingRequiredHeader ↔
      ∃ text s a, used = some text ∧ v.registry.schemeOf? (some text) = some s ∧
        s.parse text = .ok a ∧ s.missing r a ≠ [] ∧ version = some s.id ∧
        error = .missingHeaders (s.missing r a)) ∧
    ∀ version error, pass.outcome = .ok (.rejected version error) →
      error.kind = .missingRequiredHeader → pass.asked = [] := by
  dsimp only [verify]
  refine ⟨fun r a => ⟨?_, ?_, Raw.CurrentScheme.exists_signedText_encoding_iff⟩,
    fun s r a hrequired =>
    ⟨Raw.Scheme.signedText_ne_cause hrequired, Raw.Scheme.exists_signedText_iff hrequired⟩,
    fun s text a hauthorize => ?_, fun version error => verifyValue_eq_missing_iff,
    fun version error houtcome hkind => ?_⟩
  · rw [Raw.CurrentScheme.exists_signedText_cause_iff, Raw.CurrentScheme.Complete]
    simp only [not_forall, Bool.not_eq_true, exists_prop]
  · rw [Raw.CurrentScheme.exists_signedText_iff, Raw.CurrentScheme.Complete, and_left_comm]
  · obtain ⟨octets, hoctets⟩ := Scheme.exists_signedText (Scheme.authorize_eq_ok_iff.1 hauthorize).2
    rw [Scheme.signedText_raw, hoctets]
    exact ⟨octets, rfl⟩
  · obtain ⟨text, s, a, hused, hscheme, hparse, hmissing, -, -⟩ :=
      verifyValue_eq_missing_iff.1 ⟨houtcome, hkind⟩
    rw [hused, verifyValue_eq_reject hscheme
      (Scheme.authorize_eq_error_iff.2 (.inr ⟨a, hparse, hmissing, rfl⟩))]
    rfl

/-! A request with a body and no header fields at all, under a value that names one more: the check
lists what is required, and no credential is asked for.  Then a request that has all it needs, with
a lone surrogate for its nonce. -/

def bareRequest : Request where
  method := "POST"
  host := "example.com"
  path := "/"
  query := ""
  headers := ⟨[]⟩
  body := [65]

def bareValue : String :=
  "acquia-http-hmac headers=\"X-Custom\",id=\"a\",nonce=\"n\",signature=\"x\",version=\"2.0\""

def bareAuthorization : Authorization := { zerosAuthorization with headers := ["X-Custom"] }

theorem bare_missing :
    (zerosVerifier.verify (.whole 0) zerosLookup bareRequest (some bareValue)).outcome =
      .ok (.rejected (some "v2") (.missingHeaders
        ["X-Authorization-Timestamp", "X-Authorization-Content-SHA256", "X-Custom"])) ∧
    (zerosVerifier.verify (.whole 0) zerosLookup bareRequest (some bareValue)).asked = [] ∧
    (∃ octets, (Scheme.current ⟨.sha256, []⟩).raw.signedText lateRequest.raw
      zerosAuthorization.raw = .ok octets) ∧
    ¬∃ octets, (Raw.Scheme.current ⟨.sha256, []⟩).signedText Raw.Registry.sampleRequest.raw
      Raw.Registry.unreadableAuthorization = .ok octets := by
  obtain ⟨-, hraw, -, hreported, hasked⟩ :=
    reported_before_lookup zerosVerifier (.whole 0) zerosLookup bareRequest (some bareValue)
  obtain ⟨-, -, hlate, -⟩ :=
    reported_before_lookup zerosVerifier (.whole 0) zerosLookup lateRequest (some lateValue)
  have hscheme : zerosVerifier.registry.schemeOf? (some bareValue) =
      some (.current ⟨.sha256, []⟩) := by
    decide
  have hparse : CurrentScheme.parse ⟨.sha256, []⟩ bareValue = .ok bareAuthorization :=
    CurrentScheme.parse_eq_ok_iff.2 (by decide)
  have hmissing : (Scheme.current ⟨.sha256, []⟩).missing bareRequest bareAuthorization =
      ["X-Authorization-Timestamp", "X-Authorization-Content-SHA256", "X-Custom"] := by
    decide
  obtain ⟨houtcome, hkind⟩ := (hreported (some "v2") _).2
    ⟨_, _, _, rfl, hscheme, hparse, by simp [hmissing], rfl, rfl⟩
  rw [hmissing] at houtcome
  obtain ⟨-, hiff⟩ := hraw (.current ⟨.sha256, []⟩) Raw.Registry.sampleRequest.raw
    Raw.Registry.unreadableAuthorization (by decide)
  have hnot : ¬Raw.Registry.unreadable.IsText := by decide
  exact ⟨houtcome, hasked _ _ houtcome rfl,
    hlate _ _ _ (Scheme.authorize_eq_ok_iff.2 ⟨late_keyed.parse, late_keyed.required⟩),
    fun h => hnot (hiff.1 h).1.nonce⟩

theorem not_forall_signedText_eq_cause_iff :
    ¬∀ (r : Raw.Request) (a : Raw.Authorization),
      (∃ e, Raw.CurrentScheme.signedText r a = .error (.cause e)) ↔
        ∃ name ∈ Raw.CurrentScheme.requiredHeaders r a, r.headers.contains name = false := by
  intro h
  have habsent : ∃ name ∈ Raw.CurrentScheme.requiredHeaders Raw.Registry.bareRequest.raw
      Raw.Registry.unreadableAuthorization,
      Raw.Registry.bareRequest.raw.headers.contains name = false :=
    ⟨_, List.mem_cons_self, rfl⟩
  obtain ⟨hquotable, -⟩ := Raw.CurrentScheme.exists_signedText_cause_iff.1 ((h _ _).2 habsent)
  have hnot : ¬Raw.Registry.unreadable.IsText := by decide
  exact hnot hquotable.nonce

end Verifier
end SignedHttp
