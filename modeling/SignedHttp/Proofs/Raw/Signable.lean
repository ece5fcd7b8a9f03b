import SignedHttp.Proofs.Raw.Response
import SignedHttp.Proofs.Raw.Strings
import SignedHttp.Proofs.Registry

/-!
# When a request is signed and when it is refused

Signing looks for faults in four places, one after the other: the scheme, the parameters, the
secret and the header fields.  It reports the first one that it finds.  Where there is none the
request is signed, unless a text that has to be written cannot be.  The query and the parameters are
written before the header fields are looked for, so such a text may hide a fault, too.

* `Raw.CurrentScheme.Signable`: what the second scheme asks for.
* `Raw.CurrentScheme.Refuses`, `Raw.Registry.Refuses`: the faults in their order, one rule for each.
* `Raw.Registry.Escapes`: the requests of which nothing is told.
* `Raw.Registry.sign_outcome`: a request is signed, refused or escapes, and when each is the case.
-/

set_option autoImplicit false

namespace SignedHttp
namespace Raw

open Points (ofString)

variable {r : Request} {c : Credential} {a : Authorization}

/-! ## The steps -/

namespace Failure

variable {ε ε' : Type} {f : ε → ε'} {failure : Failure ε}

theorem map_eq_cause_iff {error : ε'} :
    failure.map f = .cause error ↔ ∃ cause, failure = .cause cause ∧ f cause = error := by
  cases failure with
  | cause cause => simp [map]
  | encoding e => simp [map]

theorem map_eq_encoding_iff {e : EncodeError} :
    failure.map f = .encoding e ↔ failure = .encoding e := by
  cases failure with
  | cause cause => simp [map]
  | encoding e => simp [map]

end Failure

theorem CurrentScheme.exists_render_iff :
    (∃ header, CurrentScheme.render a = .ok header) ↔
      (∀ name ∈ a.headers, name.IsText) ∧ a.id.IsText ∧ a.nonce.IsText ∧ a.realm.IsText := by
  have hnames : (∃ names, a.headers.mapM Points.quote = .ok names) ↔
      ∀ name ∈ a.headers, name.IsText := by
    simp only [exists_mapM_eq_ok_iff, Points.exists_quote_iff]
  rw [← hnames, ← Points.exists_quote_iff, ← Points.exists_quote_iff, ← Points.exists_quote_iff]
  constructor
  · rintro ⟨header, h⟩
    obtain ⟨names, hnames, h⟩ := bind_eq_ok_iff.1 h
    obtain ⟨id, hid, h⟩ := bind_eq_ok_iff.1 h
    obtain ⟨nonce, hnonce, h⟩ := bind_eq_ok_iff.1 h
    obtain ⟨realm, hrealm, -⟩ := bind_eq_ok_iff.1 h
    exact ⟨⟨names, hnames⟩, ⟨id, hid⟩, ⟨nonce, hnonce⟩, realm, hrealm⟩
  · rintro ⟨⟨names, hnames⟩, ⟨id, hid⟩, ⟨nonce, hnonce⟩, realm, hrealm⟩
    rw [render, hnames, hid, hnonce, hrealm]
    exact ⟨_, rfl⟩

namespace Scheme

variable {s : Scheme}

/-- What can be signed can be written into a header field. -/
theorem exists_render_of_signedText {text : Octets} (h : s.signedText r a = .ok text)
    (signature : String) : ∃ header, s.render (a.withSignature (ofString signature)) = .ok header := by
  cases s with
  | legacy digest => exact ⟨_, rfl⟩
  | current s =>
    obtain ⟨hquotable, -, hwritable⟩ := CurrentScheme.exists_signedText_iff.1 ⟨text, h⟩
    exact CurrentScheme.exists_render_iff.2
      ⟨hwritable.names, hquotable.id, hquotable.nonce, hquotable.realm⟩

/-- **A request is signed when each step succeeds.** -/
theorem exists_sign_iff :
    (∃ signed, s.sign r c a = .ok signed) ↔
      s.check a = .ok () ∧ (∃ key, s.key c = .ok key) ∧ ∃ text, s.signedText r a = .ok text := by
  constructor
  · rintro ⟨signed, h⟩
    obtain ⟨_, hcheck, h⟩ := bind_eq_ok_iff.1 h
    obtain ⟨key, hkey, h⟩ := bind_eq_ok_iff.1 h
    obtain ⟨text, htext, -⟩ := bind_eq_ok_iff.1 h
    exact ⟨mapError_eq_ok_iff.1 hcheck, ⟨key, mapError_eq_ok_iff.1 hkey⟩, text,
      mapError_eq_ok_iff.1 htext⟩
  · rintro ⟨hcheck, ⟨key, hkey⟩, text, htext⟩
    obtain ⟨header, hheader⟩ := exists_render_of_signedText htext (s.digest.macBase64 key text)
    refine ⟨⟨s.digest.macBase64 key text, header⟩, ?_⟩
    rw [sign, hcheck, hkey, htext]
    show (Except.mapError _ (s.render (a.withSignature _)) >>= _) = _
    rw [hheader]
    rfl

/-- **The failure of a step is told when the steps before it succeed.** -/
theorem sign_eq_error_iff {failure : Failure SigningError} :
    s.sign r c a = .error failure ↔
      (∃ fault, s.check a = .error fault ∧ .cause (.parameters fault) = failure) ∨
        s.check a = .ok () ∧
          ((∃ fault, s.key c = .error fault ∧ fault.map .secret = failure) ∨
            (∃ key, s.key c = .ok key) ∧
              ∃ fault, s.signedText r a = .error fault ∧ fault.map .missingHeader = failure) := by
  rw [sign, check_bind_eq_error_iff, mapError_eq_error_iff, mapError_eq_ok_iff]
  refine or_congr Iff.rfl (and_congr Iff.rfl ?_)
  rw [bind_eq_error_iff, mapError_eq_error_iff]
  refine or_congr Iff.rfl ?_
  simp only [mapError_eq_ok_iff]
  constructor
  · rintro ⟨key, hkey, h⟩
    refine ⟨⟨key, hkey⟩, ?_⟩
    rcases bind_eq_error_iff.1 h with htext | ⟨text, htext, h⟩
    · exact mapError_eq_error_iff.1 htext
    · rw [mapError_eq_ok_iff] at htext
      obtain ⟨header, hheader⟩ := exists_render_of_signedText htext (s.digest.macBase64 key text)
      simp only [hheader] at h
      cases h
  · rintro ⟨⟨key, hkey⟩, h⟩
    exact ⟨key, hkey, bind_eq_error_iff.2 (.inl (mapError_eq_error_iff.2 h))⟩

end Scheme

namespace CurrentScheme

variable {s : CurrentScheme}

/-! ## What is asked for -/

/-- Parameters that the scheme signs. -/
structure Permitted (s : CurrentScheme) (a : Authorization) : Prop where
  id : a.id ≠ []
  nonce : a.nonce ≠ []
  version : a.version = ofString "2.0"
  allowed : s.allowed = [] ∨ ∀ name ∈ a.headers, name.lower ∈ s.allowed.map Points.lower

/-- A secret in base 64 that stands for at least one octet. -/
def Usable (c : Credential) : Prop :=
  ∃ key, decodeStrict? c.secret = some key ∧ key ≠ []

/-- A request that has all that the scheme asks for. -/
structure Signable (s : CurrentScheme) (r : Request) (c : Credential) (a : Authorization) :
    Prop where
  permitted : s.Permitted a
  usable : Usable c
  headers : ∀ name ∈ a.headers, r.headers.contains name = true
  timestamp : r.headers.contains (ofString Headers.timestamp) = true
  contentDigest : r.body ≠ [] → r.headers.contains (ofString Headers.contentDigest) = true

/-- The faults for which the scheme refuses to sign.  Each rule asks that the earlier ones do not
apply. -/
inductive Refuses (s : CurrentScheme) (r : Request) (c : Credential) (a : Authorization) :
    SigningError → Prop
  /-- Parameters are blank. -/
  | blank (hblank : blankParameters a ≠ []) :
      Refuses s r c a (.parameters (.missing (blankParameters a)))
  /-- The version is another one. -/
  | unsupported (hpresent : blankParameters a = []) (hversion : a.version ≠ ofString "2.0") :
      Refuses s r c a (.parameters (.unsupportedVersion a.version))
  /-- There are header fields that may not be signed. -/
  | disallowed (hpresent : blankParameters a = []) (hversion : a.version = ofString "2.0")
      (hnames : s.disallowed a.headers ≠ []) :
      Refuses s r c a (.parameters (.headersNotAllowed (s.disallowed a.headers)))
  /-- The secret is not in base 64. -/
  | notBase64 (hpermitted : s.Permitted a) (hsecret : decodeStrict? c.secret = none) :
      Refuses s r c a (.secret (.notBase64 c.id))
  /-- The secret stands for nothing. -/
  | empty (hpermitted : s.Permitted a) (hsecret : decodeStrict? c.secret = some []) :
      Refuses s r c a (.secret (.empty c.id))
  /-- A header field is absent, the first one of those that the signed text asks for, and what is
  written before it could be written. -/
  | absent {header : MissingHeader} (hpermitted : s.Permitted a) (husable : Usable c)
      (hquotable : Quotable r a) (hheader : (sought r a).find? (isAbsent r) = some header) :
      Refuses s r c a (.missingHeader header)

/-! ## The parameters -/

theorem disallowed_eq_nil_iff {names : List Points} :
    s.disallowed names = [] ↔
      s.allowed = [] ∨ ∀ name ∈ names, name.lower ∈ s.allowed.map Points.lower := by
  have hallows (name : Points) : s.allows name = true ↔
      s.allowed = [] ∨ name.lower ∈ s.allowed.map Points.lower := by
    simp [allows, Headers.sameName]
  simp only [disallowed, List.filter_eq_nil_iff, Bool.not_eq_true', Bool.not_eq_false, hallows]
  by_cases hall : s.allowed = []
  · simp [hall]
  · simp [hall]

theorem blankParameters_eq_nil_iff :
    blankParameters a = [] ↔ a.id ≠ [] ∧ a.nonce ≠ [] ∧ a.version ≠ [] := by
  simp [blankParameters]

theorem check_eq_error_iff {fault : ParameterFault} :
    s.check a = .error fault ↔
      blankParameters a ≠ [] ∧ fault = .missing (blankParameters a) ∨
        blankParameters a = [] ∧
          (a.version ≠ ofString "2.0" ∧ fault = .unsupportedVersion a.version ∨
            a.version = ofString "2.0" ∧ s.disallowed a.headers ≠ [] ∧
              fault = .headersNotAllowed (s.disallowed a.headers)) := by
  rw [check, version, SignedHttp.CurrentScheme.version]
  by_cases hblank : blankParameters a = []
  · by_cases hversion : a.version = ofString "2.0"
    · by_cases hnames : s.disallowed a.headers = []
      · simp [hblank, hversion, hnames]
      · simp [hblank, hversion, hnames, eq_comm (a := fault)]
    · simp [hblank, hversion, eq_comm (a := fault)]
  · simp [hblank, eq_comm (a := fault)]

theorem check_eq_ok_iff : s.check a = .ok () ↔ s.Permitted a := by
  have hcheck : s.check a = .ok () ↔ blankParameters a = [] ∧ a.version = ofString "2.0" ∧
      s.disallowed a.headers = [] := by
    rw [check, version, SignedHttp.CurrentScheme.version]
    by_cases hblank : blankParameters a = []
    · by_cases hversion : a.version = ofString "2.0"
      · by_cases hnames : s.disallowed a.headers = []
        · simp [hblank, hversion, hnames]
        · simp [hblank, hversion, hnames]
      · simp [hblank, hversion]
    · simp [hblank]
  rw [hcheck, blankParameters_eq_nil_iff, disallowed_eq_nil_iff]
  constructor
  · rintro ⟨⟨hid, hnonce, -⟩, hversion, hallowed⟩
    exact ⟨hid, hnonce, hversion, hallowed⟩
  · intro h
    have hpresent : a.version ≠ [] := h.version ▸ List.cons_ne_nil _ _
    exact ⟨⟨h.id, h.nonce, hpresent⟩, h.version, h.allowed⟩

/-! ## The secret -/

theorem exists_key_iff : (∃ key, CurrentScheme.key c = .ok key) ↔ Usable c := by
  rw [CurrentScheme.key, Usable]
  cases decodeStrict? c.secret with
  | none => simp
  | some bytes =>
    cases bytes with
    | nil => simp
    | cons b bytes => simp

theorem key_eq_error_iff {fault : SecretFault} :
    CurrentScheme.key c = .error fault ↔
      decodeStrict? c.secret = none ∧ fault = .notBase64 c.id ∨
        decodeStrict? c.secret = some [] ∧ fault = .empty c.id := by
  rw [CurrentScheme.key]
  cases decodeStrict? c.secret with
  | none => simp [eq_comm (a := fault)]
  | some bytes =>
    cases bytes with
    | nil => simp [eq_comm (a := fault)]
    | cons b bytes => simp

/-! ## The header fields -/

theorem complete_iff :
    Complete r a ↔ r.headers.contains (ofString Headers.timestamp) = true ∧
      (r.body ≠ [] → r.headers.contains (ofString Headers.contentDigest) = true) ∧
      ∀ name ∈ a.headers, r.headers.contains name = true := by
  rw [Complete, requiredHeaders]
  cases r.body with
  | nil => simp
  | cons b body => simp

theorem signable_iff : s.Signable r c a ↔ s.Permitted a ∧ Usable c ∧ Complete r a := by
  rw [complete_iff]
  exact ⟨fun h => ⟨h.permitted, h.usable, h.timestamp, h.contentDigest, h.headers⟩,
    fun ⟨hpermitted, husable, htimestamp, hdigest, hheaders⟩ =>
      ⟨hpermitted, husable, hheaders, htimestamp, hdigest⟩⟩

/-! ## Signing -/

theorem scheme_check_iff : (Scheme.current s).check a = .ok () ↔ s.Permitted a := check_eq_ok_iff

theorem exists_scheme_key_iff : (∃ key, (Scheme.current s).key c = .ok key) ↔ Usable c := by
  simp only [Scheme.key, mapError_eq_ok_iff, exists_key_iff]

/-- **A request is signed when it has all that the scheme asks for and everything can be written.** -/
theorem exists_sign_iff :
    (∃ signed, (Scheme.current s).sign r c a = .ok signed) ↔
      s.Signable r c a ∧ Quotable r a ∧ Writable r a := by
  have htext : (∃ text, (Scheme.current s).signedText r a = .ok text) ↔ _ := exists_signedText_iff
  rw [Scheme.exists_sign_iff, scheme_check_iff, exists_scheme_key_iff, htext, signable_iff]
  tauto

/-- What is told of the secret is what its own check finds. -/
theorem exists_secret_cause_iff {error : SigningError} :
    (∃ fault, (Scheme.current s).key c = .error fault ∧
        fault.map SigningError.secret = .cause error) ↔
      ∃ fault, CurrentScheme.key c = .error fault ∧ .secret fault = error := by
  simp only [Scheme.key, mapError_eq_error_iff, Failure.map_eq_cause_iff]
  constructor
  · rintro ⟨_, ⟨fault, hfault, rfl⟩, _, hcause, rfl⟩
    exact ⟨fault, hfault, congrArg _ (Failure.cause.inj hcause)⟩
  · rintro ⟨fault, hfault, rfl⟩
    exact ⟨_, ⟨fault, hfault, rfl⟩, fault, rfl, rfl⟩

/-- What is told of the header fields is the first one that is absent. -/
theorem exists_header_cause_iff {error : SigningError} :
    (∃ fault, (Scheme.current s).signedText r a = .error fault ∧
        fault.map SigningError.missingHeader = .cause error) ↔
      ∃ header, (Quotable r a ∧ (sought r a).find? (isAbsent r) = some header) ∧
        .missingHeader header = error := by
  simp only [Failure.map_eq_cause_iff, ← signedText_eq_cause_iff]
  exact ⟨fun ⟨_, h, header, hheader, herror⟩ => ⟨header, hheader ▸ h, herror⟩,
    fun ⟨header, h, herror⟩ => ⟨_, h, header, rfl, herror⟩⟩

/-- **The fault that is told is the first one.** -/
theorem sign_eq_cause_iff {error : SigningError} :
    (Scheme.current s).sign r c a = .error (.cause error) ↔ s.Refuses r c a error := by
  rw [Scheme.sign_eq_error_iff, scheme_check_iff, exists_scheme_key_iff, exists_secret_cause_iff,
    exists_header_cause_iff]
  refine ⟨?_, fun h => ?_⟩
  · rintro (⟨fault, hfault, herror⟩ | ⟨hpermitted, ⟨fault, hfault, rfl⟩ |
      ⟨husable, header, ⟨hquotable, hheader⟩, rfl⟩⟩)
    · obtain rfl := Failure.cause.inj herror
      rcases check_eq_error_iff.1 hfault with
        ⟨hblank, rfl⟩ | ⟨hpresent, ⟨hversion, rfl⟩ | ⟨hversion, hnames, rfl⟩⟩
      · exact .blank hblank
      · exact .unsupported hpresent hversion
      · exact .disallowed hpresent hversion hnames
    · rcases key_eq_error_iff.1 hfault with ⟨hsecret, rfl⟩ | ⟨hsecret, rfl⟩
      · exact .notBase64 hpermitted hsecret
      · exact .empty hpermitted hsecret
    · exact .absent hpermitted husable hquotable hheader
  · cases h with
    | blank hblank => exact .inl ⟨_, check_eq_error_iff.2 (.inl ⟨hblank, rfl⟩), rfl⟩
    | unsupported hpresent hversion =>
      exact .inl ⟨_, check_eq_error_iff.2 (.inr ⟨hpresent, .inl ⟨hversion, rfl⟩⟩), rfl⟩
    | disallowed hpresent hversion hnames =>
      exact .inl ⟨_, check_eq_error_iff.2 (.inr ⟨hpresent, .inr ⟨hversion, hnames, rfl⟩⟩), rfl⟩
    | notBase64 hpermitted hsecret =>
      exact .inr ⟨hpermitted, .inl ⟨_, key_eq_error_iff.2 (.inl ⟨hsecret, rfl⟩), rfl⟩⟩
    | empty hpermitted hsecret =>
      exact .inr ⟨hpermitted, .inl ⟨_, key_eq_error_iff.2 (.inr ⟨hsecret, rfl⟩), rfl⟩⟩
    | absent hpermitted husable hquotable hheader =>
      exact .inr ⟨hpermitted, .inr ⟨husable, _, ⟨hquotable, hheader⟩, rfl⟩⟩

/-- Behind the parameters and the secret, the query and the parameters are written first, and the
lines after the search for header fields. -/
theorem exists_sign_encoding_iff :
    (∃ e, (Scheme.current s).sign r c a = .error (.encoding e)) ↔
      s.Permitted a ∧ Usable c ∧ (¬Quotable r a ∨ Complete r a ∧ ¬Writable r a) := by
  have hkey (e : EncodeError) : ¬∃ fault, (Scheme.current s).key c = .error fault ∧
      fault.map SigningError.secret = .encoding e := by
    simp only [Scheme.key, mapError_eq_error_iff, Failure.map_eq_encoding_iff]
    rintro ⟨_, ⟨fault, -, rfl⟩, hfault⟩
    cases hfault
  have htext (e : EncodeError) : (∃ fault, (Scheme.current s).signedText r a = .error fault ∧
      fault.map SigningError.missingHeader = .encoding e) ↔
      signedText r a = .error (.encoding e) := by
    simp only [Failure.map_eq_encoding_iff]
    exact exists_eq_right
  simp only [Scheme.sign_eq_error_iff, scheme_check_iff, exists_scheme_key_iff, hkey, htext,
    reduceCtorEq, and_false, exists_false, false_or, exists_and_left, exists_signedText_encoding_iff]

end CurrentScheme

/-! ## The first scheme -/

namespace LegacyScheme

variable {digest : Algorithm}

/-- The first scheme signs everything that can be written. -/
theorem exists_sign_iff :
    (∃ signed, (Scheme.legacy digest).sign r c a = .ok signed) ↔
      c.secret.IsText ∧ Writable r a := by
  have hkey : (∃ key, (Scheme.legacy digest).key c = .ok key) ↔ c.secret.IsText := by
    simp only [Scheme.key, mapError_eq_ok_iff, key, Points.exists_encode_iff]
  have htext : (∃ text, (Scheme.legacy digest).signedText r a = .ok text) ↔ Writable r a := by
    simp only [Scheme.signedText, mapError_eq_ok_iff, exists_signedText_iff]
  rw [Scheme.exists_sign_iff, hkey, htext]
  exact and_iff_right rfl

theorem sign_ne_cause {error : SigningError} :
    (Scheme.legacy digest).sign r c a ≠ .error (.cause error) := by
  intro h
  rcases Scheme.sign_eq_error_iff.1 h with ⟨fault, hfault, -⟩ | ⟨-, ⟨fault, hfault, hcause⟩ |
    ⟨-, fault, hfault, hcause⟩⟩
  · cases hfault
  · obtain ⟨e, -, rfl⟩ := mapError_eq_error_iff.1 hfault
    cases hcause
  · obtain ⟨e, -, rfl⟩ := mapError_eq_error_iff.1 hfault
    cases hcause

theorem exists_sign_encoding_iff :
    (∃ e, (Scheme.legacy digest).sign r c a = .error (.encoding e)) ↔
      ¬(c.secret.IsText ∧ Writable r a) := by
  rw [exists_encoding_iff, exists_sign_iff]
  exact and_iff_left fun ⟨_, h⟩ => sign_ne_cause h

end LegacyScheme

/-! ## Registries -/

namespace Registry

/-- The faults for which a registry refuses to sign.  The first scheme finds no fault. -/
inductive Refuses (reg : Registry) (r : Request) (c : Credential) (a : Authorization)
    (version : Points) : SigningError → Prop
  /-- There is no scheme of this version. -/
  | unknown (hversion : ∀ s ∈ reg.schemes, ofString s.id ≠ version) :
      Refuses reg r c a version (.unknownVersion version)
  /-- It is the second scheme, and this refuses. -/
  | current {s : CurrentScheme} {error : SigningError} (hmem : .current s ∈ reg.schemes)
      (hversion : version = ofString SignedHttp.CurrentScheme.id)
      (hrefuses : s.Refuses r c a error) : Refuses reg r c a version error

/-- The requests that are neither signed nor refused, because a text cannot be written. -/
inductive Escapes (reg : Registry) (r : Request) (c : Credential) (a : Authorization)
    (version : Points) : Prop
  /-- It is the first scheme, and the secret or the signed text is in the way. -/
  | legacy {digest : Algorithm} (hmem : .legacy digest ∈ reg.schemes)
      (hversion : version = ofString SignedHttp.LegacyScheme.id)
      (hnot : ¬(c.secret.IsText ∧ LegacyScheme.Writable r a))
  /-- It is the second scheme, and what is percent-encoded is in the way. -/
  | unquotable {s : CurrentScheme} (hmem : .current s ∈ reg.schemes)
      (hversion : version = ofString SignedHttp.CurrentScheme.id) (hpermitted : s.Permitted a)
      (husable : CurrentScheme.Usable c) (hnot : ¬CurrentScheme.Quotable r a)
  /-- It is the second scheme, nothing is missing, and a line of the signed text is in the way. -/
  | unwritable {s : CurrentScheme} (hmem : .current s ∈ reg.schemes)
      (hversion : version = ofString SignedHttp.CurrentScheme.id) (hsignable : s.Signable r c a)
      (hnot : ¬CurrentScheme.Writable r a)

variable {reg : Registry} {version : Points} {s : Scheme}

theorem find?_eq_some_iff :
    reg.find? version = some s ↔ s ∈ reg.schemes ∧ ofString s.id = version := by
  have honly : ∀ x ∈ reg.schemes, ∀ y ∈ reg.schemes, (ofString x.id == version) = true →
      (ofString y.id == version) = true → x = y := fun x hx y hy hxid hyid =>
    List.inj_on_of_nodup_map reg.distinct hx hy
      (Points.ofString_inj.1 ((beq_iff_eq.1 hxid).trans (beq_iff_eq.1 hyid).symm))
  rw [find?, SignedHttp.Registry.find?_eq_some_iff_mem honly, beq_iff_eq]

theorem find?_eq_none_iff :
    reg.find? version = none ↔ ∀ s ∈ reg.schemes, ofString s.id ≠ version := by
  simp [find?]

theorem sign_of_find?_eq_none (h : reg.find? version = none) :
    reg.sign r c a version = .error (.cause (.unknownVersion version)) := by
  rw [sign, scheme, h]
  rfl

theorem sign_of_find?_eq_some (h : reg.find? version = some s) :
    reg.sign r c a version = s.sign r c a := by
  rw [sign, scheme, h]
  rfl

theorem sign_eq_cause_iff {error : SigningError} :
    reg.sign r c a version = .error (.cause error) ↔ reg.Refuses r c a version error := by
  refine ⟨fun h => ?_, fun h => ?_⟩
  · cases hfind : reg.find? version with
    | none =>
      rw [sign_of_find?_eq_none hfind] at h
      obtain rfl := Failure.cause.inj (Except.error.inj h)
      exact .unknown (find?_eq_none_iff.1 hfind)
    | some s =>
      rw [sign_of_find?_eq_some hfind] at h
      obtain ⟨hmem, hid⟩ := find?_eq_some_iff.1 hfind
      cases s with
      | legacy digest => exact absurd h LegacyScheme.sign_ne_cause
      | current s => exact .current hmem hid.symm (CurrentScheme.sign_eq_cause_iff.1 h)
  · cases h with
    | unknown hversion => exact sign_of_find?_eq_none (find?_eq_none_iff.2 hversion)
    | current hmem hversion hrefuses =>
      rw [sign_of_find?_eq_some (find?_eq_some_iff.2 ⟨hmem, hversion.symm⟩)]
      exact CurrentScheme.sign_eq_cause_iff.2 hrefuses

theorem exists_sign_encoding_iff :
    (∃ e, reg.sign r c a version = .error (.encoding e)) ↔ reg.Escapes r c a version := by
  refine ⟨fun ⟨e, h⟩ => ?_, fun h => ?_⟩
  · cases hfind : reg.find? version with
    | none =>
      rw [sign_of_find?_eq_none hfind] at h
      cases h
    | some s =>
      rw [sign_of_find?_eq_some hfind] at h
      obtain ⟨hmem, hid⟩ := find?_eq_some_iff.1 hfind
      cases s with
      | legacy digest =>
        exact .legacy hmem hid.symm (LegacyScheme.exists_sign_encoding_iff.1 ⟨e, h⟩)
      | current s =>
        obtain ⟨hpermitted, husable, hnot | ⟨hcomplete, hnot⟩⟩ :=
          CurrentScheme.exists_sign_encoding_iff.1 ⟨e, h⟩
        · exact .unquotable hmem hid.symm hpermitted husable hnot
        · exact .unwritable hmem hid.symm
            (CurrentScheme.signable_iff.2 ⟨hpermitted, husable, hcomplete⟩) hnot
  · cases h with
    | legacy hmem hversion hnot =>
      rw [sign_of_find?_eq_some (find?_eq_some_iff.2 ⟨hmem, hversion.symm⟩)]
      exact LegacyScheme.exists_sign_encoding_iff.2 hnot
    | unquotable hmem hversion hpermitted husable hnot =>
      rw [sign_of_find?_eq_some (find?_eq_some_iff.2 ⟨hmem, hversion.symm⟩)]
      exact CurrentScheme.exists_sign_encoding_iff.2 ⟨hpermitted, husable, .inl hnot⟩
    | unwritable hmem hversion hsignable hnot =>
      obtain ⟨hpermitted, husable, hcomplete⟩ := CurrentScheme.signable_iff.1 hsignable
      rw [sign_of_find?_eq_some (find?_eq_some_iff.2 ⟨hmem, hversion.symm⟩)]
      exact CurrentScheme.exists_sign_encoding_iff.2
        ⟨hpermitted, husable, .inr ⟨hcomplete, hnot⟩⟩

/-- **Without lone surrogates nothing escapes.** -/
theorem not_escapes_raw (reg : SignedHttp.Registry) (r : SignedHttp.Request)
    (c : SignedHttp.Credential) (a : SignedHttp.Authorization) (version : String) :
    ¬reg.raw.Escapes r.raw c.raw a.raw (ofString version) := by
  rw [← exists_sign_encoding_iff, SignedHttp.Registry.sign_raw]
  cases (reg.sign r c a version).value with
  | ok signed => simp [carry]
  | error error => simp [carry]

/-- **A request is signed, it is refused for the first fault that it has, or it escapes**, under any
version.  Under the version of the second scheme a request is signed exactly when it has all that the
scheme asks for and everything can be written. -/
theorem sign_outcome (reg : Registry) (r : Request) (c : Credential) (a : Authorization) :
    (∀ version, (∃ signed, reg.sign r c a version = .ok signed) ∨
      (∃ error, reg.Refuses r c a version error) ∨ reg.Escapes r c a version) ∧
    (∀ version error,
      reg.sign r c a version = .error (.cause error) ↔ reg.Refuses r c a version error) ∧
    (∀ version,
      (∃ e, reg.sign r c a version = .error (.encoding e)) ↔ reg.Escapes r c a version) ∧
    ∀ s, .current s ∈ reg.schemes →
      ((∃ signed, reg.sign r c a (ofString SignedHttp.CurrentScheme.id) = .ok signed) ↔
        s.Signable r c a ∧ CurrentScheme.Quotable r a ∧ CurrentScheme.Writable r a) := by
  refine ⟨fun version => ?_, fun version error => sign_eq_cause_iff,
    fun version => exists_sign_encoding_iff, fun s hmem => ?_⟩
  · rw [← exists_sign_encoding_iff]
    simp only [← sign_eq_cause_iff]
    cases reg.sign r c a version with
    | ok signed => exact .inl ⟨signed, rfl⟩
    | error failure =>
      cases failure with
      | cause error => exact .inr (.inl ⟨error, rfl⟩)
      | encoding e => exact .inr (.inr ⟨e, rfl⟩)
  · have hfind : reg.find? (ofString SignedHttp.CurrentScheme.id) = some (.current s) :=
      find?_eq_some_iff.2 ⟨hmem, rfl⟩
    rw [sign_of_find?_eq_some hfind]
    exact CurrentScheme.exists_sign_iff

/-! A request that is signed, one with faults in the parameters, in the secret and in the header
fields, and one without any header fields whose nonce is a lone surrogate. -/

def sampleRequest : SignedHttp.Request where
  method := "GET"
  host := "example.com"
  path := "/"
  query := ""
  headers := ⟨[(Headers.timestamp, "1432075982")]⟩
  body := []

def sampleCredential : SignedHttp.Credential where
  id := "a"
  secret := "QQ=="

def faultyCredential : SignedHttp.Credential := { sampleCredential with secret := "secret" }

def faultyAuthorization : SignedHttp.Authorization :=
  { sampleAuthorization with nonce := "", headers := ["X-Absent"] }

def bareRequest : SignedHttp.Request := { sampleRequest with headers := ⟨[]⟩ }

def unreadableAuthorization : Authorization := { sampleAuthorization.raw with nonce := unreadable }

theorem sample_usable : CurrentScheme.Usable sampleCredential.raw := ⟨[65], by decide, by simp⟩

theorem sample_signable : CurrentScheme.Signable ⟨.sha256, []⟩ sampleRequest.raw
    sampleCredential.raw sampleAuthorization.raw where
  permitted := ⟨by decide, by decide, rfl, .inl rfl⟩
  usable := sample_usable
  headers := List.forall_mem_nil _
  timestamp := by decide
  contentDigest := fun h => absurd rfl h

theorem unreadable_escapes : sampleRegistry.Escapes bareRequest.raw sampleCredential.raw
    unreadableAuthorization (ofString "v2") :=
  have hnot : ¬unreadable.IsText := by decide
  .unquotable List.mem_cons_self rfl ⟨by decide, by decide, rfl, .inl rfl⟩ sample_usable
    fun h => hnot h.nonce

theorem faulty_refused :
    .current ⟨.sha256, []⟩ ∈ sampleRegistry.schemes ∧
    (∃ signed, sampleRegistry.sign sampleRequest.raw sampleCredential.raw sampleAuthorization.raw
      (ofString "v2") = .ok signed) ∧
    sampleRegistry.sign sampleRequest.raw faultyCredential.raw faultyAuthorization.raw
      (ofString "v2") = .error (.cause (.parameters (.missing ["nonce"]))) ∧
    ∃ e, sampleRegistry.sign bareRequest.raw sampleCredential.raw unreadableAuthorization
      (ofString "v2") = .error (.encoding e) := by
  have hmem : .current ⟨.sha256, []⟩ ∈ sampleRegistry.schemes := List.mem_cons_self
  obtain ⟨-, -, -, hsigned⟩ := sign_outcome sampleRegistry sampleRequest.raw sampleCredential.raw
    sampleAuthorization.raw
  obtain ⟨-, hrefused, -, -⟩ := sign_outcome sampleRegistry sampleRequest.raw faultyCredential.raw
    faultyAuthorization.raw
  obtain ⟨-, -, hescaped, -⟩ := sign_outcome sampleRegistry bareRequest.raw sampleCredential.raw
    unreadableAuthorization
  have hblank : CurrentScheme.blankParameters faultyAuthorization.raw = ["nonce"] := rfl
  have hrefuses : CurrentScheme.Refuses ⟨.sha256, []⟩ sampleRequest.raw faultyCredential.raw
      faultyAuthorization.raw (.parameters (.missing ["nonce"])) :=
    hblank ▸ .blank (by simp [hblank])
  exact ⟨hmem, (hsigned _ hmem).2 ⟨sample_signable, SignedHttp.CurrentScheme.quotable_raw _ _,
      SignedHttp.CurrentScheme.writable_raw _ _⟩,
    (hrefused (ofString "v2") _).2 (.current hmem rfl hrefuses),
    (hescaped (ofString "v2")).2 unreadable_escapes⟩

theorem not_forall_signed_or_refused :
    ¬∀ (reg : Registry) (r : Request) (c : Credential) (a : Authorization) (version : Points),
      (∃ signed, reg.sign r c a version = .ok signed) ∨
        ∃ error, reg.sign r c a version = .error (.cause error) := by
  intro h
  obtain ⟨e, he⟩ := exists_sign_encoding_iff.2 unreadable_escapes
  rcases h sampleRegistry bareRequest.raw sampleCredential.raw unreadableAuthorization
    (ofString "v2") with ⟨signed, hsigned⟩ | ⟨error, herror⟩
  · exact absurd (he.symm.trans hsigned) (by simp)
  · exact absurd (he.symm.trans herror) (by simp)

end Registry
end Raw
end SignedHttp
