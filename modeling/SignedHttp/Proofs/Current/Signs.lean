import SignedHttp.Proofs.Current.Agreement

/-!
# What a signed request is worth

`CurrentScheme.Signs` collects what is known once signing has succeeded: the key, the signed text,
the signature over it and the Authorization value.  From this alone a server finds the parameters
again (`CurrentScheme.Signs.parse`), and what is left for it to check are the time and the digest of
the body, which signing does not look at (`CurrentScheme.Signs.judge_attach`).  So the verdict over
a request with its Authorization value attached is known under every clock
(`CurrentScheme.Signs.verify_attach`).
-/

set_option autoImplicit false

namespace SignedHttp
namespace CurrentScheme

variable {s : CurrentScheme} {r : Request} {c : Credential} {a : Authorization}
  {key text : Octets} {signed : SignedRequest} {clock : Clock} {tolerance : Int}

theorem checkTime_attach {header : String} :
    (Scheme.current s).checkTime clock tolerance (r.attach header) =
      (Scheme.current s).checkTime clock tolerance r := by
  rw [Scheme.checkTime, Scheme.checkTime, get?_attach_timestamp]

theorem checkBody_attach {header : String} :
    (Scheme.current s).checkBody (r.attach header) = (Scheme.current s).checkBody r :=
  Scheme.checkBody_congr rfl get?_attach_contentDigest

/-- Signing a request gives this signature and Authorization value. -/
structure Signs (s : CurrentScheme) (r : Request) (c : Credential) (a : Authorization)
    (key text : Octets) (signed : SignedRequest) : Prop where
  check : s.check a = .ok ()
  secret : CurrentScheme.key c = .ok key
  message : signedText r a = .ok text
  signature : signed.signature = s.digest.macBase64 key text
  header : signed.header = render (a.withSignature signed.signature)

theorem exists_signs_iff : (∃ key text, Signs s r c a key text signed) ↔
    ((Scheme.current s).sign r c a).value = .ok signed := by
  rw [Scheme.sign_eq_ok_iff, Scheme.signature_eq_ok_iff]
  constructor
  · rintro ⟨key, text, h⟩
    exact ⟨⟨h.check, key, text, h.secret, h.message, h.signature.symm⟩, h.header.symm⟩
  · rintro ⟨⟨hcheck, key, text, hkey, htext, hmac⟩, hheader⟩
    exact ⟨key, text, hcheck, hkey, htext, hmac.symm, hheader.symm⟩

/-- The id of the second scheme leads to the registered scheme that signs. -/
theorem exists_signs_of_registry {reg : Registry}
    (h : (reg.sign r c a CurrentScheme.id).value = .ok signed) :
    ∃ s key text, reg.find? CurrentScheme.id = some (.current s) ∧
      Signs s r c a key text signed := by
  obtain ⟨_, hfind, hsign⟩ := Registry.sign_eq_ok_iff.1 h
  obtain ⟨s, rfl, -⟩ := Registry.exists_of_find?_current hfind
  obtain ⟨key, text, hsigns⟩ := exists_signs_iff.2 hsign
  exact ⟨s, key, text, hfind, hsigns⟩

namespace Signs

/-! ## The Authorization value -/

theorem readable (h : Signs s r c a key text signed)
    (hlistable : ∀ name ∈ a.headers, Listable name) :
    Readable s (a.withSignature signed.signature) := by
  rw [h.signature]
  exact readable_withSignature h.check hlistable s.digest key text

/-- **A server finds the signed parameters again**, together with the signature. -/
theorem parse (h : Signs s r c a key text signed)
    (hlistable : ∀ name ∈ a.headers, Listable name) :
    s.parse signed.header = .ok (a.withSignature signed.signature) := by
  rw [h.header]
  exact parse_render (h.readable hlistable)

theorem identifies (h : Signs s r c a key text signed) :
    (Scheme.current s).identifies signed.header = true := by
  have hversion : a.version = version := (check_eq_ok_iff.1 h.check).2.2.1
  rw [h.header]
  refine begins_render (a := a.withSignature signed.signature) ?_
  change a.version ≠ ""
  rw [hversion]
  decide

/-- The signature stands for the octets that it is computed from. -/
theorem decode_signature (h : Signs s r c a key text signed) :
    Base64.decodeStrict? signed.signature = some (s.digest.mac key text) := by
  rw [h.signature, Algorithm.macBase64]
  exact Base64.decodeStrict?_encode _

/-! ## The request with its Authorization value -/

theorem authorize_attach (h : Signs s r c a key text signed)
    (hlistable : ∀ name ∈ a.headers, Listable name)
    (hnames : ∀ name ∈ a.headers, Text.lower name ≠ "authorization") :
    (Scheme.current s).authorize (r.attach signed.header) signed.header =
      .ok (a.withSignature signed.signature) := by
  have hsame := sameMessage_attach (r := r) signed.header signed.signature hnames
  exact Scheme.authorize_eq_ok_iff.2
    ⟨h.parse hlistable, hsame.contains (signedText_eq_ok_iff.1 h.message).1⟩

/-- **Only the time and the digest of the body are left to be checked.** -/
theorem judge_attach (h : Signs s r c a key text signed)
    (hnames : ∀ name ∈ a.headers, Text.lower name ≠ "authorization") :
    (Scheme.current s).judge clock tolerance (r.attach signed.header)
        (a.withSignature signed.signature) c =
      (do
        (Scheme.current s).checkTime clock tolerance r
        ((Scheme.current s).checkBody r).mapError .rejected) := by
  have hsame := sameMessage_attach (r := r) signed.header signed.signature hnames
  have hkey : (Scheme.current s).key c = .ok key := h.secret
  have hsignature : (Scheme.current s).checkSignature (r.attach signed.header)
      (a.withSignature signed.signature) key = .ok () :=
    Scheme.checkSignature_eq_ok_iff.2 ⟨text, hsame.signedText_eq h.message, h.signature.symm⟩
  rw [Scheme.judge_of_key hkey, checkTime_attach, checkBody_attach, hsignature]
  cases (Scheme.current s).checkTime clock tolerance r with
  | error halt => rfl
  | ok _ =>
    cases (Scheme.current s).checkBody r with
    | error error => rfl
    | ok _ => rfl

/-- **The verdict over a signed request is that of its time and of its digest.** -/
theorem verify_attach {reg : Registry} {lookup : String → Option Credential}
    (h : Signs s r c a key text signed) (hmem : .current s ∈ reg.schemes)
    (hlistable : ∀ name ∈ a.headers, Listable name)
    (hnames : ∀ name ∈ a.headers, Text.lower name ≠ "authorization")
    (hlookup : lookup a.id = some c) :
    (Verifier.mk reg tolerance).verify clock lookup (r.attach signed.header) none =
      (Verifier.mk reg tolerance).conclude clock (.current s) (r.attach signed.header)
        (a.withSignature signed.signature) (some c) := by
  have hattached : (r.attach signed.header).headers.get? Headers.authorization =
      some signed.header := Request.get?_attach_self
  rw [Verifier.verify, hattached, Option.none_or, Verifier.verifyValue_eq_conclude
    (Registry.schemeOf?_eq_some_iff.2 ⟨hmem, h.identifies⟩) (h.authorize_attach hlistable hnames)]
  exact congrArg _ hlookup

end Signs
end CurrentScheme
end SignedHttp
