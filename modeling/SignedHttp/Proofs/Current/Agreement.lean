import SignedHttp.Proofs.Current.Header
import SignedHttp.Proofs.Current.SignedText
import SignedHttp.Proofs.Signing
import SignedHttp.Proofs.Verification

/-!
# Signing and verifying agree

A request that was signed with the second scheme is accepted once the Authorization value is
attached to it (`CurrentScheme.verify_sign`).  The two sides have nothing but this value in common,
so the proof follows it across:

* `CurrentScheme.readable_withSignature`: parameters that may be signed are read back from it, with
  a signature that is safe between quotes.
* `CurrentScheme.sameMessage_of_alike`, `CurrentScheme.sameMessage_attach`: attaching it changes
  nothing that was signed.

What signing does not look at stays a condition: the moment that the timestamp denotes
(`CurrentScheme.Timely`) and the digest of the body (`CurrentScheme.DigestDeclared`).
-/

set_option autoImplicit false

namespace SignedHttp
namespace CurrentScheme

variable {s : CurrentScheme} {r : Request} {a : Authorization}

/-! ## The parameters -/

theorem check_eq_ok_iff : s.check a = .ok () ↔
    a.id ≠ "" ∧ a.nonce ≠ "" ∧ a.version = version ∧ ∀ name ∈ a.headers, s.allows name = true := by
  rw [check, checkParameters_eq_ok_iff]
  simp only [List.forall_mem_cons, List.not_mem_nil, false_implies, implies_true, and_true]
  constructor
  · rintro ⟨⟨hid, hnonce, -⟩, hversion, hheaders⟩
    exact ⟨hid, hnonce, hversion, hheaders⟩
  · rintro ⟨hid, hnonce, hversion, hheaders⟩
    exact ⟨⟨hid, hnonce, by rw [hversion]; decide⟩, hversion, hheaders⟩

/-- A signature in base 64 goes between quotes as it is, whatever the digest. -/
theorem readable_withSignature (hcheck : s.check a = .ok ())
    (hnames : ∀ name ∈ a.headers, Listable name) (alg : Algorithm) (key text : Octets) :
    Readable s (a.withSignature (alg.macBase64 key text)) := by
  obtain ⟨hid, hnonce, hversion, hallowed⟩ := check_eq_ok_iff.1 hcheck
  exact {
    id := hid
    nonce := hnonce
    signature := Algorithm.macBase64_ne alg key text
    version := hversion
    quote := fun hmem => (Algorithm.mem_macBase64 hmem).ne.1 rfl
    escape := Percent.not_hasEscape_of_not_mem fun hmem => (Algorithm.mem_macBase64 hmem).ne.2 rfl
    listable := hnames
    allowed := allows_all_iff.1 hallowed }

/-! ## The request with its Authorization value -/

theorem get?_attach_timestamp {header : String} :
    (r.attach header).headers.get? Headers.timestamp = r.headers.get? Headers.timestamp :=
  Request.get?_attach (by decide)

theorem get?_attach_contentDigest {header : String} :
    (r.attach header).headers.get? Headers.contentDigest = r.headers.get? Headers.contentDigest :=
  Request.get?_attach (by decide)

/-- Requests that differ in their Authorization fields are the same message, unless one of these is
signed. -/
theorem sameMessage_of_alike {r' : Request} (h : r.Alike r') (signature : String)
    (hnames : ∀ name ∈ a.headers, Text.lower name ≠ "authorization") :
    SameMessage r a r' (a.withSignature signature) where
  method := congrArg Text.upper h.method
  host := congrArg Text.lower h.host
  path := congrArg normalizePath h.path
  query := congrArg Query.normalize h.query
  id := rfl
  nonce := rfl
  realm := rfl
  version := rfl
  fields := List.map_congr_left fun name hname => by rw [h.headers name (hnames name hname)]
  timestamp := h.headers _ (by decide)
  body := by rw [h.body]
  contentType := fun _ => h.getD (show _ ≠ _ by decide) ""
  contentDigest := fun _ => h.headers _ (by decide)

/-- **Attaching the Authorization value changes nothing that was signed.** -/
theorem sameMessage_attach (header signature : String)
    (hnames : ∀ name ∈ a.headers, Text.lower name ≠ "authorization") :
    SameMessage r a (r.attach header) (a.withSignature signature) :=
  sameMessage_of_alike (r.alike_attach header) signature hnames

/-! ## The checks -/

/-- The first timestamp is a numeral of a moment within the window. -/
def Timely (now tolerance : Int) (r : Request) : Prop :=
  ∃ declared digits, r.headers.get? Headers.timestamp = some declared ∧
    Timestamp.digits? declared = some digits ∧ digits.length ≤ 4300 ∧
    Timestamp.distance now (Timestamp.moment digits) ≤ tolerance

/-- A digest is declared for a body only, and it is that of the body. -/
def DigestDeclared (r : Request) : Prop :=
  r.headers.get? Headers.contentDigest =
    if r.body.isEmpty then none else some (Algorithm.sha256.hashBase64 r.body)

theorem checkTime_of_timely {now tolerance : Int} (h : Timely now tolerance r) :
    (Scheme.current s).checkTime (.whole now) tolerance r = .ok () := by
  obtain ⟨declared, digits, hdeclared, hdigits, hlength, hwindow⟩ := h
  rw [Scheme.checkTime_current hdeclared, map_eq_ok_iff]
  exact ⟨_, Timestamp.check_eq_ok_iff.2 ⟨digits, hdigits, hlength, rfl, hwindow⟩, rfl⟩

theorem checkBody_of_digestDeclared (h : DigestDeclared r) :
    (Scheme.current s).checkBody r = .ok () := by
  refine Scheme.checkBody_current_eq_ok_iff.2 fun claimed hclaimed => ?_
  rw [h] at hclaimed
  split at hclaimed
  · exact absurd hclaimed (by simp)
  · next hbody => exact ⟨by simpa using hbody, Option.some.inj hclaimed⟩

/-- **What was signed is accepted**, under the id of the credential, and the credential of one id
is asked for. -/
theorem verify_sign {reg : Registry} {now tolerance : Int} {lookup : String → Option Credential}
    {c : Credential} {signed : SignedRequest}
    (hsign : (reg.sign r c a CurrentScheme.id).value = .ok signed)
    (hlistable : ∀ name ∈ a.headers, Listable name)
    (hnames : ∀ name ∈ a.headers, Text.lower name ≠ "authorization")
    (hlookup : lookup a.id = some c) (htimely : Timely now tolerance r)
    (hdigest : DigestDeclared r) :
    (Verifier.mk reg tolerance).verify (.whole now) lookup (r.attach signed.header) none =
      ⟨.ok (.accepted CurrentScheme.id c.id), [a.id],
        [.requestVerified CurrentScheme.id c.id]⟩ := by
  obtain ⟨_, hfind, hsign⟩ := Registry.sign_eq_ok_iff.1 hsign
  obtain ⟨s, rfl, hmem⟩ := Registry.exists_of_find?_current hfind
  obtain ⟨hsignature, hheader⟩ := Scheme.sign_eq_ok_iff.1 hsign
  obtain ⟨hcheck, key, text, hkey, htext, hmac⟩ := Scheme.signature_eq_ok_iff.1 hsignature
  have hsame := sameMessage_attach (r := r) signed.header signed.signature hnames
  have hreadable : Readable s (a.withSignature signed.signature) :=
    hmac ▸ readable_withSignature hcheck hlistable s.digest key text
  have hversion : (a.withSignature signed.signature).version ≠ "" := by
    rw [hreadable.version]
    decide
  -- the value leads back to the scheme and to the parameters
  rw [Scheme.render] at hheader
  have hscheme : reg.schemeOf? (some signed.header) = some (.current s) := by
    refine Registry.schemeOf?_eq_some_iff.2 ⟨hmem, ?_⟩
    rw [Scheme.identifies, Scheme.token, ← hheader]
    exact begins_render hversion
  have hauthorize : (Scheme.current s).authorize (r.attach signed.header) signed.header =
      .ok (a.withSignature signed.signature) := by
    refine Scheme.authorize_eq_ok_iff.2 ⟨?_, hsame.contains (signedText_eq_ok_iff.1 htext).1⟩
    rw [Scheme.parse, ← hheader]
    exact parse_render hreadable
  have hjudge : (Scheme.current s).judge (.whole now) tolerance (r.attach signed.header)
      (a.withSignature signed.signature) c = .ok () := by
    refine Scheme.judge_eq_ok_iff.2 ⟨key, hkey, checkTime_of_timely ?_,
      checkBody_of_digestDeclared ?_, ?_⟩
    · rwa [Timely, get?_attach_timestamp]
    · rwa [DigestDeclared, get?_attach_contentDigest]
    · exact Scheme.checkSignature_eq_ok_iff.2 ⟨text, hsame.signedText_eq htext, hmac⟩
  have hattached : (r.attach signed.header).headers.get? Headers.authorization =
      some signed.header := Request.get?_attach_self
  rw [Verifier.verify, hattached, Option.none_or]
  exact Verifier.verifyValue_of_judge hscheme hauthorize hlookup hjudge

def sampleRegistry : Registry := .pair ⟨.sha1, []⟩ ⟨.sha256, []⟩

def sampleCredential : Credential where
  id := "efdde334"
  secret := "QQ=="

def sampleLookup (id : String) : Option Credential :=
  if id = sampleCredential.id then some sampleCredential else none

def sampleSigned : SignedRequest where
  signature := "0xjBATubscB643tibxxNdc6gAdC0hjS1EiEDgv/KdA4="
  header := "acquia-http-hmac headers=\"X-Custom\",id=\"efdde334\",nonce=\"d1954337\"," ++
    "realm=\"Pipet%20service\",signature=\"0xjBATubscB643tibxxNdc6gAdC0hjS1EiEDgv/KdA4=\"," ++
    "version=\"2.0\""

theorem sample_listable : ∀ name ∈ sampleAuthorization.headers, Listable name := by
  rw [show sampleAuthorization.headers = ["X-Custom"] from rfl, List.forall_mem_singleton]
  exact ⟨by decide, by decide, by decide, by decide⟩

theorem sample_timely : Timely 1432076000 900 sampleRequest :=
  ⟨"1432075982", "1432075982".toList, by decide, by decide, by decide, by decide⟩

theorem sample_accepted :
    (Verifier.mk sampleRegistry 900).verify (.whole 1432076000) sampleLookup
        (sampleRequest.attach sampleSigned.header) none =
      ⟨.ok (.accepted "v2" "efdde334"), ["efdde334"], [.requestVerified "v2" "efdde334"]⟩ :=
  verify_sign (a := sampleAuthorization) (c := sampleCredential) (by decide +kernel)
    sample_listable (by decide +kernel) (by decide) sample_timely (by
      rw [DigestDeclared]
      decide +kernel)

end CurrentScheme
end SignedHttp
