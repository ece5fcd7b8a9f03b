import SignedHttp.Proofs.Current.Content
import SignedHttp.Proofs.Legacy.Agreement

/-!
# Authorization values that are given and attached

A verifier takes the Authorization value of a request from the caller, or else from the request.
Where both have one the caller's counts, and nothing else that the request says of its authorization
is looked at.  So it makes no difference whether a value is given or attached, unless a scheme is
made to sign Authorization fields.

* `Scheme.signedText_of_alike`: the signed text of requests that differ in these fields only.
* `Registry.OmitsAuthorization`: no scheme signs them.
* `Request.Alike.authorize_eq`, `Request.Alike.judge_eq`: the checks before and after the credential
  is known come to the same on requests that differ in their Authorization fields.
* `Verifier.verifyValue_eq_of_alike`: so does the whole pass, with the same log.
* `Verifier.verify_attached`: a value that is given and the same one attached.
-/

set_option autoImplicit false

namespace SignedHttp

variable {s : Scheme} {clock : Clock} {tolerance : Int} {r r' : Request} {a : Authorization}
  {c : Credential} {value : String}

/-- What is signed is the same in requests that differ in their Authorization fields. -/
theorem Scheme.signedText_of_alike (h : r.Alike r')
    (hnames : ∀ name ∈ a.headers, Text.lower name ≠ "authorization") {text : Octets}
    (htext : s.signedText r a = .ok text) : s.signedText r' a = .ok text := by
  cases s with
  | legacy s =>
    rw [← htext]
    exact congrArg Except.ok (LegacyScheme.signedText_of_alike h rfl hnames)
  | current s =>
    have hsame : CurrentScheme.SameMessage r a r' a :=
      CurrentScheme.sameMessage_of_alike h a.signature hnames
    exact hsame.signedText_eq htext

/-- Authorization fields are not among those that are signed: neither do the header names that the
first scheme is configured with stand for them, nor those that the second scheme reads in the
value. -/
structure Registry.OmitsAuthorization (reg : Registry) (value : String) : Prop where
  configured : ∀ s, .legacy s ∈ reg.schemes →
    ∀ name ∈ s.headers, Text.lower name ≠ "authorization"
  listed : ∀ s a, .current s ∈ reg.schemes → s.parse value = .ok a →
    ∀ name ∈ a.headers, Text.lower name ≠ "authorization"

namespace Request.Alike

variable {reg : Registry}

/-- The second scheme finds the same content in them. -/
theorem sameContent (h : r.Alike r') (hnames : reg.OmitsAuthorization value) :
    CurrentScheme.SameContent (CurrentScheme.Watched reg value) r r' where
  method := congrArg Text.upper h.method
  host := congrArg Text.lower h.host
  path := congrArg CurrentScheme.normalizePath h.path
  query := .of_eq (congrArg Query.pairs h.query)
  body := h.body
  headers := by
    have hown : ∀ name ∈ [Headers.timestamp, Headers.contentDigest, Headers.contentType],
        Text.lower name ≠ "authorization" := by decide
    rintro name (hname | ⟨s, a, hmem, hparse, hname⟩)
    · exact h.headers name (hown name hname)
    · exact h.headers name (hnames.listed s a hmem hparse name hname)

/-- The first scheme asks for no header field at all. -/
theorem authorize_eq (h : r.Alike r') (hnames : reg.OmitsAuthorization value)
    (hmem : s ∈ reg.schemes) :
    s.authorize r value = s.authorize r' value := by
  cases s with
  | legacy s => rfl
  | current s => exact (h.sameContent hnames).authorize_eq hmem

theorem judge_eq (h : r.Alike r') (hnames : reg.OmitsAuthorization value) (hmem : s ∈ reg.schemes)
    (hauthorize : s.authorize r value = .ok a) :
    s.judge clock tolerance r a c = s.judge clock tolerance r' a c := by
  cases s with
  | legacy s =>
    have hparse := (Scheme.authorize_eq_ok_iff.1 hauthorize).1
    have hheaders : a.headers = s.headers := LegacyScheme.headers_of_parse hparse
    have htext : (Scheme.legacy s).signedText r' a = (Scheme.legacy s).signedText r a :=
      Scheme.signedText_of_alike h (hheaders ▸ hnames.configured s hmem) rfl
    have hkey : (Scheme.legacy s).key c = .ok (LegacyScheme.key c) := rfl
    -- there is no time window and no digest to check
    rw [Scheme.judge_of_key hkey, Scheme.judge_of_key hkey, Scheme.checkSignature,
      Scheme.checkSignature, htext]
    rfl
  | current s => exact (h.sameContent hnames).judge_eq hmem hauthorize

end Request.Alike

namespace Verifier

variable {v : Verifier} {lookup : String → Option Credential}

/-- **Requests that differ in their Authorization fields are verified alike**, the value being the
same. -/
theorem verifyValue_eq_of_alike (h : r.Alike r') (hnames : v.registry.OmitsAuthorization value) :
    v.verifyValue clock lookup r (some value) = v.verifyValue clock lookup r' (some value) := by
  refine verifyValue_eq_of_agrees h.method h.path (verifyValue_agrees ?_ ?_)
  · rintro text s ⟨⟩ hscheme
    exact h.authorize_eq hnames (Registry.schemeOf?_eq_some_iff.1 hscheme).1
  · rintro text s a c ⟨⟩ hscheme hauthorize -
    exact h.judge_eq hnames (Registry.schemeOf?_eq_some_iff.1 hscheme).1 hauthorize

/-- **It makes no difference whether a value is given or attached**, whatever Authorization fields
the request had before: the outcome, the ids whose credential is asked for and the log are the
same. -/
theorem verify_attached (v : Verifier) (clock : Clock) (lookup : String → Option Credential)
    (r : Request) (hnames : v.registry.OmitsAuthorization value) :
    v.verify clock lookup r (some value) = v.verify clock lookup (r.attach value) none := by
  rw [verify, verify, Request.get?_attach_self, Option.some_or, Option.none_or]
  exact verifyValue_eq_of_alike (r.alike_attach value) hnames

/-! A request that has had Authorization values before, one of either scheme. -/

def crowdedRegistry : Registry := .pair ⟨.sha1, ["X-Custom"]⟩ ⟨.sha256, []⟩

def crowdedRequest : Request where
  method := "POST"
  host := "example.com"
  path := "/items"
  query := "a=1"
  headers := ⟨[("authorization", "Acquia a:b"), ("x-custom", "1"),
    ("AUTHORIZATION", CurrentScheme.listingValue), ("X-Authorization-Timestamp", "1432075982")]⟩
  body := []

theorem crowded_omitsAuthorization :
    crowdedRegistry.OmitsAuthorization CurrentScheme.listingValue where
  configured := by
    intro s hmem
    obtain rfl : s = ⟨.sha1, ["X-Custom"]⟩ := by simpa [crowdedRegistry, Registry.pair] using hmem
    exact List.forall_mem_singleton.2 (by decide +kernel)
  listed := by
    intro s a _ hparse
    obtain ⟨-, rfl, -⟩ := CurrentScheme.parse_eq_ok_iff.1 hparse
    decide +kernel

theorem crowded_attached :
    crowdedRegistry.OmitsAuthorization CurrentScheme.listingValue ∧
    (Verifier.mk crowdedRegistry 900).verify (.whole 1432075982) CurrentScheme.sampleLookup
        crowdedRequest (some CurrentScheme.listingValue) =
      (Verifier.mk crowdedRegistry 900).verify (.whole 1432075982) CurrentScheme.sampleLookup
        (crowdedRequest.attach CurrentScheme.listingValue) none :=
  ⟨crowded_omitsAuthorization, verify_attached _ _ _ _ crowded_omitsAuthorization⟩

end Verifier
end SignedHttp
