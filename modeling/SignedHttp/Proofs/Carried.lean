import SignedHttp.Proofs.Current.Signs
import SignedHttp.Proofs.Legacy.Agreement

/-!
# What an Authorization value carries

A server knows the parameters of a request from its Authorization value alone.  So whoever signs
under parameters that the value does not carry gets a signature that no server can check.  Neither
scheme guards against that: the first one signs under every id, and the second one under every
header name that is allowed, while commas and semicolons separate names only for the reader.

* `Scheme.Carried`: reading the value gives back what was signed.
* `Scheme.Carriable`: what the parameters must satisfy for this.
* `Registry.carried_sign_iff`: what is signed is carried under this condition and no other.
* `Registry.not_carriesAll`: with either scheme there are such parameters.
-/

set_option autoImplicit false

namespace SignedHttp

variable {r : Request} {c : Credential} {a : Authorization} {signed : SignedRequest}

namespace Scheme

/-- The fields of the parameters that stand in an Authorization value. -/
def SameFields (s : Scheme) (a b : Authorization) : Prop :=
  match s with
  | legacy _ => b.id = a.id
  | current _ => b.id = a.id ∧ b.realm = a.realm ∧ b.nonce = a.nonce ∧ b.version = a.version ∧
      b.headers = a.headers

/-- Reading a signed Authorization value gives back the signature and the parameters. -/
def Carried (s : Scheme) (a : Authorization) (signed : SignedRequest) : Prop :=
  ∃ b, s.parse signed.header = .ok b ∧ b.signature = signed.signature ∧ s.SameFields a b

/-- Parameters that survive in an Authorization value. -/
def Carriable (s : Scheme) (a : Authorization) : Prop :=
  match s with
  | legacy _ => LegacyScheme.Carriable a.id
  | current _ => ∀ name ∈ a.headers, CurrentScheme.Listable name

theorem carried_legacy_iff {s : LegacyScheme}
    (h : ((legacy s).sign r c a).value = .ok signed) :
    (legacy s).Carried a signed ↔ (legacy s).Carriable a := by
  constructor
  · rintro ⟨b, hread, -, hid⟩
    have hparse : s.parse signed.header = .ok b := hread
    have hcarriable := LegacyScheme.carriable_of_parse hparse
    rwa [show b.id = a.id from hid] at hcarriable
  · intro hid
    have hparse := LegacyScheme.parse_sign h hid
    exact ⟨_, hparse, rfl, rfl⟩

theorem carried_current_iff {s : CurrentScheme}
    (h : ((current s).sign r c a).value = .ok signed) :
    (current s).Carried a signed ↔ (current s).Carriable a := by
  obtain ⟨key, text, hsigns⟩ := CurrentScheme.exists_signs_iff.2 h
  constructor
  · rintro ⟨b, hparse, hsignature, hid, hrealm, hnonce, hversion, hheaders⟩
    obtain rfl : b = a.withSignature signed.signature := by
      cases b
      cases hid; cases hrealm; cases hnonce; cases hversion; cases hheaders; cases hsignature
      rfl
    have hread : s.parse (CurrentScheme.render (a.withSignature signed.signature)) =
        .ok (a.withSignature signed.signature) := hsigns.header ▸ hparse
    exact (CurrentScheme.parse_render_iff.1 hread).listable
  · intro hlistable
    have hparse := hsigns.parse hlistable
    exact ⟨_, hparse, rfl, rfl, rfl, rfl, rfl, rfl⟩

end Scheme

namespace Registry

/-- **Signing carries just the parameters that can be carried**, whichever scheme signs. -/
theorem carried_sign_iff {reg : Registry} {version : String}
    (h : (reg.sign r c a version).value = .ok signed) :
    ∃ s, reg.find? version = some s ∧ (s.Carried a signed ↔ s.Carriable a) := by
  obtain ⟨s, hfind, hsign⟩ := Registry.sign_eq_ok_iff.1 h
  refine ⟨s, hfind, ?_⟩
  cases s with
  | legacy scheme => exact Scheme.carried_legacy_iff hsign
  | current scheme => exact Scheme.carried_current_iff hsign

/-- The request with the date that is made for it. -/
def spacedSigned : SignedRequest where
  signature := "uFH/yq/Q53hV5mNEZeer+CCSybI="
  header := "Acquia a:b c\n:d :uFH/yq/Q53hV5mNEZeer+CCSybI="

theorem spaced_carried :
    (Scheme.legacy ⟨.sha1, ["X-Custom"]⟩).Carried
      (LegacyScheme.newParameters ⟨.sha1, ["X-Custom"]⟩ "a:b c\n:d " []) spacedSigned := by
  have hsign : (LegacyScheme.spacedRegistry.sign
      (LegacyScheme.spacedRequest.withHeaders [("Date", "Thu, 01 Jan 1970 00:00:00 GMT")])
      LegacyScheme.spacedCredential
      (LegacyScheme.newParameters ⟨.sha1, ["X-Custom"]⟩ "a:b c\n:d " []) "v1").value =
      .ok spacedSigned := by
    decide +kernel
  obtain ⟨s, hfind, hiff⟩ := carried_sign_iff hsign
  obtain rfl : .legacy ⟨.sha1, ["X-Custom"]⟩ = s := Option.some.inj hfind
  exact hiff.2 LegacyScheme.spaced_carriable

/-! With an empty id, and with a comma in a header name. -/

def namelessAuthorization : Authorization where
  id := ""
  realm := ""
  nonce := ""
  version := ""
  headers := []
  signature := ""

def joinedRequest : Request where
  method := "GET"
  host := "example.com"
  path := "/"
  query := ""
  headers := ⟨[("X-Authorization-Timestamp", "1432075982"), ("a,b", "1")]⟩
  body := []

def joinedAuthorization : Authorization where
  id := "a"
  realm := ""
  nonce := "n"
  version := "2.0"
  headers := ["a,b"]
  signature := ""

/-- Whatever is signed under an id of a scheme is carried. -/
def CarriesAll (version : String) : Prop :=
  ∀ (reg : Registry) (r : Request) (c : Credential) (a : Authorization) (signed : SignedRequest),
    (reg.sign r c a version).value = .ok signed →
      ∃ s, reg.find? version = some s ∧ s.Carried a signed

/-- **Parameters that a server cannot read back are signed all the same**, by either scheme. -/
theorem not_carriesAll : ¬CarriesAll LegacyScheme.id ∧ ¬CarriesAll CurrentScheme.id := by
  constructor
  · intro hall
    obtain ⟨signed, hsign⟩ := LegacyScheme.exists_sign ⟨.sha1, []⟩ joinedRequest ⟨"", "s"⟩
      namelessAuthorization
    obtain ⟨s, hfind, hcarried⟩ := hall CurrentScheme.sampleRegistry _ _ _ _ hsign
    obtain rfl : .legacy ⟨.sha1, []⟩ = s := Option.some.inj hfind
    exact absurd rfl ((Scheme.carried_legacy_iff hsign).1 hcarried).ne
  · intro hall
    -- that signing succeeds does not take the signature itself
    have hok : ((Scheme.current ⟨.sha256, []⟩).sign joinedRequest ⟨"a", "QQ=="⟩
        joinedAuthorization).value.isOk = true := by
      decide +kernel
    obtain ⟨signed, hsign⟩ := exists_eq_ok_of_isOk hok
    obtain ⟨s, hfind, hcarried⟩ := hall CurrentScheme.sampleRegistry _ _ _ _ hsign
    obtain rfl : .current ⟨.sha256, []⟩ = s := Option.some.inj hfind
    have hlistable := (Scheme.carried_current_iff hsign).1 hcarried "a,b" List.mem_cons_self
    exact absurd (by decide) hlistable.comma

end Registry
end SignedHttp
