import SignedHttp.Proofs.Current.Agreement

/-!
# Authorization values written anew

One Authorization value can be written in many ways: with its pairs in any order and repeated, with
anything at all between them, with escapes where none are needed.  Whatever of this a reader
accepts, it comes to parameters that may be signed, and these have one written form,
`CurrentScheme.render`.  A server that accepts a request under the one accepts it under the other.

* `CurrentScheme.check_of_parse`, `CurrentScheme.listable_of_parse`: what is read may be signed.
* `CurrentScheme.readable_of_parse`: with a signature that a server has computed, it can also be
  written.
* `CurrentScheme.verify_render_of_parse`: the two values are accepted alike.
-/

set_option autoImplicit false

namespace SignedHttp
namespace CurrentScheme

variable {s : CurrentScheme} {header : String} {a : Authorization}

/-! ## What is read -/

/-- **What is read may be signed.** -/
theorem check_of_parse (h : s.parse header = .ok a) : s.check a = .ok () := by
  obtain ⟨-, -, hid, hnonce, hversion, -, hallowed⟩ := parse_eq_ok_iff.1 h
  exact check_eq_ok_iff.2 ⟨hid, hnonce, hversion, hallowed⟩

theorem listable_of_parse (h : s.parse header = .ok a) : ∀ name ∈ a.headers, Listable name := by
  obtain ⟨-, hfields, -⟩ := parse_eq_ok_iff.1 h
  exact fun name hname => listable_of_mem_headers (hfields ▸ hname)

/-- With the signature that a server expects, what is read is read again once it has been written.
Any other signature may hold quotes or escapes. -/
theorem readable_of_parse (h : s.parse header = .ok a) {alg : Algorithm} {key text : Octets}
    (hmac : alg.macBase64 key text = a.signature) : Readable s a := by
  have hreadable := readable_withSignature (check_of_parse h) (listable_of_parse h) alg key text
  rwa [hmac] at hreadable

/-! ## The written form -/

section WrittenForm

variable {v : Verifier} {clock : Clock} {lookup : String → Option Credential} {r : Request}
  {identity : String}

/-- **A value that is accepted is accepted in its written form**, with everything that comes of
it. -/
theorem verify_render (hparse : s.parse header = .ok a) (hmem : .current s ∈ v.registry.schemes)
    (haccepted : (v.verify clock lookup r (some header)).outcome =
      .ok (.accepted CurrentScheme.id identity)) :
    v.verify clock lookup r (some (render a)) = v.verify clock lookup r (some header) ∧
      (v.verify clock lookup r (some header)).asked = [a.id] := by
  have hverify (value : String) : v.verify clock lookup r (some value) =
      v.verifyValue clock lookup r (some value) := rfl
  rw [hverify] at haccepted
  rw [hverify, hverify]
  obtain ⟨text, t, b, c, htext, hscheme, hauthorize, hlookup, hjudge, -⟩ :=
    Verifier.verifyValue_eq_accepted_iff.1 haccepted
  obtain rfl := Option.some.inj htext
  -- the registry leads to the scheme that has read the value
  have hidentifies : (Scheme.current s).identifies header = true := (parse_eq_ok_iff.1 hparse).1
  have hfound := Registry.schemeOf?_eq_some_iff.2 ⟨hmem, hidentifies⟩
  obtain rfl : .current s = t := Option.some.inj (hfound.symm.trans hscheme)
  obtain ⟨hread, hrequired⟩ := Scheme.authorize_eq_ok_iff.1 hauthorize
  have hparse' : s.parse header = .ok b := hread
  obtain rfl : a = b := Except.ok.inj (hparse.symm.trans hparse')
  -- so the signature is one that this scheme computes
  obtain ⟨key, -, -, -, hsignature⟩ := Scheme.judge_eq_ok_iff.1 hjudge
  obtain ⟨message, -, hmac⟩ := Scheme.checkSignature_eq_ok_iff.1 hsignature
  have hreadable : Readable s a := readable_of_parse hparse hmac
  have hversion : a.version ≠ "" := by
    rw [hreadable.version]
    decide
  have hbegins : Token.begins token (render a) = true := begins_render hversion
  have hscheme' : v.registry.schemeOf? (some (render a)) = some (.current s) :=
    Registry.schemeOf?_eq_some_iff.2 ⟨hmem, hbegins⟩
  have hwritten : s.parse (render a) = .ok a := parse_render hreadable
  have hauthorize' : (Scheme.current s).authorize r (render a) = .ok a :=
    Scheme.authorize_eq_ok_iff.2 ⟨hwritten, hrequired⟩
  rw [Verifier.verifyValue_of_judge hscheme hauthorize hlookup hjudge,
    Verifier.verifyValue_of_judge hscheme' hauthorize' hlookup hjudge]
  exact ⟨rfl, rfl⟩

end WrittenForm

/-- **What is read may be signed, and what is accepted is accepted in its written form, too**, by
every server that has the scheme. -/
theorem verify_render_of_parse (h : s.parse header = .ok a) :
    s.check a = .ok () ∧ (∀ name ∈ a.headers, Listable name) ∧
      (s.allowed = [] ∨ ∀ name ∈ a.headers, Text.lower name ∈ s.allowed.map Text.lower) ∧
      ∀ (v : Verifier) (clock : Clock) (lookup : String → Option Credential) (r : Request)
        (identity : String), .current s ∈ v.registry.schemes →
          (v.verify clock lookup r (some header)).outcome =
            .ok (.accepted CurrentScheme.id identity) →
          v.verify clock lookup r (some (render a)) = v.verify clock lookup r (some header) ∧
            (v.verify clock lookup r (some header)).asked = [a.id] := by
  obtain ⟨-, -, -, -, -, -, hallowed⟩ := parse_eq_ok_iff.1 h
  exact ⟨check_of_parse h, listable_of_parse h, allows_all_iff.1 hallowed,
    fun v clock lookup r identity hmem haccepted => verify_render h hmem haccepted⟩

/-! A value with the pairs in another order, an id that is replaced by a later one, other marks
between them, and escapes in the signature. -/

def scatteredScheme : CurrentScheme := ⟨.md5, []⟩

def scatteredVerifier : Verifier := ⟨⟨[.current scatteredScheme], by decide⟩, 900⟩

def scatteredLookup (id : String) : Option Credential :=
  if id = "a" then some ⟨"a", "QQ=="⟩ else none

def scatteredRequest : Request where
  method := "GET"
  host := "b.example"
  path := "/"
  query := ""
  headers := ⟨[("X-Authorization-Timestamp", "0")]⟩
  body := []

def scatteredAuthorization : Authorization where
  id := "a"
  realm := ""
  nonce := "n"
  version := "2.0"
  headers := []
  signature := "0ekhugAxQBPqdLufVX0KDA=="

def scatteredHeader : String :=
  "Acquia-HTTP-HMAC signature=\"0ekhugAxQBPqdLufVX0KDA%3d=\"; id=\"x\" version=\"2.0\"" ++
    "nonce=\"n\",,ID=\"a\" "

theorem scattered_parse : scatteredScheme.parse scatteredHeader = .ok scatteredAuthorization :=
  parse_eq_ok_iff.2 (by decide)

theorem scattered_outcome :
    (scatteredVerifier.verify (.whole 0) scatteredLookup scatteredRequest
      (some scatteredHeader)).outcome = .ok (.accepted CurrentScheme.id "a") := by
  have hbegins : Token.begins token scatteredHeader = true := (parse_eq_ok_iff.1 scattered_parse).1
  have hread : (Scheme.current scatteredScheme).parse scatteredHeader =
      .ok scatteredAuthorization := scattered_parse
  have hauthorize : (Scheme.current scatteredScheme).authorize scatteredRequest scatteredHeader =
      .ok scatteredAuthorization := Scheme.authorize_eq_ok_iff.2 ⟨hread, by decide⟩
  have hok : ((Scheme.current scatteredScheme).judge (.whole 0) 900 scatteredRequest
      scatteredAuthorization ⟨"a", "QQ=="⟩).isOk = true := by
    decide +kernel
  obtain ⟨_, hjudge⟩ := exists_eq_ok_of_isOk hok
  exact Verifier.verifyValue_eq_accepted_iff.2 ⟨scatteredHeader, _, _, _, rfl,
    Registry.schemeOf?_eq_some_iff.2 ⟨List.mem_singleton_self _, hbegins⟩, hauthorize, by decide,
    hjudge, rfl, rfl⟩

theorem scattered_accepted :
    scatteredScheme.parse scatteredHeader = .ok scatteredAuthorization ∧
      (scatteredVerifier.verify (.whole 0) scatteredLookup scatteredRequest
        (some scatteredHeader)).outcome = .ok (.accepted "v2" "a") ∧
      scatteredVerifier.verify (.whole 0) scatteredLookup scatteredRequest
          (some (render scatteredAuthorization)) =
        scatteredVerifier.verify (.whole 0) scatteredLookup scatteredRequest
          (some scatteredHeader) := by
  obtain ⟨-, -, -, hwritten⟩ := verify_render_of_parse scattered_parse
  refine ⟨scattered_parse, scattered_outcome, (hwritten _ _ _ _ _ ?_ scattered_outcome).1⟩
  exact List.mem_singleton_self _

end CurrentScheme
end SignedHttp
