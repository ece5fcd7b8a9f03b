import SignedHttp.Proofs.Checks
import SignedHttp.Signing

/-!
# When a request is signed

`Scheme.signature_eq_ok_iff` names everything that goes into a signature, `Scheme.sign_eq_ok_iff`
adds the Authorization value, and `Registry.sign_eq_ok_iff` the choice of the scheme.
`Environment.createHeaders_eq_ok_iff` does the same for all the header fields that a request needs.
-/

set_option autoImplicit false

namespace SignedHttp

variable {s : Scheme} {r : Request} {c : Credential} {a : Authorization}

namespace Scheme

theorem signingKey_eq_ok_iff {key : Octets} :
    s.signingKey c a = .ok key ↔ s.check a = .ok () ∧ s.key c = .ok key := by
  rw [signingKey, bind_eq_ok_iff]
  constructor
  · rintro ⟨_, hcheck, hkey⟩
    exact ⟨mapError_eq_ok_iff.1 hcheck, mapError_eq_ok_iff.1 hkey⟩
  · rintro ⟨hcheck, hkey⟩
    exact ⟨(), mapError_eq_ok_iff.2 hcheck, mapError_eq_ok_iff.2 hkey⟩

/-- **A signature is the code of the signed text under the key.** -/
theorem signature_eq_ok_iff {signature : String} :
    s.signature r c a = .ok signature ↔
      s.check a = .ok () ∧ ∃ key text, s.key c = .ok key ∧ s.signedText r a = .ok text ∧
        s.digest.macBase64 key text = signature := by
  rw [Scheme.signature, bind_eq_ok_iff]
  constructor
  · rintro ⟨key, hkey, h⟩
    obtain ⟨hcheck, hkey⟩ := signingKey_eq_ok_iff.1 hkey
    obtain ⟨text, htext, h⟩ := bind_eq_ok_iff.1 h
    exact ⟨hcheck, key, text, hkey, mapError_eq_ok_iff.1 htext, Except.ok.inj h⟩
  · rintro ⟨hcheck, key, text, hkey, htext, rfl⟩
    refine ⟨key, signingKey_eq_ok_iff.2 ⟨hcheck, hkey⟩, ?_⟩
    rw [bind_eq_ok_iff]
    exact ⟨text, mapError_eq_ok_iff.2 htext, rfl⟩

/-- The faults of the parameters are told before those of the secret. -/
theorem signingKey_eq_error_iff {error : SigningError} :
    s.signingKey c a = .error error ↔
      (∃ fault, s.check a = .error fault ∧ error = .parameters fault) ∨
        s.check a = .ok () ∧ ∃ fault, s.key c = .error fault ∧ error = .secret fault := by
  rw [signingKey, check_bind_eq_error_iff, mapError_eq_error_iff, mapError_eq_ok_iff,
    mapError_eq_error_iff]
  simp only [eq_comm (a := error)]

/-- **Signing fails in the parameters, in the secret or in the header fields**, in this order. -/
theorem signature_eq_error_iff {error : SigningError} :
    s.signature r c a = .error error ↔
      (∃ fault, s.check a = .error fault ∧ error = .parameters fault) ∨
        s.check a = .ok () ∧
          ((∃ fault, s.key c = .error fault ∧ error = .secret fault) ∨
            (∃ key, s.key c = .ok key) ∧
              ∃ header, s.signedText r a = .error header ∧ error = .missingHeader header) := by
  have htext (key : Octets) :
      (do let text ← (s.signedText r a).mapError SigningError.missingHeader
          return s.digest.macBase64 key text) = .error error ↔
        ∃ header, s.signedText r a = .error header ∧ error = .missingHeader header := by
    rw [bind_eq_error_iff, mapError_eq_error_iff]
    simp only [pure, Except.pure, reduceCtorEq, and_false, exists_const, or_false,
      eq_comm (a := error)]
  rw [Scheme.signature, bind_eq_error_iff, signingKey_eq_error_iff]
  simp only [htext, signingKey_eq_ok_iff]
  grind

theorem sign_eq_ok_iff {signed : SignedRequest} :
    (s.sign r c a).value = .ok signed ↔
      s.signature r c a = .ok signed.signature ∧
        s.render (a.withSignature signed.signature) = signed.header := by
  obtain ⟨signature, header⟩ := signed
  rw [sign]
  cases s.signature r c a with
  | error e => simp
  | ok found =>
    simp only [Except.ok.injEq, SignedRequest.mk.injEq]
    constructor
    · rintro ⟨rfl, hheader⟩
      exact ⟨rfl, hheader⟩
    · rintro ⟨rfl, hheader⟩
      exact ⟨rfl, hheader⟩

/-- Only the signature can be in the way. -/
theorem sign_eq_error_iff {error : SigningError} :
    (s.sign r c a).value = .error error ↔ s.signature r c a = .error error := by
  rw [sign]
  cases s.signature r c a with
  | error e => simp
  | ok signature => simp

/-- The header fields are the scheme's own and the Authorization value of the request that carries
them. -/
theorem createHeaders_eq_ok_iff {freshNonce realm : String} {nonce : Option String}
    {names : List String} {t : Int} {fields : List (String × String)} :
    (s.createHeaders r c freshNonce realm nonce names t).value = .ok fields ↔
      ∃ own signed, s.signingHeaders r t = .ok own ∧
        (s.sign (r.withHeaders own) c (s.newParameters freshNonce c.id realm nonce names)).value =
          .ok signed ∧ fields = own ++ [(Headers.authorization, signed.header)] := by
  rw [createHeaders]
  cases s.signingHeaders r t with
  | error e => simp
  | ok own =>
    cases hsigned : (s.sign (r.withHeaders own) c
      (s.newParameters freshNonce c.id realm nonce names)).value with
    | error e => simp [hsigned]
    | ok signed => simp [hsigned, eq_comm]

end Scheme

namespace Registry

theorem scheme_eq_ok_iff {reg : Registry} {version : String} :
    reg.scheme version = .ok s ↔ reg.find? version = some s := by
  rw [scheme]
  cases reg.find? version with
  | none => simp
  | some s => simp

theorem sign_eq_ok_iff {reg : Registry} {version : String} {signed : SignedRequest} :
    (reg.sign r c a version).value = .ok signed ↔
      ∃ s, reg.find? version = some s ∧ (s.sign r c a).value = .ok signed := by
  rw [sign, scheme]
  cases reg.find? version with
  | none => simp
  | some s => simp

end Registry

namespace Environment

variable {env : Environment} {reg : Registry} {version : String} {realm : Option String} {t : Int}

/-- What is given is not looked for. -/
theorem prepare_eq : env.prepare (some reg) version realm (some t) = (do
    let s ← (reg.scheme version).mapError .signing
    let text ← (env.realm realm).mapError .config
    return (s, t, text)) :=
  rfl

theorem prepare_eq_ok_iff {prepared : Scheme × Int × String} :
    env.prepare (some reg) version realm (some t) = .ok prepared ↔
      ∃ s text, reg.find? version = some s ∧ env.realm realm = .ok text ∧
        prepared = (s, t, text) := by
  rw [prepare_eq]
  constructor
  · intro h
    obtain ⟨s, hs, h⟩ := bind_eq_ok_iff.1 h
    obtain ⟨text, htext, h⟩ := bind_eq_ok_iff.1 h
    exact ⟨s, text, Registry.scheme_eq_ok_iff.1 (mapError_eq_ok_iff.1 hs),
      mapError_eq_ok_iff.1 htext, (Except.ok.inj h).symm⟩
  · rintro ⟨s, text, hs, htext, rfl⟩
    refine bind_eq_ok_iff.2 ⟨s, mapError_eq_ok_iff.2 (Registry.scheme_eq_ok_iff.2 hs), ?_⟩
    exact bind_eq_ok_iff.2 ⟨text, mapError_eq_ok_iff.2 htext, rfl⟩

theorem createHeaders_eq_ok_iff {nonce : Option String} {names : List String}
    {fields : List (String × String)} :
    (env.createHeaders (some reg) r c version realm nonce names (some t)).value = .ok fields ↔
      ∃ s text, reg.find? version = some s ∧ env.realm realm = .ok text ∧
        (s.createHeaders r c env.freshNonce text nonce names t).value = .ok fields := by
  rw [createHeaders]
  constructor
  · intro h
    split at h
    · exact absurd h (by simp)
    · next hprepared =>
      obtain ⟨s, text, hs, htext, hfound⟩ := prepare_eq_ok_iff.1 hprepared
      simp only [Prod.mk.injEq] at hfound
      obtain ⟨rfl, rfl, rfl⟩ := hfound
      exact ⟨_, _, hs, htext, h⟩
  · rintro ⟨s, text, hs, htext, h⟩
    rw [prepare_eq_ok_iff.2 ⟨s, text, hs, htext, rfl⟩]
    exact h

end Environment
end SignedHttp
