import SignedHttp.Proofs.Current.Agreement
import SignedHttp.Proofs.Precedence
import SignedHttp.Proofs.Signing

/-!
# What secrets do not show

A secret decides whether it gives a key, and the key decides whether the last comparison succeeds.
Nothing else that a caller or a reader of the log can see depends on it.  So two runs that differ in
the secrets only, and in which these two decisions fall alike, are the same run to everybody who
does not hold the secrets.

* `Scheme.ReadAlike`: two secrets that both give a key, or fail to do so for the same reason.
* `Scheme.Indistinct`: two credentials on which the comparison of signatures falls alike, too.
* `Verifier.verify_congr`: verification with the one or the other comes to the same verdict, asks
  for the same ids and writes the same log.
* `Registry.sign_congr`: signing writes the same log, and it fails in the same way.
* `secrets_hidden`: both together.
-/

set_option autoImplicit false

namespace SignedHttp

variable {s : Scheme} {clock : Clock} {tolerance : Int} {r : Request} {a : Authorization}
  {c c' : Credential}

/-! ## One credential in the place of another -/

namespace Scheme

/-- Two secrets that both give a key, or fail to do so for the same reason. -/
def ReadAlike (s : Scheme) (c c' : Credential) : Prop :=
  ∀ fault, s.key c = .error fault ↔ s.key c' = .error fault

theorem ReadAlike.exists_key (h : s.ReadAlike c c') {key : Octets} (hkey : s.key c = .ok key) :
    ∃ key', s.key c' = .ok key' := by
  cases hkey' : s.key c' with
  | ok key' => exact ⟨key', rfl⟩
  | error fault =>
    have hfault := (h fault).2 hkey'
    rw [hkey] at hfault
    exact absurd hfault (by simp)

/-- Two credentials on which the checks of a request fall alike: if there are keys and the request
gets as far as the comparison, its signature is right under both keys or under neither. -/
structure Indistinct (s : Scheme) (clock : Clock) (tolerance : Int) (r : Request)
    (a : Authorization) (c c' : Credential) : Prop where
  key : s.ReadAlike c c'
  signature : ∀ key key' message, s.key c = .ok key → s.key c' = .ok key' →
    s.checkTime clock tolerance r = .ok () → s.checkBody r = .ok () →
    s.signedText r a = .ok message →
    (s.digest.macBase64 key message = a.signature ↔ s.digest.macBase64 key' message = a.signature)

theorem checkSignature_congr {key key' : Octets}
    (h : ∀ message, s.signedText r a = .ok message →
      (s.digest.macBase64 key message = a.signature ↔
        s.digest.macBase64 key' message = a.signature)) :
    s.checkSignature r a key = s.checkSignature r a key' := by
  rw [checkSignature, checkSignature]
  cases hmessage : s.signedText r a with
  | error missing => rfl
  | ok message =>
    change (if s.digest.macBase64 key message = a.signature then _ else _) =
      if s.digest.macBase64 key' message = a.signature then _ else _
    exact if_congr (h message hmessage) rfl rfl

/-- **Behind the credential** only the two decisions depend on the secret. -/
theorem judge_congr (h : s.Indistinct clock tolerance r a c c') :
    s.judge clock tolerance r a c = s.judge clock tolerance r a c' := by
  cases hkey : s.key c with
  | error fault => rw [judge, judge, hkey, (h.key fault).1 hkey]
  | ok key =>
    obtain ⟨key', hkey'⟩ := h.key.exists_key hkey
    rw [judge_of_key hkey, judge_of_key hkey']
    cases htime : s.checkTime clock tolerance r with
    | error halt => rfl
    | ok _ =>
      cases hbody : s.checkBody r with
      | error error => rfl
      | ok _ =>
        rw [checkSignature_congr fun message hmessage =>
          h.signature key key' message hkey hkey' htime hbody hmessage]

end Scheme

/-! ## Verifying -/

namespace Verifier

variable {v : Verifier} {lookup lookup' : String → Option Credential} {value : Option String}

theorem conclude_congr {found found' : Option Credential}
    (hids : found.map Credential.id = found'.map Credential.id)
    (hjudge : ∀ c ∈ found, ∀ c' ∈ found', s.Indistinct clock v.tolerance r a c c') :
    v.conclude clock s r a found = v.conclude clock s r a found' := by
  cases found with
  | none =>
    cases found' with
    | none => rfl
    | some c' => exact absurd hids (by simp)
  | some c =>
    cases found' with
    | none => exact absurd hids (by simp)
    | some c' =>
      have hid : c.id = c'.id := Option.some.inj hids
      rw [conclude, conclude, Scheme.judge_congr (hjudge c rfl c' rfl), hid]

/-- **Verification does not show the secrets**: look-ups that find credentials of the same ids, on
which the two decisions fall alike, are met with the same verdict, the same questions and the same
log. -/
theorem verify_congr
    (hids : ∀ id, (lookup id).map Credential.id = (lookup' id).map Credential.id)
    (hsecrets : ∀ text s a c c', value.or (r.headers.get? Headers.authorization) = some text →
      Authorized v r text s a → lookup a.id = some c → lookup' a.id = some c' →
      s.Indistinct clock v.tolerance r a c c') :
    v.verify clock lookup r value = v.verify clock lookup' r value := by
  rw [verify, verify]
  generalize value.or (r.headers.get? Headers.authorization) = used at hsecrets ⊢
  rcases authorization_cases v r used with
    hscheme | ⟨text, s, rfl, hscheme, ⟨error, hauthorize⟩ | ⟨a, hauthorize⟩⟩
  · rw [verifyValue_eq_reject_unidentified hscheme, verifyValue_eq_reject_unidentified hscheme]
  · rw [verifyValue_eq_reject hscheme hauthorize, verifyValue_eq_reject hscheme hauthorize]
  · rw [verifyValue_eq_conclude hscheme hauthorize, verifyValue_eq_conclude hscheme hauthorize]
    refine conclude_congr (hids a.id) fun c hc c' hc' => ?_
    exact hsecrets text s a c c' rfl (authorized_iff.2 ⟨hscheme, hauthorize⟩) hc hc'

end Verifier

/-! ## Signing -/

namespace Scheme

theorem signature_eq_error_congr (h : s.ReadAlike c c') {error : SigningError} :
    s.signature r c a = .error error ↔ s.signature r c' a = .error error := by
  have hkey : (∃ key, s.key c = .ok key) ↔ ∃ key, s.key c' = .ok key :=
    ⟨fun ⟨_, hkey⟩ => h.exists_key hkey, fun ⟨_, hkey⟩ =>
      ReadAlike.exists_key (fun fault => (h fault).symm) hkey⟩
  rw [signature_eq_error_iff, signature_eq_error_iff, hkey]
  simp only [h _]

theorem log_sign_congr (hid : c.id = c'.id) (h : s.ReadAlike c c') :
    (s.sign r c a).log = (s.sign r c' a).log := by
  rw [sign, sign]
  cases hsigned : s.signature r c a with
  | error error => rw [(signature_eq_error_congr h).1 hsigned]
  | ok signed =>
    cases hsigned' : s.signature r c' a with
    | error error =>
      have herror := (signature_eq_error_congr h).2 hsigned'
      rw [hsigned] at herror
      exact absurd herror (by simp)
    | ok signed' => simp only [hid]

end Scheme

namespace Registry

variable {reg : Registry} {version : String}

/-- **Signing does not show the secret**, neither in the log nor in the way in which it fails. -/
theorem sign_congr (hid : c.id = c'.id)
    (h : ∀ s, reg.find? version = some s → s.ReadAlike c c') :
    (reg.sign r c a version).log = (reg.sign r c' a version).log ∧
      ∀ error, (reg.sign r c a version).value = .error error ↔
        (reg.sign r c' a version).value = .error error := by
  rw [sign, sign, scheme]
  cases hfind : reg.find? version with
  | none => exact ⟨rfl, fun _ => Iff.rfl⟩
  | some s =>
    refine ⟨Scheme.log_sign_congr hid (h s hfind), fun error => ?_⟩
    change (s.sign r c a).value = _ ↔ (s.sign r c' a).value = _
    rw [Scheme.sign_eq_error_iff, Scheme.sign_eq_error_iff,
      Scheme.signature_eq_error_congr (h s hfind)]

end Registry

/-- **Secrets are hidden.**  Two runs over the same request, in which the look-ups differ in the
secrets only and the two decisions that rest on the secrets fall alike, come to the same: the
outcome with its error, the ids that are asked for, and every entry of the log.  And two runs that
sign the same request with secrets that are read alike write the same log and fail alike. -/
theorem secrets_hidden :
    (∀ (v : Verifier) (clock : Clock) (lookup lookup' : String → Option Credential) (r : Request)
      (value : Option String),
      (∀ id, (lookup id).map Credential.id = (lookup' id).map Credential.id) →
      (∀ text s a c c', value.or (r.headers.get? Headers.authorization) = some text →
        Verifier.Authorized v r text s a → lookup a.id = some c → lookup' a.id = some c' →
        s.Indistinct clock v.tolerance r a c c') →
      v.verify clock lookup r value = v.verify clock lookup' r value) ∧
    (∀ (reg : Registry) (r : Request) (a : Authorization) (version : String) (c c' : Credential),
      c.id = c'.id → (∀ s, reg.find? version = some s → s.ReadAlike c c') →
      (reg.sign r c a version).log = (reg.sign r c' a version).log ∧
        ∀ error, (reg.sign r c a version).value = .error error ↔
          (reg.sign r c' a version).value = .error error) := by
  constructor
  · intro v clock lookup lookup' r value hids hsecrets
    exact Verifier.verify_congr hids hsecrets
  · intro reg r a version c c' hid hread
    exact Registry.sign_congr hid hread

/-! A key with a zero more at its end is filled up to the same block.  So this is another secret,
and still no signature tells the two apart. -/

def filledCredential : Credential where
  id := "efdde334"
  secret := "QQA="

def filledLookup (id : String) : Option Credential :=
  if id = filledCredential.id then some filledCredential else none

theorem blockKey_filled (alg : Algorithm) : alg.blockKey [65] = alg.blockKey [65, 0] := by
  cases alg <;> decide

theorem key_sample (s : CurrentScheme) :
    (Scheme.current s).key CurrentScheme.sampleCredential = .ok [65] :=
  (by decide : CurrentScheme.key CurrentScheme.sampleCredential = .ok [65])

theorem key_filled (s : CurrentScheme) : (Scheme.current s).key filledCredential = .ok [65, 0] :=
  (by decide : CurrentScheme.key filledCredential = .ok [65, 0])

theorem readAlike_filled (s : CurrentScheme) :
    (Scheme.current s).ReadAlike CurrentScheme.sampleCredential filledCredential := by
  intro fault
  rw [key_sample, key_filled]
  simp

theorem indistinct_filled (s : CurrentScheme) :
    (Scheme.current s).Indistinct clock tolerance r a CurrentScheme.sampleCredential
      filledCredential := by
  refine ⟨readAlike_filled s, fun key key' message h h' _ _ _ => ?_⟩
  obtain rfl : [65] = key := Except.ok.inj ((key_sample s).symm.trans h)
  obtain rfl : [65, 0] = key' := Except.ok.inj ((key_filled s).symm.trans h')
  rw [Algorithm.macBase64, Algorithm.macBase64, Algorithm.mac, Algorithm.mac, blockKey_filled]

theorem map_id_filledLookup (id : String) :
    (CurrentScheme.sampleLookup id).map Credential.id = (filledLookup id).map Credential.id := by
  have hid : CurrentScheme.sampleCredential.id = filledCredential.id := rfl
  rw [CurrentScheme.sampleLookup, filledLookup, hid]
  split
  · rfl
  · rfl

/-- Of the two schemes it is the second to which the signed value belongs. -/
theorem eq_current_of_identifies {s : Scheme} (hs : s ∈ CurrentScheme.sampleRegistry.schemes)
    (hidentifies : s.identifies CurrentScheme.sampleSigned.header = true) :
    s = .current ⟨.sha256, []⟩ := by
  have hlegacy : (Scheme.legacy ⟨.sha1, []⟩).identifies CurrentScheme.sampleSigned.header =
      false := by decide +kernel
  rcases Registry.mem_pair_iff.1 hs with rfl | rfl
  · exact absurd hidentifies (by rw [hlegacy]; simp)
  · rfl

theorem eq_sample_of_lookup {id : String} (h : CurrentScheme.sampleLookup id = some c) :
    c = CurrentScheme.sampleCredential := by
  rw [CurrentScheme.sampleLookup] at h
  split at h
  · exact (Option.some.inj h).symm
  · exact absurd h (by simp)

theorem eq_filled_of_lookup {id : String} (h : filledLookup id = some c) :
    c = filledCredential := by
  rw [filledLookup] at h
  split at h
  · exact (Option.some.inj h).symm
  · exact absurd h (by simp)

theorem filled_hidden :
    (CurrentScheme.sampleCredential.secret ≠ filledCredential.secret ∧
      ∀ id, (CurrentScheme.sampleLookup id).map Credential.id =
        (filledLookup id).map Credential.id) ∧
    (Verifier.mk CurrentScheme.sampleRegistry 900).verify (.whole 1432076000)
        CurrentScheme.sampleLookup
        (CurrentScheme.sampleRequest.attach CurrentScheme.sampleSigned.header) none =
      (Verifier.mk CurrentScheme.sampleRegistry 900).verify (.whole 1432076000) filledLookup
        (CurrentScheme.sampleRequest.attach CurrentScheme.sampleSigned.header) none ∧
    (CurrentScheme.sampleRegistry.sign CurrentScheme.sampleRequest CurrentScheme.sampleCredential
        CurrentScheme.sampleAuthorization "v2").log =
      (CurrentScheme.sampleRegistry.sign CurrentScheme.sampleRequest filledCredential
        CurrentScheme.sampleAuthorization "v2").log := by
  obtain ⟨hverify, hsign⟩ := secrets_hidden
  have hsigned := hsign CurrentScheme.sampleRegistry CurrentScheme.sampleRequest
    CurrentScheme.sampleAuthorization "v2" CurrentScheme.sampleCredential filledCredential rfl
  refine ⟨⟨by decide, map_id_filledLookup⟩, hverify _ _ _ _ _ _ map_id_filledLookup ?_,
    (hsigned ?_).1⟩
  · intro text s a c c' htext hauthorized hc hc'
    obtain rfl : CurrentScheme.sampleSigned.header = text := by
      rw [Option.none_or, Request.get?_attach_self] at htext
      exact Option.some.inj htext
    rw [eq_current_of_identifies hauthorized.scheme hauthorized.identifies,
      eq_sample_of_lookup hc, eq_filled_of_lookup hc']
    exact indistinct_filled _
  · intro s hs
    obtain rfl : Scheme.current ⟨.sha256, []⟩ = s := Option.some.inj hs
    exact readAlike_filled _

end SignedHttp
