import SignedHttp.Proofs.Attached

/-!
# Signing again

A request that has been signed already has all the header fields that a signature needs.  To make
them once more changes nothing: the header fields come out the same and stay in their places.

* `Scheme.sign_of_alike`: Authorization fields have no part in signing.
* `Scheme.signingHeaders_again`: the scheme's own header fields.  The second scheme makes all of
  them again, the first one keeps its date.
* `Scheme.createHeaders_again`: all the header fields.
* `Environment.createHeaders_twice`: the same with the scheme chosen by its id, and what becomes of
  the request.
-/

set_option autoImplicit false

namespace SignedHttp

variable {s : Scheme} {r r' : Request} {c : Credential} {a : Authorization} {t t' : Int}
  {signed : SignedRequest} {names : List String} {fields own : List (String × String)}

namespace Request

/-- To set the last of the same fields again changes nothing either. -/
theorem withHeaders_of_isSuffix {fields' : List (String × String)} (h : fields' <:+ fields) :
    (r.withHeaders fields).withHeaders fields' = r.withHeaders fields := by
  obtain ⟨leading, rfl⟩ := h
  rw [withHeaders_append, withHeaders_withHeaders]

end Request

namespace Scheme

/-- **Authorization fields have no part in signing**, unless they are signed. -/
theorem sign_of_alike (h : r.Alike r')
    (hnames : ∀ name ∈ a.headers, Text.lower name ≠ "authorization")
    (hsign : (s.sign r c a).value = .ok signed) : (s.sign r' c a).value = .ok signed := by
  obtain ⟨hsignature, hheader⟩ := sign_eq_ok_iff.1 hsign
  obtain ⟨hcheck, key, text, hkey, htext, hmac⟩ := signature_eq_ok_iff.1 hsignature
  have htext' := signedText_of_alike h hnames htext
  exact sign_eq_ok_iff.2 ⟨signature_eq_ok_iff.2 ⟨hcheck, key, text, hkey, htext', hmac⟩, hheader⟩

/-! ## The parameters -/

variable {freshNonce freshNonce' realm nonce : String}

/-- A nonce that is given leaves no use for a fresh one. -/
theorem newParameters_of_nonce (hnonce : nonce ≠ "") :
    s.newParameters freshNonce c.id realm (some nonce) names =
      s.newParameters freshNonce' c.id realm (some nonce) names := by
  cases s with
  | legacy s => rfl
  | current s =>
    have hgiven : ((some nonce).getD "").isEmpty = false := by simpa using hnonce
    simp only [newParameters, CurrentScheme.newParameters, hgiven]
    rfl

/-- What is signed was asked for, or is what the first scheme is configured with. -/
theorem forall_mem_headers_newParameters {p : String → Prop} (hnames : ∀ name ∈ names, p name)
    (hconfigured : ∀ l, s = .legacy l → ∀ name ∈ l.headers, p name) :
    ∀ name ∈ (s.newParameters freshNonce c.id realm (some nonce) names).headers, p name := by
  cases s with
  | legacy l =>
    change ∀ name ∈ (if names.isEmpty then l.headers else names), p name
    split
    · exact hconfigured l rfl
    · exact hnames
  | current s => exact hnames

/-! ## The header fields -/

/-- **The scheme's own header fields, made again**: the second scheme makes the same ones at the
same time, and the first one makes none at any time. -/
theorem signingHeaders_again (h : s.signingHeaders r t = .ok own)
    (ht : t' = t ∨ s.id = LegacyScheme.id) (header : String) :
    ∃ own', own' <:+ own ∧
      s.signingHeaders ((r.withHeaders own).attach header) t' = .ok own' := by
  cases s with
  | legacy s =>
    refine ⟨[], List.nil_suffix, ?_⟩
    have hdate : ((r.withHeaders own).attach header).headers.contains Headers.date = true := by
      rw [Headers.contains, Request.get?_attach (by decide)]
      exact LegacyScheme.contains_date_of_signingHeaders h
    exact if_pos hdate
  | current s =>
    obtain rfl : t' = t := ht.resolve_right (show CurrentScheme.id ≠ LegacyScheme.id by decide)
    exact ⟨own, List.suffix_rfl, h⟩

/-- **Making all the header fields again** gives the same ones, or the last of them. -/
theorem createHeaders_again (hnonce : nonce ≠ "")
    (hnames : ∀ name ∈ names, Text.lower name ≠ "authorization")
    (hconfigured : ∀ l, s = .legacy l → ∀ name ∈ l.headers, Text.lower name ≠ "authorization")
    (ht : t' = t ∨ s.id = LegacyScheme.id)
    (h : (s.createHeaders r c freshNonce realm (some nonce) names t).value = .ok fields) :
    ∃ fields', (s.createHeaders (r.withHeaders fields) c freshNonce' realm (some nonce) names
        t').value = .ok fields' ∧ fields' <:+ fields ∧
      ∃ header, fields'.getLast? = some (Headers.authorization, header) ∧
        fields.getLast? = some (Headers.authorization, header) := by
  obtain ⟨own, signed, hown, hsign, rfl⟩ := createHeaders_eq_ok_iff.1 h
  rw [Request.withHeaders_concat]
  obtain ⟨own', hsuffix, hown'⟩ := signingHeaders_again hown ht signed.header
  -- what is signed the second time is the request of the first time, but for the attached value
  have halike : (r.withHeaders own).Alike
      (((r.withHeaders own).attach signed.header).withHeaders own') := by
    have hsame := (Request.alike_attach (r.withHeaders own) signed.header).withHeaders own'
    rwa [Request.withHeaders_of_isSuffix hsuffix] at hsame
  rw [newParameters_of_nonce hnonce] at hsign
  have hsign' := sign_of_alike halike (forall_mem_headers_newParameters hnames hconfigured) hsign
  refine ⟨own' ++ [(Headers.authorization, signed.header)],
    createHeaders_eq_ok_iff.2 ⟨own', signed, hown', hsign', rfl⟩, ?_, signed.header, ?_, ?_⟩
  · obtain ⟨leading, rfl⟩ := hsuffix
    exact ⟨leading, (List.append_assoc ..).symm⟩
  · exact List.getLast?_concat
  · exact List.getLast?_concat

end Scheme

/-- **To make the header fields of a signed request once more changes nothing.**  With the same
choices they can be made, whatever the clock and the fresh nonce are then; setting them leaves every
header field as it is and where it is; and the Authorization value, which is the last of them, is
the same.  For the first scheme the time does not matter either, since a date that is there is
kept. -/
theorem Environment.createHeaders_twice {env : Environment} {reg : Registry} {version : String}
    {realm : Option String} {nonce : String} (hnonce : nonce ≠ "")
    (hnames : ∀ name ∈ names, Text.lower name ≠ "authorization")
    (hconfigured : ∀ l, reg.find? version = some (.legacy l) →
      ∀ name ∈ l.headers, Text.lower name ≠ "authorization")
    (ht : t' = t ∨ version = LegacyScheme.id)
    (h : (env.createHeaders (some reg) r c version realm (some nonce) names (some t)).value =
      .ok fields) (clock : Clock) (freshNonce : String) :
    ∃ fields', ((Environment.mk env.vars clock freshNonce).createHeaders (some reg)
        (r.withHeaders fields) c version realm (some nonce) names (some t')).value = .ok fields' ∧
      (r.withHeaders fields).withHeaders fields' = r.withHeaders fields ∧
      fields' <:+ fields ∧
      ∃ header, fields.getLast? = some (Headers.authorization, header) ∧
        fields'.getLast? = some (Headers.authorization, header) := by
  obtain ⟨s, text, hfind, hrealm, hcreate⟩ := createHeaders_eq_ok_iff.1 h
  obtain ⟨hmem, rfl⟩ := Registry.find?_eq_some_iff.1 hfind
  obtain ⟨fields', hcreate', hsuffix, header, hlast', hlast⟩ :=
    Scheme.createHeaders_again hnonce hnames (fun l hl => hconfigured l (hl ▸ hfind)) ht hcreate
  exact ⟨fields', createHeaders_eq_ok_iff.2 ⟨s, text, hfind, hrealm, hcreate'⟩,
    Request.withHeaders_of_isSuffix hsuffix, hsuffix, header, hlast, hlast'⟩

/-! A request without a date that is signed in 1970, and again a day later. -/

theorem spaced_twice :
    (LegacyScheme.spacedEnvironment.createHeaders (some LegacyScheme.spacedRegistry)
        LegacyScheme.spacedRequest LegacyScheme.spacedCredential "v1" (some "r") (some "n") []
        (some 0)).value = .ok LegacyScheme.spacedFields ∧
    ∃ fields', ((Environment.mk [] (.whole 86400) "m").createHeaders
        (some LegacyScheme.spacedRegistry)
        (LegacyScheme.spacedRequest.withHeaders LegacyScheme.spacedFields)
        LegacyScheme.spacedCredential "v1" (some "r") (some "n") [] (some 86400)).value =
          .ok fields' ∧
      (LegacyScheme.spacedRequest.withHeaders LegacyScheme.spacedFields).withHeaders fields' =
        LegacyScheme.spacedRequest.withHeaders LegacyScheme.spacedFields ∧
      fields' <:+ LegacyScheme.spacedFields ∧
      ∃ header, LegacyScheme.spacedFields.getLast? = some (Headers.authorization, header) ∧
        fields'.getLast? = some (Headers.authorization, header) := by
  have hcreate : (LegacyScheme.spacedEnvironment.createHeaders (some LegacyScheme.spacedRegistry)
      LegacyScheme.spacedRequest LegacyScheme.spacedCredential "v1" (some "r") (some "n") []
      (some 0)).value = .ok LegacyScheme.spacedFields := by
    decide +kernel
  have hfind : LegacyScheme.spacedRegistry.find? "v1" = some (.legacy ⟨.sha1, ["X-Custom"]⟩) := by
    decide
  refine ⟨hcreate, Environment.createHeaders_twice (by decide) (List.forall_mem_nil _) ?_ (.inr rfl)
    hcreate (.whole 86400) "m"⟩
  intro l hl
  obtain rfl := Scheme.legacy.inj (Option.some.inj (hfind.symm.trans hl))
  exact List.forall_mem_singleton.2 (by decide +kernel)

end SignedHttp
