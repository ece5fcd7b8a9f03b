import SignedHttp.Proofs.Raw.Query

/-!
# When there is a signed text

The second scheme percent-encodes the query and the parameters, then looks for header fields, then
writes all the lines in UTF-8.  What comes of it is decided by three conditions, in this order:

* `Raw.CurrentScheme.Quotable`: no lone surrogate in what is percent-encoded.
* `Raw.CurrentScheme.Complete`: no required header field is absent.
* `Raw.CurrentScheme.Writable`: no lone surrogate in what stands in a line as it is.

There is a signed text when all three hold (`Raw.CurrentScheme.exists_signedText_iff`), a header
field is reported as missing when the first holds and the second does not
(`Raw.CurrentScheme.signedText_eq_cause_iff`), and in all other cases some text cannot be written
(`Raw.CurrentScheme.exists_signedText_encoding_iff`).  The first scheme asks for nothing but
`Raw.LegacyScheme.Writable`.
-/

set_option autoImplicit false

namespace SignedHttp
namespace Raw

open Points (ofString join)

variable {r : Request} {a : Authorization}

/-- A text that cannot be written is the third way in which a row of steps ends. -/
theorem exists_encoding_iff {ε α : Type} {x : Except (Failure ε) α} :
    (∃ e, x = .error (.encoding e)) ↔
      ¬(∃ b, x = .ok b) ∧ ¬∃ cause, x = .error (.cause cause) := by
  cases x with
  | ok b => simp
  | error failure =>
    cases failure with
    | cause cause => simp
    | encoding e => simp

/-- The name of the header field that is missing. -/
def MissingHeader.name : MissingHeader → Points
  | signed name => name
  | required name => ofString name

namespace CurrentScheme

/-! ## The conditions -/

/-- What is percent-encoded has no lone surrogates. -/
structure Quotable (r : Request) (a : Authorization) : Prop where
  query : r.query.IsText
  id : a.id.IsText
  nonce : a.nonce.IsText
  realm : a.realm.IsText
  version : a.version.IsText

/-- Every required header field is there. -/
def Complete (r : Request) (a : Authorization) : Prop :=
  ∀ name ∈ requiredHeaders r a, r.headers.contains name = true

/-- What stands in a line as it is, or in another letter case, has no lone surrogates. -/
structure Writable (r : Request) (a : Authorization) : Prop where
  method : r.method.IsText
  host : r.host.IsText
  path : r.path.IsText
  names : ∀ name ∈ a.headers, name.IsText
  values : ∀ name ∈ a.headers, (r.headers.getD name).IsText
  timestamp : (r.headers.getD (ofString Headers.timestamp)).IsText
  contentType : r.body ≠ [] → (r.headers.getD (ofString Headers.contentType)).IsText
  contentDigest : r.body ≠ [] → (r.headers.getD (ofString Headers.contentDigest)).IsText

/-! ## What is percent-encoded -/

theorem exists_parameterLine_iff :
    (∃ line, parameterLine a = .ok line) ↔
      a.id.IsText ∧ a.nonce.IsText ∧ a.realm.IsText ∧ a.version.IsText := by
  have hparameter (p : String × Points) :
      (∃ written, encodeParameter p = .ok written) ↔ p.2.IsText := by
    rw [← Points.exists_quote_iff]
    simp [encodeParameter, map_eq_ok_iff, exists_comm (α := String)]
  simp only [parameterLine, map_eq_ok_iff, exists_comm (α := String), exists_and_left, exists_eq',
    and_true, exists_mapM_eq_ok_iff, hparameter]
  simp

theorem quotable_iff :
    Quotable r a ↔
      (∃ query, Query.normalize r.query = .ok query) ∧ ∃ line, parameterLine a = .ok line := by
  rw [Query.exists_normalize_iff, exists_parameterLine_iff]
  exact ⟨fun h => ⟨h.query, h.id, h.nonce, h.realm, h.version⟩,
    fun ⟨hquery, hid, hnonce, hrealm, hversion⟩ => ⟨hquery, hid, hnonce, hrealm, hversion⟩⟩

/-! ## The header fields -/

/-- The header fields that the signed text asks for, in this order. -/
def sought (r : Request) (a : Authorization) : List MissingHeader :=
  a.headers.map .signed ++ ([.required Headers.timestamp] ++
    if r.body.isEmpty then [] else [.required Headers.contentDigest])

def isAbsent (r : Request) (field : MissingHeader) : Bool := !r.headers.contains field.name

theorem failure?_signedHeaderLine (r : Request) (name : Points) :
    failure? (signedHeaderLine r name) = Option.guard (isAbsent r) (.signed name) := by
  rw [signedHeaderLine, Option.guard, isAbsent, MissingHeader.name, Headers.contains]
  cases r.headers.get? name with
  | none => rfl
  | some value => rfl

theorem failure?_requiredValue (r : Request) (name : String) :
    failure? (requiredValue r name) = [.required name].find? (isAbsent r) := by
  rw [requiredValue, List.find?_singleton, isAbsent, MissingHeader.name, Headers.contains]
  cases r.headers.get? (ofString name) with
  | none => rfl
  | some value => rfl

theorem failure?_bodyLines (r : Request) :
    failure? (bodyLines r) =
      (if r.body.isEmpty then [] else [.required Headers.contentDigest]).find? (isAbsent r) := by
  rw [bodyLines]
  split
  · rfl
  · rw [failure?_map, failure?_requiredValue]

/-- **The first header field that is asked for in vain is the one that is reported.** -/
theorem fieldLines_eq_error_iff {e : MissingHeader} :
    fieldLines r a = .error e ↔ (sought r a).find? (isAbsent r) = some e := by
  have hheaders : failure? (a.headers.mapM (signedHeaderLine r)) =
      (a.headers.map MissingHeader.signed).find? (isAbsent r) := by
    rw [failure?_mapM, ← List.findSome?_guard, List.findSome?_map]
    simp only [failure?_signedHeaderLine, Function.comp_def]
  rw [← failure?_eq_some_iff, sought, List.find?_append, List.find?_append, ← hheaders,
    ← failure?_requiredValue, ← failure?_bodyLines]
  refine Eq.congr ?_ rfl
  exact failure?_bind fun headerLines => failure?_bind fun timestamp => failure?_bind_pure

/-- **Both traversals ask for the same names**, in different orders. -/
theorem map_name_sought_perm (r : Request) (a : Authorization) :
    ((sought r a).map MissingHeader.name).Perm (requiredHeaders r a) := by
  have hnames : (a.headers.map MissingHeader.signed).map MissingHeader.name = a.headers := by
    rw [List.map_map]
    exact List.map_id _
  rw [sought, requiredHeaders, List.map_append, hnames]
  refine List.perm_append_comm.trans (.of_eq ?_)
  cases r.body.isEmpty with
  | true => rfl
  | false => rfl

theorem exists_absent_iff :
    (∃ e, (sought r a).find? (isAbsent r) = some e) ↔ ¬Complete r a := by
  simp only [← Option.isSome_iff_exists, List.find?_isSome, Complete,
    ← (map_name_sought_perm r a).mem_iff, List.forall_mem_map, isAbsent, Bool.not_eq_true']
  simp

/-! ## The lines -/

/-- A line for a header field, whether it is there or not. -/
def headerLine (r : Request) (name : Points) : Points :=
  name.lower ++ ofString ":" ++ r.headers.getD name

/-- The lines for the header fields, whether these are there or not. -/
def allLines (r : Request) (a : Authorization) : List Points :=
  a.headers.map (headerLine r) ++ r.headers.getD (ofString Headers.timestamp) ::
    if r.body.isEmpty then []
    else [r.headers.getD (ofString Headers.contentType),
      r.headers.getD (ofString Headers.contentDigest)]

theorem eq_getD_of_requiredValue {name : String} {value : Points}
    (h : requiredValue r name = .ok value) : value = r.headers.getD (ofString name) := by
  rw [requiredValue] at h
  rw [Headers.getD]
  cases hvalue : r.headers.get? (ofString name) with
  | none => simp [hvalue] at h
  | some found => simpa [hvalue, eq_comm] using h

theorem signedHeaderLine_eq_ok_iff {name line : Points} :
    signedHeaderLine r name = .ok line ↔
      r.headers.contains name = true ∧ line = headerLine r name := by
  rw [signedHeaderLine, Headers.contains, headerLine, Headers.getD]
  cases r.headers.get? name with
  | none => simp
  | some value => simp [eq_comm]

theorem eq_allLines_of_fieldLines {lines : List Points} (h : fieldLines r a = .ok lines) :
    lines = allLines r a := by
  obtain ⟨headerLines, hheaders, h⟩ := bind_eq_ok_iff.1 h
  obtain ⟨timestamp, htimestamp, h⟩ := bind_eq_ok_iff.1 h
  obtain ⟨rest, hrest, h⟩ := bind_eq_ok_iff.1 h
  obtain ⟨-, rfl⟩ := (mapM_eq_ok_iff fun _ _ => signedHeaderLine_eq_ok_iff).1 hheaders
  obtain rfl := eq_getD_of_requiredValue htimestamp
  rw [← Except.ok.inj h, allLines]
  rw [bodyLines] at hrest
  split at hrest
  · next hbody => rw [if_pos hbody, Except.ok.inj hrest]
  · next hbody =>
    obtain ⟨digest, hdigest, rfl⟩ := map_eq_ok_iff.1 hrest
    rw [if_neg hbody, eq_getD_of_requiredValue hdigest]

/-- **There are lines for the header fields when all required ones are there.** -/
theorem exists_fieldLines_iff : (∃ lines, fieldLines r a = .ok lines) ↔ Complete r a := by
  rw [← not_iff_not, ← exists_absent_iff]
  simp only [← fieldLines_eq_error_iff]
  cases fieldLines r a with
  | ok lines => simp
  | error e => simp

theorem isText_normalizePath {path : Points} : (normalizePath path).IsText ↔ path.IsText := by
  have hslashes : Points.IsText (path.reverse.takeWhile (· == slash)) := fun p hp => by
    have hslash : (p == slash) = true := List.all_eq_true.1 List.all_takeWhile p hp
    exact eq_of_beq hslash ▸ rfl
  have hreverse (t : Points) : Points.IsText t.reverse ↔ t.IsText := by
    simp only [Points.IsText, List.mem_reverse]
  have hparts : path.IsText ↔ Points.IsText (path.reverse.dropWhile (· == slash)).reverse := by
    rw [hreverse, ← hreverse path, ← List.takeWhile_append_dropWhile (p := (· == slash))
      (l := path.reverse), Points.isText_append, and_iff_right hslashes]
    simp
  rw [hparts, normalizePath]
  split
  · next hroot =>
    rw [hroot]
    exact iff_of_true (by decide) Points.isText_nil
  · rfl

theorem isText_allLines :
    (∀ line ∈ allLines r a, line.IsText) ↔
      (∀ name ∈ a.headers, name.IsText ∧ (r.headers.getD name).IsText) ∧
        (r.headers.getD (ofString Headers.timestamp)).IsText ∧
        (r.body ≠ [] → (r.headers.getD (ofString Headers.contentType)).IsText ∧
          (r.headers.getD (ofString Headers.contentDigest)).IsText) := by
  have hline (name : Points) :
      (headerLine r name).IsText ↔ name.IsText ∧ (r.headers.getD name).IsText := by
    rw [headerLine, Points.isText_append, Points.isText_append, Points.isText_lower,
      and_iff_left (Points.isText_ofString ":")]
  rw [allLines, List.forall_mem_append, List.forall_mem_map, List.forall_mem_cons]
  simp only [hline]
  cases hbody : r.body with
  | nil => simp
  | cons b body => simp

/-- The first lines, where the query and the parameters are percent-encoded. -/
theorem isText_lines_iff (query parameters : String) :
    (join "\n" ([r.method.upper, r.host.lower, normalizePath r.path, ofString query,
      ofString parameters] ++ allLines r a)).IsText ↔ Writable r a := by
  rw [Points.isText_join, List.forall_mem_append, isText_allLines]
  simp only [List.forall_mem_cons, Points.isText_upper, Points.isText_lower, isText_normalizePath,
    Points.isText_ofString, List.not_mem_nil, false_implies, implies_true, and_true]
  constructor
  · rintro ⟨⟨hmethod, hhost, hpath⟩, hfields, htimestamp, hbody⟩
    exact ⟨hmethod, hhost, hpath, fun name hname => (hfields name hname).1,
      fun name hname => (hfields name hname).2, htimestamp, fun h => (hbody h).1,
      fun h => (hbody h).2⟩
  · intro h
    exact ⟨⟨h.method, h.host, h.path⟩, fun name hname => ⟨h.names name hname, h.values name hname⟩,
      h.timestamp, fun hbody => ⟨h.contentType hbody, h.contentDigest hbody⟩⟩

/-! ## The signed text -/

/-- **There is a signed text when everything can be written and nothing is missing.** -/
theorem exists_signedText_iff :
    (∃ octets, signedText r a = .ok octets) ↔ Quotable r a ∧ Complete r a ∧ Writable r a := by
  rw [quotable_iff]
  constructor
  · rintro ⟨octets, h⟩
    obtain ⟨query, hquery, h⟩ := bind_eq_ok_iff.1 h
    obtain ⟨parameters, hparameters, h⟩ := bind_eq_ok_iff.1 h
    obtain ⟨fields, hfields, h⟩ := bind_eq_ok_iff.1 h
    rw [mapError_eq_ok_iff] at hquery hparameters hfields h
    rw [eq_allLines_of_fieldLines hfields] at h
    exact ⟨⟨⟨query, hquery⟩, parameters, hparameters⟩, exists_fieldLines_iff.1 ⟨fields, hfields⟩,
      (isText_lines_iff query parameters).1 (Points.exists_encode_iff.1 ⟨octets, h⟩)⟩
  · rintro ⟨⟨⟨query, hquery⟩, parameters, hparameters⟩, hcomplete, hwritable⟩
    obtain ⟨fields, hfields⟩ := exists_fieldLines_iff.2 hcomplete
    obtain rfl := eq_allLines_of_fieldLines hfields
    obtain ⟨octets, hoctets⟩ :=
      Points.exists_encode_iff.2 ((isText_lines_iff query parameters).2 hwritable)
    refine ⟨octets, bind_eq_ok_iff.2 ⟨query, mapError_eq_ok_iff.2 hquery, ?_⟩⟩
    refine bind_eq_ok_iff.2 ⟨parameters, mapError_eq_ok_iff.2 hparameters, ?_⟩
    exact bind_eq_ok_iff.2 ⟨_, mapError_eq_ok_iff.2 hfields, mapError_eq_ok_iff.2 hoctets⟩

/-- **A header field is reported as missing only when all that is percent-encoded can be written**,
and then it is the first one that is asked for in vain. -/
theorem signedText_eq_cause_iff {e : MissingHeader} :
    signedText r a = .error (.cause e) ↔
      Quotable r a ∧ (sought r a).find? (isAbsent r) = some e := by
  rw [quotable_iff, ← fieldLines_eq_error_iff]
  simp only [signedText, bind_eq_error_iff, mapError_eq_error_iff, mapError_eq_ok_iff, reduceCtorEq,
    and_false, exists_false, false_or, or_false, Failure.cause.injEq, exists_eq_right]
  exact ⟨fun ⟨query, hquery, parameters, hparameters, h⟩ =>
      ⟨⟨⟨query, hquery⟩, parameters, hparameters⟩, h⟩,
    fun ⟨⟨⟨query, hquery⟩, parameters, hparameters⟩, h⟩ =>
      ⟨query, hquery, parameters, hparameters, h⟩⟩

theorem exists_signedText_cause_iff :
    (∃ e, signedText r a = .error (.cause e)) ↔ Quotable r a ∧ ¬Complete r a := by
  simp only [signedText_eq_cause_iff, exists_and_left, exists_absent_iff]

/-- **In all other cases there is a text that cannot be written.** -/
theorem exists_signedText_encoding_iff :
    (∃ e, signedText r a = .error (.encoding e)) ↔
      ¬Quotable r a ∨ Complete r a ∧ ¬Writable r a := by
  rw [exists_encoding_iff, exists_signedText_iff, exists_signedText_cause_iff]
  tauto

end CurrentScheme

/-! ## The first scheme -/

namespace LegacyScheme

/-- Nothing that is signed has lone surrogates.  A header field that is absent counts as empty. -/
structure Writable (r : Request) (a : Authorization) : Prop where
  method : r.method.IsText
  contentType : (r.headers.getD (ofString Headers.contentType)).IsText
  date : (r.headers.getD (ofString Headers.date)).IsText
  names : ∀ name ∈ a.headers, name.IsText
  values : ∀ name ∈ a.headers, (r.headers.getD name).IsText
  path : r.path.IsText
  query : r.query.IsText

theorem isText_resource : r.resource.IsText ↔ r.path.IsText ∧ r.query.IsText := by
  rw [Request.resource]
  cases hquery : r.query with
  | nil => exact (and_iff_left Points.isText_nil).symm
  | cons p query =>
    show (r.path ++ ofString "?" ++ p :: query).IsText ↔ _
    rw [Points.isText_append, Points.isText_append, and_iff_left (Points.isText_ofString "?")]

/-- **There is a signed text when everything can be written**, whatever is missing. -/
theorem exists_signedText_iff :
    (∃ octets, signedText r a = .ok octets) ↔ Writable r a := by
  have hline (name : Points) :
      (headerLine r name).IsText ↔ name.IsText ∧ (r.headers.getD name).IsText := by
    rw [headerLine, Points.isText_append, Points.isText_append, Points.isText_lower,
      and_iff_left (Points.isText_ofString ": ")]
  rw [signedText, Points.exists_encode_iff, Points.isText_join]
  simp only [signedLines, List.forall_mem_cons, Points.isText_upper, Points.isText_ofString,
    Points.isText_join, List.forall_mem_map, hline, isText_resource, List.not_mem_nil,
    false_implies, implies_true, and_true, true_and]
  constructor
  · rintro ⟨hmethod, hcontentType, hdate, hfields, hpath, hquery⟩
    exact ⟨hmethod, hcontentType, hdate, fun name hname => (hfields name hname).1,
      fun name hname => (hfields name hname).2, hpath, hquery⟩
  · intro h
    exact ⟨h.method, h.contentType, h.date,
      fun name hname => ⟨h.names name hname, h.values name hname⟩, h.path, h.query⟩

end LegacyScheme

/-! ## Both schemes -/

namespace Scheme

/-- Nothing that goes into the signed text has lone surrogates. -/
def Writable (s : Scheme) (r : Request) (a : Authorization) : Prop :=
  match s with
  | legacy _ => LegacyScheme.Writable r a
  | current _ => CurrentScheme.Quotable r a ∧ CurrentScheme.Writable r a

variable {s : Scheme}

/-- **Once the required header fields are there, nothing is reported as missing**, whatever the texts
hold. -/
theorem signedText_ne_cause
    (hrequired : ∀ name ∈ s.requiredHeaders r a, r.headers.contains name = true)
    (e : MissingHeader) : s.signedText r a ≠ .error (.cause e) := by
  intro h
  cases s with
  | legacy digest =>
    obtain ⟨_, -, hcause⟩ := mapError_eq_error_iff.1 h
    cases hcause
  | current s => exact (CurrentScheme.exists_signedText_cause_iff.1 ⟨e, h⟩).2 hrequired

/-- Then only texts that cannot be written are in the way. -/
theorem exists_signedText_iff
    (hrequired : ∀ name ∈ s.requiredHeaders r a, r.headers.contains name = true) :
    (∃ octets, s.signedText r a = .ok octets) ↔ s.Writable r a := by
  cases s with
  | legacy digest =>
    simp only [signedText, mapError_eq_ok_iff, LegacyScheme.exists_signedText_iff, Writable]
  | current s =>
    have hcomplete : CurrentScheme.Complete r a := hrequired
    show (∃ octets, CurrentScheme.signedText r a = .ok octets) ↔ _
    rw [CurrentScheme.exists_signedText_iff, and_iff_right hcomplete, Writable]

end Scheme
end Raw
end SignedHttp
