import SignedHttp.Proofs.Fields
import SignedHttp.Proofs.Token
import SignedHttp.Scheme.Current

/-!
# The Authorization value of the second scheme

`CurrentScheme.render` writes parameters and `CurrentScheme.parse` reads them.  The two do not
treat all fields alike: id, nonce and realm are percent-encoded, the signature and the version are
written as they are but decoded like the rest, header names are encoded one by one but decoded as
one list, and fields without a value are left out.

* `CurrentScheme.parse_eq_ok_iff` says what the reader accepts, and what it then gives.
* `CurrentScheme.Readable` collects what the parameters must satisfy in order to be read back.
* `CurrentScheme.parse_render` reads them back, and `CurrentScheme.parse_render_iff` says that
  nothing else is ever read back as it was.

The second half of that is about signatures.  A signature with a quote in it ends its own field
early, and what follows the quote is scanned for further fields, which may well include a second
signature.  But each value that is found is a stretch between two quotes, hence shorter than the
signature, and decoding makes nothing longer.
-/

set_option autoImplicit false

namespace SignedHttp
namespace CurrentScheme

/-! ## Lists of header names -/

/-- A header name that survives standing in a list. -/
structure Listable (name : String) : Prop where
  /-- The name is not empty. -/
  ne : name ≠ ""
  /-- No blanks stand around it. -/
  trimmed : Text.trim name.toList = name.toList
  /-- It does not separate names itself. -/
  comma : ',' ∉ name.toList
  semicolon : ';' ∉ name.toList

/-- The characters that separate header names. -/
def isNameSep (c : Char) : Bool := c == ',' || c == ';'

theorem Listable.isNameSep {name : String} (h : Listable name) :
    ∀ c ∈ name.toList, isNameSep c = false := by
  intro c hc
  rw [CurrentScheme.isNameSep, Bool.or_eq_false_iff, beq_eq_false_iff_ne, beq_eq_false_iff_ne]
  constructor
  · rintro rfl
    exact h.comma hc
  · rintro rfl
    exact h.semicolon hc

theorem splitNames_eq (names : String) :
    splitNames names = (((Text.pieces isNameSep names.toList).map Text.trim).filter
      (!·.isEmpty)).map String.ofList :=
  rfl

/-- Names that a reader finds can be listed. -/
theorem listable_of_mem_splitNames {names name : String} (h : name ∈ splitNames names) :
    Listable name := by
  rw [splitNames_eq, List.mem_map] at h
  obtain ⟨cs, hcs, rfl⟩ := h
  rw [List.mem_filter, List.mem_map] at hcs
  obtain ⟨⟨piece, hpiece, rfl⟩, hne⟩ := hcs
  have hsep := Text.not_isSep_of_mem_pieces hpiece
  refine ⟨?_, ?_, ?_, ?_⟩
  · simpa [← String.toList_inj] using hne
  · rw [String.toList_ofList, Text.trim_trim]
  · rw [String.toList_ofList]
    intro hc
    exact absurd (hsep _ (Text.mem_of_mem_trim hc)) (by decide)
  · rw [String.toList_ofList]
    intro hc
    exact absurd (hsep _ (Text.mem_of_mem_trim hc)) (by decide)

theorem listable_of_mem_headers {fields : List (List Char × List Char)} {name : String}
    (h : name ∈ (ofFields fields).headers) : Listable name :=
  listable_of_mem_splitNames h

/-- Names that can be listed are found again in their list. -/
theorem splitNames_intercalate {names : List String} (h : ∀ name ∈ names, Listable name) :
    splitNames (",".intercalate names) = names := by
  have hpieces : (Text.pieces isNameSep (",".intercalate names).toList).map Text.trim =
      if names = [] then [[]] else names.map String.toList := by
    split
    · next hnil => subst hnil; rfl
    · next hne =>
      rw [String.toList_intercalate, show ",".toList = [','] from rfl,
        Text.pieces_intercalate (by decide) (by simpa using hne), List.map_map]
      · exact List.map_congr_left fun name hname => (h name hname).trimmed
      · intro part hpart
        obtain ⟨name, hname, rfl⟩ := List.mem_map.1 hpart
        exact (h name hname).isNameSep
  have hne : ∀ cs ∈ names.map String.toList, (!cs.isEmpty) = true := by
    intro cs hcs
    obtain ⟨name, hname, rfl⟩ := List.mem_map.1 hcs
    simpa using (h name hname).ne
  rw [splitNames_eq, hpieces]
  split
  · next hnil => subst hnil; rfl
  · rw [List.filter_eq_self.2 hne, List.map_map]
    simp [Function.comp_def]

/-! ## What the reader accepts -/

theorem allows_iff {s : CurrentScheme} {name : String} :
    s.allows name = true ↔ s.allowed = [] ∨ Text.lower name ∈ s.allowed.map Text.lower := by
  rw [allows, Bool.or_eq_true, List.isEmpty_iff, List.any_eq_true, List.mem_map]
  simp only [Headers.sameName_iff]

/-- Parameters have no fault when no field is blank, the version is the one there is, and every
header field may be signed. -/
theorem checkParameters_eq_ok_iff {s : CurrentScheme} {fields : List (String × String)}
    {version : String} {headers : List String} :
    s.checkParameters fields version headers = .ok () ↔
      (∀ p ∈ fields, p.2 ≠ "") ∧ version = CurrentScheme.version ∧
        ∀ name ∈ headers, s.allows name = true := by
  have hblank : (blankNames fields).isEmpty = true ↔ ∀ p ∈ fields, p.2 ≠ "" := by
    simp [blankNames, List.isEmpty_iff]
  have hallowed :
      (s.disallowed headers).isEmpty = true ↔ ∀ name ∈ headers, s.allows name = true := by
    simp [disallowed, List.isEmpty_iff]
  rw [← hblank, ← hallowed, checkParameters]
  by_cases hfields : (blankNames fields).isEmpty
  · by_cases hversion : version = CurrentScheme.version
    · by_cases hheaders : (s.disallowed headers).isEmpty
      · simp [hfields, hversion, hheaders]
      · simp [hfields, hversion, hheaders]
    · simp [hfields, hversion]
  · simp [hfields]

/-- **What the reader accepts**, and the parameters that it then gives. -/
theorem parse_eq_ok_iff {s : CurrentScheme} {value : String} {a : Authorization} :
    s.parse value = .ok a ↔
      Token.begins token value = true ∧ ofFields (Fields.scan (Token.credentials value)) = a ∧
        a.id ≠ "" ∧ a.nonce ≠ "" ∧ a.version = version ∧ a.signature ≠ "" ∧
        ∀ name ∈ a.headers, s.allows name = true := by
  rw [parse]
  by_cases hbegins : Token.begins token value
  · rw [if_neg (by simp [hbegins])]
    generalize ofFields (Fields.scan (Token.credentials value)) = b
    have hcheck : s.checkParameters [("id", b.id), ("nonce", b.nonce), ("version", b.version),
        ("signature", b.signature)] b.version b.headers = .ok () ↔ _ := checkParameters_eq_ok_iff
    simp only [List.forall_mem_cons, List.not_mem_nil, false_implies, implies_true, and_true]
      at hcheck
    dsimp only
    constructor
    · intro h
      split at h
      · next hok =>
        obtain ⟨⟨hid, hnonce, -, hsignature⟩, hversion, hheaders⟩ := hcheck.1 hok
        obtain rfl := Except.ok.inj h
        exact ⟨hbegins, rfl, hid, hnonce, hversion, hsignature, hheaders⟩
      · exact absurd h (by simp)
    · rintro ⟨-, rfl, hid, hnonce, hversion, hsignature, hheaders⟩
      have hne : b.version ≠ "" := by rw [hversion]; decide
      rw [hcheck.2 ⟨⟨hid, hnonce, hne, hsignature⟩, hversion, hheaders⟩]
  · simp [hbegins]

/-! ## The written value -/

/-- The fields that are not left out. -/
def present (a : Authorization) : List (List Char × List Char) :=
  ((fields a).filter (!·.2.isEmpty)).map Fields.ofPair

theorem toList_render (a : Authorization) :
    (render a).toList =
      token.toList ++ ' ' :: [','].intercalate ((present a).map Fields.written) := by
  rw [render, String.toList_append, String.toList_append, String.toList_intercalate, List.map_map,
    present, List.map_map, List.append_assoc, show " ".toList = [' '] from rfl,
    show ",".toList = [','] from rfl, List.singleton_append]
  congr 3
  exact List.map_congr_left fun p _ => Fields.toList_render p.1 p.2

theorem getLast?_intercalate {fs : List (List Char × List Char)} (hne : fs ≠ []) :
    ([','].intercalate (fs.map Fields.written)).getLast? = some '"' := by
  induction fs with
  | nil => exact absurd rfl hne
  | cons f fs ih =>
    cases fs with
    | nil =>
      rw [List.map_singleton, List.intercalate_singleton, Fields.getLast?_written]
    | cons g fs =>
      rw [List.map_cons, List.map_cons, List.intercalate_cons_cons, List.getLast?_append,
        ← List.map_cons, ih (by simp)]
      rfl

variable {s : CurrentScheme} {a : Authorization}

theorem present_ne_nil (hversion : a.version ≠ "") : present a ≠ [] := by
  have hmem : ("version", a.version) ∈ (fields a).filter (!·.2.isEmpty) := by
    simp [fields, hversion]
  rw [present, Ne, List.map_eq_nil_iff]
  exact List.ne_nil_of_mem hmem

/-- The written value begins with the token and ends with a quote. -/
theorem trim_render (hversion : a.version ≠ "") :
    Text.trim (render a).toList =
      token.toList ++ ' ' :: [','].intercalate ((present a).map Fields.written) := by
  rw [toList_render]
  refine Text.trim_eq_self (fun c hc => ?_) fun c hc => ?_
  · obtain rfl : 'a' = c := by simpa [token] using hc
    decide
  · rw [List.getLast?_append, List.getLast?_cons, getLast?_intercalate (present_ne_nil hversion)]
      at hc
    obtain rfl : '"' = c := by simpa using hc
    decide

theorem begins_render (hversion : a.version ≠ "") : Token.begins token (render a) = true := by
  have hfirst := Token.first_eq (trim_render hversion) (by decide)
  rw [Token.begins, hfirst, String.ofList_toList, beq_self_eq_true, Bool.and_true,
    Bool.not_eq_true', String.isEmpty_eq_false_iff, Ne, ← String.toList_inj, toList_render]
  simp

theorem credentials_render (hversion : a.version ≠ "") :
    Token.credentials (render a) = [','].intercalate ((present a).map Fields.written) :=
  Token.credentials_eq (trim_render hversion) (by decide)

/-! ## Looking up what was written -/

def fieldNames : List String := ["headers", "id", "nonce", "realm", "signature", "version"]

theorem lower_fieldName : ∀ name ∈ fieldNames, Text.lower name = name := by decide

theorem lower_fields (a : Authorization) :
    ((fields a).map fun p => Text.lower p.1) = fieldNames :=
  (List.map_congr_left lower_fieldName).trans (List.map_id fieldNames)

theorem mem_fieldNames {name value : String} (hmem : (name, value) ∈ fields a) :
    name ∈ fieldNames :=
  List.mem_map_of_mem (f := (·.1)) hmem

/-- Whatever field the value is written from is looked up in decoded form. -/
theorem lastD_present (name value : String) (hmem : (name, value) ∈ fields a) :
    Fields.lastD (present a) name = Percent.decode value := by
  refine Fields.lastD_present ?_ (lower_fieldName name (mem_fieldNames hmem)) hmem
  rw [lower_fields]
  decide

/-- Encoding is undone; what is not encoded is decoded nevertheless. -/
theorem ofFields_present (a : Authorization) :
    ofFields (present a) =
      { a with
        version := Percent.decode a.version
        headers := splitNames (",".intercalate a.headers)
        signature := Percent.decode a.signature } := by
  have hid := lastD_present "id" (Percent.encode a.id) (a := a) (by simp [fields])
  have hrealm := lastD_present "realm" (Percent.encode a.realm) (a := a) (by simp [fields])
  have hnonce := lastD_present "nonce" (Percent.encode a.nonce) (a := a) (by simp [fields])
  have hheaders := lastD_present "headers" (",".intercalate (a.headers.map Percent.encode)) (a := a)
    (by simp [fields])
  have hversion := lastD_present "version" a.version (a := a) (by simp [fields])
  have hsignature := lastD_present "signature" a.signature (a := a) (by simp [fields])
  rw [ofFields, hid, hrealm, hnonce, hheaders, hversion, hsignature, Percent.decode_encode,
    Percent.decode_encode, Percent.decode_encode, Percent.decode_intercalate]

/-! ## Reading back -/

/-- The parameters that the written value gives back. -/
structure Readable (s : CurrentScheme) (a : Authorization) : Prop where
  id : a.id ≠ ""
  nonce : a.nonce ≠ ""
  signature : a.signature ≠ ""
  version : a.version = "2.0"
  /-- The signature does not close its own quotes. -/
  quote : '"' ∉ a.signature.toList
  /-- It is written as it is, so it must not hold anything that is decoded. -/
  escape : ¬Percent.HasEscape a.signature.toList
  listable : ∀ name ∈ a.headers, Listable name
  allowed : s.allowed = [] ∨ ∀ name ∈ a.headers, Text.lower name ∈ s.allowed.map Text.lower

theorem allows_all_iff {names : List String} :
    (∀ name ∈ names, s.allows name = true) ↔
      s.allowed = [] ∨ ∀ name ∈ names, Text.lower name ∈ s.allowed.map Text.lower := by
  simp only [allows_iff]
  by_cases h : s.allowed = []
  · simp [h]
  · simp [h]

/-- The fields before the signature, whose values are all percent-encoded. -/
def leading (a : Authorization) : List (String × String) :=
  [("headers", ",".intercalate (a.headers.map Percent.encode)), ("id", Percent.encode a.id),
   ("nonce", Percent.encode a.nonce), ("realm", Percent.encode a.realm)]

theorem fields_eq (a : Authorization) :
    fields a = leading a ++ [("signature", a.signature), ("version", a.version)] :=
  rfl

theorem writable_ofPair {name value : String} (hname : name ∈ fieldNames)
    (hvalue : '"' ∉ value.toList) : Fields.Writable (Fields.ofPair (name, value)) := by
  have hnames : ∀ name ∈ fieldNames,
      name.toList ≠ [] ∧ name.toList.all Fields.isNameChar = true := by
    decide
  exact ⟨(hnames name hname).1, List.all_eq_true.1 (hnames name hname).2, hvalue⟩

theorem not_mem_quote_leading {name value : String} (h : (name, value) ∈ leading a) :
    '"' ∉ value.toList := by
  have hencode := Percent.not_mem_encode (c := '"') (by decide) (by decide)
  simp only [leading, List.mem_cons, Prod.mk.injEq, List.not_mem_nil, or_false] at h
  rcases h with ⟨-, rfl⟩ | ⟨-, rfl⟩ | ⟨-, rfl⟩ | ⟨-, rfl⟩
  · exact Text.not_mem_join (by decide) (List.forall_mem_map.2 fun n _ => hencode n)
  · exact hencode a.id
  · exact hencode a.nonce
  · exact hencode a.realm

/-- The leading fields that are not left out. -/
def presentLeading (a : Authorization) : List (List Char × List Char) :=
  ((leading a).filter (!·.2.isEmpty)).map Fields.ofPair

theorem exists_of_mem_presentLeading {f : List Char × List Char} (h : f ∈ presentLeading a) :
    ∃ name value, (name, value) ∈ leading a ∧ f = Fields.ofPair (name, value) := by
  obtain ⟨⟨name, value⟩, hmem, rfl⟩ := List.mem_map.1 h
  exact ⟨name, value, (List.mem_filter.1 hmem).1, rfl⟩

theorem writable_of_mem_presentLeading {f : List Char × List Char} (h : f ∈ presentLeading a) :
    Fields.Writable f := by
  obtain ⟨name, value, hmem, rfl⟩ := exists_of_mem_presentLeading h
  have hfield : (name, value) ∈ fields a := List.mem_append_left _ hmem
  exact writable_ofPair (mem_fieldNames hfield) (not_mem_quote_leading hmem)

theorem present_eq (hsignature : a.signature ≠ "") (hversion : a.version ≠ "") :
    present a = presentLeading a ++
      [Fields.ofPair ("signature", a.signature), Fields.ofPair ("version", a.version)] := by
  rw [present, fields_eq, List.filter_append, List.map_append, presentLeading]
  simp [hsignature, hversion]

theorem writable_of_mem_present (hsignature : a.signature ≠ "") (hquote : '"' ∉ a.signature.toList)
    (hversion : a.version = version) : ∀ f ∈ present a, Fields.Writable f := by
  intro f hf
  rw [present_eq hsignature (by rw [hversion]; decide), List.mem_append] at hf
  simp only [List.mem_cons, List.not_mem_nil, or_false] at hf
  rcases hf with hf | rfl | rfl
  · exact writable_of_mem_presentLeading hf
  · exact writable_ofPair (by decide) hquote
  · exact writable_ofPair (by decide) (by rw [hversion]; decide)

/-- What the scanner finds in the written value of a signature without quotes. -/
theorem scan_render (hsignature : a.signature ≠ "") (hquote : '"' ∉ a.signature.toList)
    (hversion : a.version = version) :
    Fields.scan (Token.credentials (render a)) = present a := by
  rw [credentials_render (by rw [hversion]; decide),
    Fields.scan_intercalate (writable_of_mem_present hsignature hquote hversion)]

/-- **Readable parameters are read back.** -/
theorem parse_render (h : Readable s a) : s.parse (render a) = .ok a := by
  have hversion : a.version = version := h.version
  have hdecode : Percent.decode a.version = a.version := by rw [hversion]; decide
  rw [parse_eq_ok_iff, scan_render h.signature h.quote hversion]
  refine ⟨begins_render (by rw [hversion]; decide), ?_, h.id, h.nonce, hversion, h.signature,
    allows_all_iff.2 h.allowed⟩
  rw [ofFields_present, splitNames_intercalate h.listable, hdecode,
    Percent.decode_of_not_hasEscape h.escape]

/-! ## Signatures that are not read back -/

/-- What the scanner finds in the written value of any signature: the leading fields, and then
whatever the signature makes of the rest. -/
theorem scan_render_leading (hsignature : a.signature ≠ "") (hversion : a.version = version) :
    Fields.scan (Token.credentials (render a)) =
      presentLeading a ++ Fields.scanFrom (.value "signature".toList [])
        (a.signature.toList ++
          '"' :: ',' :: Fields.written (Fields.ofPair ("version", "2.0"))) := by
  have hne : a.version ≠ "" := by rw [hversion]; decide
  have hjoin : [','].intercalate ((present a).map Fields.written) =
      (presentLeading a).flatMap (fun f => Fields.written f ++ [',']) ++
        ("signature".toList ++ '=' :: '"' :: (a.signature.toList ++
          '"' :: ',' :: Fields.written (Fields.ofPair ("version", a.version)))) := by
    rw [present_eq hsignature hne, List.map_append, Text.intercalate_append (by simp),
      List.flatMap_map]
    simp [Fields.written, Fields.ofPair]
  rw [credentials_render hne, hjoin, Fields.scan,
    Fields.scanFrom_flatMap fun f hf => writable_of_mem_presentLeading hf,
    Fields.scanFrom_open (by decide) (List.all_eq_true.1 (by decide)), hversion]
  rfl

/-- The stretches after the signature decode to texts without quotes. -/
theorem not_mem_quote_tail :
    ∀ v ∈ Fields.stretches (',' :: Fields.written (Fields.ofPair ("version", "2.0"))),
      '"' ∉ Percent.decodeList v := by
  decide

/-- **A signature with a quote is never read back.**  Each value that could take its place is
shorter, or else it lies beyond the signature and has no quote. -/
theorem decodeList_ne_signature {signature : List Char} (hquote : '"' ∈ signature)
    {f : List Char × List Char} (hf : f ∈ Fields.scanFrom (.value "signature".toList [])
      (signature ++ '"' :: ',' :: Fields.written (Fields.ofPair ("version", "2.0")))) :
    Percent.decodeList f.2 ≠ signature := by
  intro hdecode
  have hcandidate := Fields.mem_candidates (by simp) hf
  rw [Fields.candidates, List.reverse_nil, List.nil_append, Fields.stretches_append,
    List.mem_append] at hcandidate
  rcases hcandidate with hinside | hbeyond
  · have hshort := Text.length_lt_of_mem_pieces (by decide) hquote hinside
    have hlength := Percent.length_decodeList_le f.2
    rw [hdecode] at hlength
    omega
  · exact not_mem_quote_tail f.2 hbeyond (hdecode ▸ hquote)

theorem not_mem_quote_of_parse (h : s.parse (render a) = .ok a) : '"' ∉ a.signature.toList := by
  intro hquote
  obtain ⟨-, hfields, -, -, hversion, hsignature, -⟩ := parse_eq_ok_iff.1 h
  rw [scan_render_leading hsignature hversion] at hfields
  obtain ⟨f, hf, hkey, hdecode⟩ :=
    Fields.exists_of_lastD (congrArg Authorization.signature hfields) hsignature
  rcases List.mem_append.1 hf with hf | hf
  · -- the leading fields have other names
    obtain ⟨name, value, hmem, rfl⟩ := exists_of_mem_presentLeading hf
    have hname : name ∈ (leading a).map (·.1) := List.mem_map_of_mem (f := (·.1)) hmem
    have hother : ∀ name ∈ ["headers", "id", "nonce", "realm"], Text.lower name ≠ "signature" := by
      decide
    exact hother name hname hkey
  · refine decodeList_ne_signature hquote hf ?_
    rw [← hdecode, String.toList_ofList]

theorem not_hasEscape_of_parse (h : s.parse (render a) = .ok a) :
    ¬Percent.HasEscape a.signature.toList := by
  obtain ⟨-, hfields, -, -, hversion, hsignature, -⟩ := parse_eq_ok_iff.1 h
  rw [scan_render hsignature (not_mem_quote_of_parse h) hversion, ofFields_present] at hfields
  have hdecode : Percent.decode a.signature = a.signature :=
    congrArg Authorization.signature hfields
  rw [Percent.decode, ← String.toList_inj, String.toList_ofList] at hdecode
  exact Percent.decodeList_eq_self_iff.1 hdecode

/-- **The parameters that the Authorization value carries are exactly the readable ones.**  Id,
nonce and realm may be any texts, and the realm and the list of header names may be empty. -/
theorem parse_render_iff : s.parse (render a) = .ok a ↔ Readable s a := by
  refine ⟨fun h => ?_, parse_render⟩
  obtain ⟨-, hfields, hid, hnonce, hversion, hsignature, hallowed⟩ := parse_eq_ok_iff.1 h
  exact {
    id := hid
    nonce := hnonce
    signature := hsignature
    version := hversion
    quote := not_mem_quote_of_parse h
    escape := not_hasEscape_of_parse h
    listable := fun name hname => listable_of_mem_headers (hfields ▸ hname)
    allowed := allows_all_iff.1 hallowed }

end CurrentScheme
end SignedHttp
