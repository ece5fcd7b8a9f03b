import SignedHttp.Proofs.Checks
import SignedHttp.Proofs.Headers
import SignedHttp.Proofs.Query
import SignedHttp.Proofs.Timestamp
import SignedHttp.Scheme.Current

/-!
# What the signed text determines

The signed text is a list of lines, and nothing in it says how many of them are header lines or
whether lines for a body follow.  It determines the request all the same, as long as no component
brings line breaks of its own:

* `CurrentScheme.signedText_eq_ok_iff` says when there is a signed text, and gives it without the
  checks.
* `CurrentScheme.LineSafe` collects what the components must satisfy.
* `CurrentScheme.sameMessage_of_lines_eq`: equal lines come from requests and parameters that agree
  in everything that is signed (`CurrentScheme.SameMessage`), and by
  `CurrentScheme.signedText_eq_iff_sameMessage` so do equal texts.

The five lines in front are told apart by their position.  After them come the header lines, each
of which has a colon, and the timestamp, which has none; so the first line without a colon is the
timestamp, and what follows it are the lines for the body.
-/

set_option autoImplicit false

namespace SignedHttp
namespace CurrentScheme

/-! ## The lines without the checks -/

def headerLine (r : Request) (name : String) : String :=
  Text.lower name ++ ":" ++ r.headers.getD name ""

def trailer (r : Request) : List String :=
  if r.body.isEmpty then []
  else [r.headers.getD Headers.contentType "", r.headers.getD Headers.contentDigest ""]

/-- The lines of the signed text, where header fields that are absent count as blank. -/
def lines (r : Request) (a : Authorization) : List String :=
  Text.upper r.method :: Text.lower r.host :: normalizePath r.path :: Query.normalize r.query ::
    parameterLine a ::
      (a.headers.map (headerLine r) ++ r.headers.getD Headers.timestamp "" :: trailer r)

theorem signedHeaderLine_eq_ok_iff {r : Request} {name line : String} :
    signedHeaderLine r name = .ok line ↔
      r.headers.contains name = true ∧ line = headerLine r name := by
  rw [signedHeaderLine, headerLine, Headers.contains, Headers.getD]
  cases r.headers.get? name with
  | none => simp
  | some value => simp [eq_comm]

theorem requiredValue_eq_ok_iff {r : Request} {name value : String} :
    requiredValue r name = .ok value ↔
      r.headers.contains name = true ∧ value = r.headers.getD name "" := by
  rw [requiredValue, Headers.contains, Headers.getD]
  cases r.headers.get? name with
  | none => simp
  | some value => simp [eq_comm]

theorem bodyLines_eq_ok_iff {r : Request} {ls : List String} :
    bodyLines r = .ok ls ↔
      (r.body.isEmpty = false → r.headers.contains Headers.contentDigest = true) ∧
        ls = trailer r := by
  rw [bodyLines, trailer]
  cases hbody : r.body.isEmpty with
  | true =>
    rw [if_pos rfl, if_pos rfl]
    exact ⟨fun h => ⟨by simp, (Except.ok.inj h).symm⟩, fun h => h.2 ▸ rfl⟩
  | false =>
    rw [if_neg (by simp), if_neg (by simp), map_eq_ok_iff]
    constructor
    · rintro ⟨value, hvalue, rfl⟩
      obtain ⟨hcontains, rfl⟩ := requiredValue_eq_ok_iff.1 hvalue
      exact ⟨fun _ => hcontains, rfl⟩
    · rintro ⟨hcontains, rfl⟩
      exact ⟨_, requiredValue_eq_ok_iff.2 ⟨hcontains rfl, rfl⟩, rfl⟩

theorem forall_mem_requiredHeaders {r : Request} {a : Authorization} {p : String → Prop} :
    (∀ name ∈ requiredHeaders r a, p name) ↔
      p Headers.timestamp ∧ (r.body.isEmpty = false → p Headers.contentDigest) ∧
        ∀ name ∈ a.headers, p name := by
  rw [requiredHeaders]
  cases r.body.isEmpty with
  | true => simp
  | false => simp

/-- **There are lines to sign exactly when the required header fields are there.** -/
theorem signedLines_eq_ok_iff {r : Request} {a : Authorization} {ls : List String} :
    signedLines r a = .ok ls ↔
      (∀ name ∈ requiredHeaders r a, r.headers.contains name = true) ∧ ls = lines r a := by
  rw [signedLines, bind_eq_ok_iff, forall_mem_requiredHeaders]
  constructor
  · rintro ⟨headerLines, hheaders, h⟩
    obtain ⟨timestamp, htimestamp, h⟩ := bind_eq_ok_iff.1 h
    obtain ⟨rest, hbody, h⟩ := bind_eq_ok_iff.1 h
    obtain ⟨hnames, rfl⟩ := (mapM_eq_ok_iff fun _ _ => signedHeaderLine_eq_ok_iff).1 hheaders
    obtain ⟨hpresent, rfl⟩ := requiredValue_eq_ok_iff.1 htimestamp
    obtain ⟨hdigest, rfl⟩ := bodyLines_eq_ok_iff.1 hbody
    exact ⟨⟨hpresent, hdigest, hnames⟩, (Except.ok.inj h).symm⟩
  · rintro ⟨⟨hpresent, hdigest, hnames⟩, rfl⟩
    refine ⟨a.headers.map (headerLine r),
      (mapM_eq_ok_iff fun _ _ => signedHeaderLine_eq_ok_iff).2 ⟨hnames, rfl⟩, ?_⟩
    rw [bind_eq_ok_iff]
    refine ⟨_, requiredValue_eq_ok_iff.2 ⟨hpresent, rfl⟩, ?_⟩
    rw [bind_eq_ok_iff]
    exact ⟨_, bodyLines_eq_ok_iff.2 ⟨hdigest, rfl⟩, rfl⟩

theorem signedText_eq_ok_iff {r : Request} {a : Authorization} {text : Octets} :
    signedText r a = .ok text ↔
      (∀ name ∈ requiredHeaders r a, r.headers.contains name = true) ∧
        text = Utf8.encode ("\n".intercalate (lines r a)) := by
  rw [signedText, map_eq_ok_iff]
  constructor
  · rintro ⟨ls, hlines, rfl⟩
    obtain ⟨hrequired, rfl⟩ := signedLines_eq_ok_iff.1 hlines
    exact ⟨hrequired, rfl⟩
  · rintro ⟨hrequired, rfl⟩
    exact ⟨lines r a, signedLines_eq_ok_iff.2 ⟨hrequired, rfl⟩, rfl⟩

/-! ## Lines of their own -/

/-- Components that bring no line breaks, under header names that end at the first colon. -/
structure LineSafe (r : Request) (a : Authorization) : Prop where
  method : '\n' ∉ r.method.toList
  host : '\n' ∉ r.host.toList
  path : '\n' ∉ r.path.toList
  colon : ∀ name ∈ a.headers, ':' ∉ name.toList
  names : ∀ name ∈ a.headers, '\n' ∉ name.toList
  /-- Only the first value of a name is signed. -/
  values : ∀ name ∈ Headers.timestamp :: Headers.contentType :: Headers.contentDigest :: a.headers,
    ∀ value ∈ r.headers.get? name, '\n' ∉ value.toList
  timestamp : ∃ value, r.headers.get? Headers.timestamp = some value ∧
    (Timestamp.digits? value).isSome

variable {r r' : Request} {a a' : Authorization}

theorem LineSafe.getD (h : LineSafe r a) (name : String) (hname : name ∈
      Headers.timestamp :: Headers.contentType :: Headers.contentDigest :: a.headers) :
    '\n' ∉ (r.headers.getD name "").toList :=
  Headers.not_mem_getD (h.values name hname)

theorem mem_normalizePath {c : Char} {path : String} (h : c ∈ (normalizePath path).toList) :
    c = '/' ∨ c ∈ path.toList := by
  rw [normalizePath] at h
  split at h
  · exact .inl (by simpa using h)
  · rw [String.toList_ofList, List.mem_reverse] at h
    exact .inr (List.mem_reverse.1 ((List.dropWhile_suffix _).mem h))

/-- The parameters that are signed, beside the signed header names. -/
def parameters (a : Authorization) : List (String × String) :=
  [("id", a.id), ("nonce", a.nonce), ("realm", a.realm), ("version", a.version)]

/-- The names need no encoding, so the parameters are written like the pairs of a query. -/
theorem parameterLine_eq (a : Authorization) :
    parameterLine a = Query.joinPairs (parameters a) := by
  have hnames : ∀ name ∈ ["id", "nonce", "realm", "version"], Percent.encode name = name := by
    decide
  simp only [List.forall_mem_cons] at hnames
  obtain ⟨hid, hnonce, hrealm, hversion, -⟩ := hnames
  simp only [parameterLine, parameters, Query.joinPairs, List.map_cons, List.map_nil,
    Query.encodePair, hid, hnonce, hrealm, hversion]

/-- **No line of the signed text brings a line break of its own.** -/
theorem LineSafe.not_mem_newline (h : LineSafe r a) :
    ∀ line ∈ lines r a, '\n' ∉ line.toList := by
  have htimestamp := h.getD Headers.timestamp (by simp)
  have htype := h.getD Headers.contentType (by simp)
  have hdigest := h.getD Headers.contentDigest (by simp)
  have hmethod : '\n' ∉ (Text.upper r.method).toList := fun hmem =>
    h.method (Text.mem_of_mem_upper (by decide) (by decide) hmem)
  have hhost : '\n' ∉ (Text.lower r.host).toList := fun hmem =>
    h.host (Text.mem_of_mem_lower (by decide) (by decide) hmem)
  have hpath : '\n' ∉ (normalizePath r.path).toList := fun hmem =>
    h.path ((mem_normalizePath hmem).resolve_left (by decide))
  have hpairs := Query.not_mem_joinPairs (c := '\n') (by decide) (by decide) (by decide) (by decide)
  have hquery : '\n' ∉ (Query.normalize r.query).toList := Query.normalize_eq r.query ▸ hpairs _
  have hparameters : '\n' ∉ (parameterLine a).toList := parameterLine_eq a ▸ hpairs _
  have hheaders : ∀ line ∈ a.headers.map (headerLine r), '\n' ∉ line.toList := by
    refine List.forall_mem_map.2 fun name hname => ?_
    have hlower : '\n' ∉ (Text.lower name).toList := fun hmem =>
      h.names name hname (Text.mem_of_mem_lower (by decide) (by decide) hmem)
    have hvalue := h.getD name (by simp [hname])
    simp [headerLine, hlower, hvalue]
  have htrailer : ∀ line ∈ trailer r, '\n' ∉ line.toList := by
    rw [trailer]
    split
    · simp
    · simp [htype, hdigest]
  simp only [lines, List.forall_mem_cons, List.forall_mem_append]
  exact ⟨hmethod, hhost, hpath, hquery, hparameters, hheaders, htimestamp, htrailer⟩

theorem lines_ne_nil : lines r a ≠ [] := List.cons_ne_nil _ _

/-- The lines are found again in the signed text. -/
theorem lines_eq_of_signedText_eq (h : LineSafe r a) (h' : LineSafe r' a') {text : Octets}
    (htext : signedText r a = .ok text) (htext' : signedText r' a' = .ok text) :
    lines r a = lines r' a' := by
  obtain ⟨-, hlines⟩ := signedText_eq_ok_iff.1 htext
  obtain ⟨-, hlines'⟩ := signedText_eq_ok_iff.1 htext'
  exact Text.join_inj (by rfl) h.not_mem_newline h'.not_mem_newline lines_ne_nil lines_ne_nil
    (Utf8.encode_inj (hlines.symm.trans hlines'))

/-! ## The message -/

/-- The header fields that the parameters name, in the order of signing. -/
def signedFields (r : Request) (a : Authorization) : List (String × Option String) :=
  a.headers.map fun name => (Text.lower name, r.headers.get? name)

/-- Two requests with their parameters are the same message when all that is signed is the same.
An absent content type counts as a blank one. -/
structure SameMessage (r : Request) (a : Authorization) (r' : Request) (a' : Authorization) :
    Prop where
  method : Text.upper r.method = Text.upper r'.method
  host : Text.lower r.host = Text.lower r'.host
  path : normalizePath r.path = normalizePath r'.path
  query : Query.normalize r.query = Query.normalize r'.query
  id : a.id = a'.id
  nonce : a.nonce = a'.nonce
  realm : a.realm = a'.realm
  version : a.version = a'.version
  fields : signedFields r a = signedFields r' a'
  timestamp : r.headers.get? Headers.timestamp = r'.headers.get? Headers.timestamp
  body : r.body = [] ↔ r'.body = []
  contentType : r.body ≠ [] →
    r.headers.getD Headers.contentType "" = r'.headers.getD Headers.contentType ""
  contentDigest : r.body ≠ [] →
    r.headers.get? Headers.contentDigest = r'.headers.get? Headers.contentDigest

theorem parameters_eq_of_parameterLine_eq (h : parameterLine a = parameterLine a') :
    parameters a = parameters a' := by
  rw [parameterLine_eq, parameterLine_eq] at h
  exact Query.joinPairs_inj (List.cons_ne_nil _ _) (List.cons_ne_nil _ _) h

/-- The name of a header line ends at the first colon. -/
theorem headerLine_inj {name name' : String} (hname : ':' ∉ name.toList)
    (hname' : ':' ∉ name'.toList) (h : headerLine r name = headerLine r' name') :
    Text.lower name = Text.lower name' ∧ r.headers.getD name "" = r'.headers.getD name' "" := by
  have hlower {n : String} (hn : ':' ∉ n.toList) : ':' ∉ (Text.lower n).toList := fun hmem =>
    hn (Text.mem_of_mem_lower (by decide) (by decide) hmem)
  exact Text.append_sep_inj rfl (hlower hname) (hlower hname') h

theorem signedFields_eq {names names' : List String} (hcolon : ∀ name ∈ names, ':' ∉ name.toList)
    (hcolon' : ∀ name ∈ names', ':' ∉ name.toList)
    (hnames : ∀ name ∈ names, r.headers.contains name = true)
    (hnames' : ∀ name ∈ names', r'.headers.contains name = true)
    (h : names.map (headerLine r) = names'.map (headerLine r')) :
    names.map (fun name => (Text.lower name, r.headers.get? name)) =
      names'.map fun name => (Text.lower name, r'.headers.get? name) := by
  induction names generalizing names' with
  | nil =>
    obtain rfl : names' = [] := List.map_eq_nil_iff.1 h.symm
    rfl
  | cons name names ih =>
    cases names' with
    | nil => exact absurd h (List.cons_ne_nil _ _)
    | cons name' names' =>
      rw [List.forall_mem_cons] at hcolon hcolon' hnames hnames'
      obtain ⟨hhead, htail⟩ := List.cons.inj h
      obtain ⟨hlower, hvalue⟩ := headerLine_inj hcolon.1 hcolon'.1 hhead
      rw [List.map_cons, List.map_cons, Headers.get?_eq_some_getD hnames.1,
        Headers.get?_eq_some_getD hnames'.1, hlower, hvalue,
        ih hcolon.2 hcolon'.2 hnames.2 hnames'.2 htail]

/-- A header line has a colon. -/
theorem mem_colon_headerLine (r : Request) (names : List String) :
    ∀ line ∈ names.map (headerLine r), ':' ∈ line.toList := by
  refine List.forall_mem_map.2 fun name _ => ?_
  simp [headerLine]

/-- **A timestamp has no colon**: it consists of digits and blanks. -/
theorem not_mem_colon_of_digits? {value : String} (h : (Timestamp.digits? value).isSome) :
    ':' ∉ value.toList := by
  intro hmem
  obtain ⟨digits, hdigits⟩ := Option.isSome_iff_exists.1 h
  rcases (Timestamp.digits?_eq_some_iff.1 hdigits).isBlank_or_isDigit hmem with hblank | hdigit
  · exact absurd hblank (by decide)
  · exact absurd hdigit (by decide)

theorem LineSafe.not_mem_colon (h : LineSafe r a) :
    ':' ∉ (r.headers.getD Headers.timestamp "").toList := by
  obtain ⟨value, hvalue, hdigits⟩ := h.timestamp
  rw [Headers.getD, hvalue]
  exact not_mem_colon_of_digits? hdigits

/-- Only a body has lines after the timestamp. -/
theorem trailer_eq_iff : trailer r = trailer r' ↔
    (r.body = [] ↔ r'.body = []) ∧
      (r.body ≠ [] →
        r.headers.getD Headers.contentType "" = r'.headers.getD Headers.contentType "" ∧
          r.headers.getD Headers.contentDigest "" = r'.headers.getD Headers.contentDigest "") := by
  rw [trailer, trailer]
  cases r.body with
  | nil => cases r'.body <;> simp
  | cons b bs => cases r'.body <;> simp

/-- **Equal lines belong to the same message.**  The first line without a colon after the fifth
line is the timestamp, because every header line before it has one. -/
theorem sameMessage_of_lines_eq (h : LineSafe r a) (h' : LineSafe r' a')
    (hnames : ∀ name ∈ requiredHeaders r a, r.headers.contains name = true)
    (hnames' : ∀ name ∈ requiredHeaders r' a', r'.headers.contains name = true)
    (heq : lines r a = lines r' a') : SameMessage r a r' a' := by
  simp only [lines, List.cons.injEq] at heq
  obtain ⟨hmethod, hhost, hpath, hquery, hparameters, hrest⟩ := heq
  obtain ⟨hheaders, htimestamp, htrailer⟩ := Text.append_cons_inj
    (mem_colon_headerLine r a.headers) (mem_colon_headerLine r' a'.headers) h.not_mem_colon
    h'.not_mem_colon hrest
  have hlist := parameters_eq_of_parameterLine_eq hparameters
  simp only [parameters, List.cons.injEq, Prod.mk.injEq, true_and, and_true] at hlist
  obtain ⟨hid, hnonce, hrealm, hversion⟩ := hlist
  obtain ⟨hpresent, hdigest, hsigned⟩ := forall_mem_requiredHeaders.1 hnames
  obtain ⟨hpresent', hdigest', hsigned'⟩ := forall_mem_requiredHeaders.1 hnames'
  obtain ⟨hbody, hvalues⟩ := trailer_eq_iff.1 htrailer
  exact {
    method := hmethod
    host := hhost
    path := hpath
    query := hquery
    id := hid
    nonce := hnonce
    realm := hrealm
    version := hversion
    fields := signedFields_eq h.colon h'.colon hsigned hsigned' hheaders
    timestamp := by
      rw [Headers.get?_eq_some_getD hpresent, Headers.get?_eq_some_getD hpresent',
        htimestamp]
    body := hbody
    contentType := fun hne => (hvalues hne).1
    contentDigest := fun hne => by
      rw [Headers.get?_eq_some_getD (hdigest (by simpa using hne)),
        Headers.get?_eq_some_getD (hdigest' (by simpa using mt hbody.2 hne)), (hvalues hne).2] }

theorem SameMessage.lines_eq (h : SameMessage r a r' a') : lines r a = lines r' a' := by
  have hheaders : a.headers.map (headerLine r) = a'.headers.map (headerLine r') := by
    have hfields := congrArg (List.map fun p => p.1 ++ ":" ++ p.2.getD "") h.fields
    rwa [signedFields, signedFields, List.map_map, List.map_map] at hfields
  have htimestamp : r.headers.getD Headers.timestamp "" = r'.headers.getD Headers.timestamp "" :=
    congrArg (·.getD "") h.timestamp
  have htrailer : trailer r = trailer r' := trailer_eq_iff.2 ⟨h.body, fun hne =>
    ⟨h.contentType hne, congrArg (·.getD "") (h.contentDigest hne)⟩⟩
  rw [lines, lines, h.method, h.host, h.path, h.query, parameterLine_eq, parameterLine_eq,
    parameters, parameters, h.id, h.nonce, h.realm, h.version, hheaders, htimestamp, htrailer]

/-- What the one request must have, the other one has too. -/
theorem SameMessage.contains (h : SameMessage r a r' a')
    (hnames : ∀ name ∈ requiredHeaders r a, r.headers.contains name = true) :
    ∀ name ∈ requiredHeaders r' a', r'.headers.contains name = true := by
  rw [forall_mem_requiredHeaders] at hnames ⊢
  obtain ⟨hpresent, hdigest, hsigned⟩ := hnames
  refine ⟨?_, fun hbody => ?_, fun name hname => ?_⟩
  · rwa [Headers.contains, ← h.timestamp]
  · have hne : r.body ≠ [] := mt h.body.1 (by simpa using hbody)
    rw [Headers.contains, ← h.contentDigest hne]
    exact hdigest (by simpa using hne)
  · have hmem : (Text.lower name, r'.headers.get? name) ∈ signedFields r a :=
      h.fields ▸ List.mem_map_of_mem hname
    obtain ⟨n, hn, hfield⟩ := List.mem_map.1 hmem
    rw [Headers.contains, ← (Prod.mk.inj hfield).2]
    exact hsigned n hn

theorem SameMessage.signedText_eq (h : SameMessage r a r' a') {text : Octets}
    (htext : signedText r a = .ok text) : signedText r' a' = .ok text := by
  obtain ⟨hnames, rfl⟩ := signedText_eq_ok_iff.1 htext
  exact signedText_eq_ok_iff.2 ⟨h.contains hnames, by rw [h.lines_eq]⟩

/-- **Two requests with the same signed text are the same message**, and conversely. -/
theorem signedText_eq_iff_sameMessage (h : LineSafe r a) (h' : LineSafe r' a')
    {text text' : Octets} (htext : signedText r a = .ok text)
    (htext' : signedText r' a' = .ok text') : text = text' ↔ SameMessage r a r' a' := by
  constructor
  · rintro rfl
    exact sameMessage_of_lines_eq h h' (signedText_eq_ok_iff.1 htext).1
      (signedText_eq_ok_iff.1 htext').1 (lines_eq_of_signedText_eq h h' htext htext')
  · intro hsame
    rw [(signedText_eq_ok_iff.1 htext).2, (signedText_eq_ok_iff.1 htext').2, hsame.lines_eq]

/-! Two ways to write one message: letter case, needless escapes and the slash at the end of the
path are not signed. -/

def sampleRequest : Request where
  method := "POST"
  host := "example.com"
  path := "/items"
  query := "a=%7E&"
  headers := ⟨[("X-Authorization-Timestamp", "1432075982"),
    ("X-Authorization-Content-SHA256", "RBNvo1WzZ4oRRq0W9+hknpT7T8If536DEMBg9hyq/4o="),
    ("Content-Type", "application/json"), ("X-Custom", "a:b")]⟩
  body := [123, 125]

def sampleAuthorization : Authorization where
  id := "efdde334"
  realm := "Pipet service"
  nonce := "d1954337"
  version := "2.0"
  headers := ["X-Custom"]
  signature := ""

def recasedRequest : Request :=
  { sampleRequest with
    method := "post"
    host := "EXAMPLE.com"
    path := "/items/"
    query := "a=~" }

def recasedAuthorization : Authorization := { sampleAuthorization with headers := ["x-custom"] }

theorem sample_lineSafe : LineSafe sampleRequest sampleAuthorization where
  method := by decide
  host := by decide
  path := by decide
  colon := by decide
  names := by decide
  values := by decide
  timestamp := ⟨"1432075982", by decide, by decide⟩

theorem recased_lineSafe : LineSafe recasedRequest recasedAuthorization where
  method := by decide
  host := by decide
  path := by decide
  colon := by decide
  names := by decide
  values := by decide
  timestamp := ⟨"1432075982", by decide, by decide⟩

theorem recased_sameMessage :
    SameMessage sampleRequest sampleAuthorization recasedRequest recasedAuthorization := by
  have htext : signedText sampleRequest sampleAuthorization = .ok _ :=
    signedText_eq_ok_iff.2 ⟨by decide +kernel, rfl⟩
  have htext' : signedText recasedRequest recasedAuthorization = .ok _ :=
    signedText_eq_ok_iff.2 ⟨by decide +kernel, rfl⟩
  have hlines : lines sampleRequest sampleAuthorization =
      lines recasedRequest recasedAuthorization := by decide +kernel
  exact (signedText_eq_iff_sameMessage sample_lineSafe recased_lineSafe htext htext').1
    (by rw [hlines])

end CurrentScheme
end SignedHttp
