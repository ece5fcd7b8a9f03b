import SignedHttp.Proofs.Headers
import SignedHttp.Proofs.Octets
import SignedHttp.Scheme.Legacy

/-!
# What the signed text of the first scheme determines

The first scheme signs a list of lines, too, and the last of them is the resource.  How many lines
stand in front of it depends on the number of further header fields alone, and both sides know the
names of these.  So nothing has to tell where the resource begins, and it may have line breaks of
its own, while no other component may.

* `LegacyScheme.leadingLines`: the lines in front of the resource.
* `LegacyScheme.toList_signedLines`: each of them is ended by a line break, and the resource
  follows.
* `LegacyScheme.LineSafe`: what the components must satisfy.
* `LegacyScheme.SameMessage`: two requests agree in everything that is signed.
* `LegacyScheme.signedText_query_iff`: another query always makes another text.
* `LegacyScheme.signedText_eq_iff`: they have the same signed text just if they do, and its number
  of lines is known.
-/

set_option autoImplicit false

namespace SignedHttp

/-- Under one path the query is found again in the resource. -/
theorem Request.resource_eq_iff {r r' : Request} (hpath : r.path = r'.path) :
    r.resource = r'.resource ↔ r.query = r'.query := by
  have hresource (s : Request) : s.resource.toList =
      s.path.toList ++ if s.query.isEmpty then [] else '?' :: s.query.toList := by
    rw [resource]
    split
    · rw [List.append_nil]
    · rw [String.toList_append, String.toList_append, List.append_assoc]
      rfl
  constructor
  · intro h
    rw [← String.toList_inj, hresource, hresource, hpath, List.append_cancel_left_eq] at h
    -- a question mark tells an empty query from any other
    split at h
    · next hempty =>
      split at h
      · next hempty' => rw [String.isEmpty_iff.1 hempty, String.isEmpty_iff.1 hempty']
      · exact absurd h (by simp)
    · split at h
      · exact absurd h (by simp)
      · exact String.toList_inj.1 (List.cons.inj h).2
  · intro h
    rw [resource, resource, hpath, h]

namespace LegacyScheme

variable {r r' : Request} {a a' : Authorization} {names : List String}

/-! ## The lines in front of the resource -/

/-- A line for each further header field, or an empty one where there are none. -/
def fieldLines (r : Request) (names : List String) : List String :=
  if names.isEmpty then [""] else names.map (headerLine r)

def leadingLines (r : Request) (names : List String) : List String :=
  Text.upper r.method :: Algorithm.md5.hashHex r.body :: r.headers.getD Headers.contentType "" ::
    r.headers.getD Headers.date "" :: fieldLines r names

theorem length_leadingLines (r : Request) (names : List String) :
    (leadingLines r names).length = 4 + max 1 names.length := by
  cases names with
  | nil => rfl
  | cons name names =>
    simp only [leadingLines, fieldLines, List.isEmpty_cons, if_neg, Bool.false_eq_true,
      List.length_cons, List.length_map, not_false_eq_true]
    omega

/-- The lines of the further header fields, joined as they are signed. -/
theorem flatMap_fieldLines (r : Request) (names : List String) :
    ((fieldLines r names).map String.toList).flatMap (· ++ ['\n']) =
      ("\n".intercalate (names.map (headerLine r))).toList ++ ['\n'] := by
  cases names with
  | nil => rfl
  | cons name names =>
    rw [fieldLines, if_neg (by simp), Text.flatMap_ended (by simp), String.toList_intercalate]
    rfl

/-- **Each line in front of the resource is ended by a line break.** -/
theorem toList_signedLines (r : Request) (a : Authorization) :
    ("\n".intercalate (signedLines r a)).toList =
      ((leadingLines r a.headers).map String.toList).flatMap (· ++ ['\n']) ++
        r.resource.toList := by
  have hfields := flatMap_fieldLines r a.headers
  rw [String.toList_intercalate, show "\n".toList = ['\n'] from rfl, signedLines]
  simp only [leadingLines, List.map_cons, List.map_nil, List.intercalate_cons_cons,
    List.intercalate_singleton, List.flatMap_cons, hfields, List.append_assoc]

/-! ## Lines of their own -/

/-- Components that bring no line breaks, apart from the resource. -/
structure LineSafe (r : Request) (names : List String) : Prop where
  method : '\n' ∉ r.method.toList
  /-- Only the first value of a name is signed. -/
  values : ∀ name ∈ Headers.contentType :: Headers.date :: names,
    ∀ value ∈ r.headers.get? name, '\n' ∉ value.toList
  names : ∀ name ∈ names, '\n' ∉ name.toList

theorem not_mem_newline_hashHex (alg : Algorithm) (message : Octets) :
    '\n' ∉ (alg.hashHex message).toList := by
  have hdigits : ∀ n < 16, Hex.lowerDigit n ≠ '\n' := by decide
  intro hmem
  obtain ⟨n, hn, hdigit⟩ := Hex.exists_of_mem_encode hmem
  exact hdigits n hn hdigit.symm

theorem LineSafe.headerLine (h : LineSafe r names) :
    ∀ name ∈ names, '\n' ∉ (headerLine r name).toList := by
  intro name hname
  have hlower : '\n' ∉ (Text.lower name).toList := fun hmem =>
    h.names name hname (Text.mem_of_mem_lower (by decide) (by decide) hmem)
  have hvalue : '\n' ∉ (r.headers.getD name "").toList :=
    Headers.not_mem_getD (h.values name (by simp [hname]))
  simp [LegacyScheme.headerLine, hlower, hvalue]

/-- **No line in front of the resource brings a line break of its own.** -/
theorem LineSafe.not_mem_newline (h : LineSafe r names) :
    ∀ line ∈ leadingLines r names, '\n' ∉ line.toList := by
  have hmethod : '\n' ∉ (Text.upper r.method).toList := fun hmem =>
    h.method (Text.mem_of_mem_upper (by decide) (by decide) hmem)
  have htype := Headers.not_mem_getD (h.values Headers.contentType (by simp))
  have hdate := Headers.not_mem_getD (h.values Headers.date (by simp))
  have hfields : ∀ line ∈ fieldLines r names, '\n' ∉ line.toList := by
    rw [fieldLines]
    split
    · simp
    · exact List.forall_mem_map.2 h.headerLine
  simp only [leadingLines, List.forall_mem_cons]
  exact ⟨hmethod, not_mem_newline_hashHex _ _, htype, hdate, hfields⟩

/-! ## The message -/

/-- Two requests are the same message when all that is signed is the same.  A header field that is
absent counts as a blank one, and the body is signed by its digest. -/
structure SameMessage (names : List String) (r r' : Request) : Prop where
  method : Text.upper r.method = Text.upper r'.method
  digest : Algorithm.md5.hashHex r.body = Algorithm.md5.hashHex r'.body
  contentType : r.headers.getD Headers.contentType "" = r'.headers.getD Headers.contentType ""
  date : r.headers.getD Headers.date "" = r'.headers.getD Headers.date ""
  fields : ∀ name ∈ names, r.headers.getD name "" = r'.headers.getD name ""
  resource : r.resource = r'.resource

theorem headerLine_eq_iff {name : String} :
    headerLine r name = headerLine r' name ↔
      r.headers.getD name "" = r'.headers.getD name "" := by
  rw [headerLine, headerLine, String.append_right_inj]

theorem fieldLines_eq_iff :
    fieldLines r names = fieldLines r' names ↔
      ∀ name ∈ names, r.headers.getD name "" = r'.headers.getD name "" := by
  rw [fieldLines, fieldLines]
  split
  · next hempty => simp [List.isEmpty_iff.1 hempty]
  · simp only [List.map_inj_left, headerLine_eq_iff]

theorem leadingLines_eq_iff (hresource : r.resource = r'.resource) :
    leadingLines r names = leadingLines r' names ↔ SameMessage names r r' := by
  simp only [leadingLines, List.cons.injEq, fieldLines_eq_iff]
  constructor
  · rintro ⟨hmethod, hdigest, htype, hdate, hfields⟩
    exact ⟨hmethod, hdigest, htype, hdate, hfields, hresource⟩
  · intro h
    exact ⟨h.method, h.digest, h.contentType, h.date, h.fields⟩

/-- The lines in front of the resource are found again in the signed text, since it is known how
many there are. -/
theorem sameMessage_of_signedText_eq (h : LineSafe r names) (h' : LineSafe r' names)
    (ha : a.headers = names) (ha' : a'.headers = names)
    (htext : signedText r a = signedText r' a') : SameMessage names r r' := by
  have hlists := congrArg String.toList (Utf8.encode_inj htext)
  rw [toList_signedLines, toList_signedLines, ha, ha'] at hlists
  -- equally many lines are ended before the resources begin
  obtain ⟨hlines, hresource⟩ := Text.flatMap_ended_inj
    (List.forall_mem_map.2 h.not_mem_newline) (List.forall_mem_map.2 h'.not_mem_newline)
    (by simp only [List.length_map, length_leadingLines]) hlists
  refine (leadingLines_eq_iff (String.toList_inj.1 hresource)).1 ?_
  exact (List.map_inj_right fun _ _ => String.toList_inj.1).1 hlines

theorem SameMessage.signedText_eq (h : SameMessage names r r') (ha : a.headers = names)
    (ha' : a'.headers = names) : signedText r a = signedText r' a' := by
  have hjoined : "\n".intercalate (signedLines r a) = "\n".intercalate (signedLines r' a') := by
    rw [← String.toList_inj, toList_signedLines, toList_signedLines, ha, ha',
      (leadingLines_eq_iff h.resource).2 h, h.resource]
  rw [signedText, signedText, hjoined]

/-- **Where only host and query differ, the queries alone tell the signed texts apart.**  The lines
in front of the resource are the same then, so these may have line breaks of their own. -/
theorem signedText_query_iff {host query : String} :
    signedText { r with host, query } a = signedText r a ↔ query = r.query := by
  have hleading : leadingLines { r with host, query } a.headers = leadingLines r a.headers := rfl
  have hpath : ({ r with host, query } : Request).path = r.path := rfl
  rw [← Request.resource_eq_iff hpath]
  constructor
  · intro h
    have hlists := congrArg String.toList (Utf8.encode_inj h)
    rw [toList_signedLines, toList_signedLines, hleading, List.append_cancel_left_eq] at hlists
    exact String.toList_inj.1 hlists
  · intro h
    exact ((leadingLines_eq_iff h).1 hleading).signedText_eq rfl rfl

/-- The octet of a line break. -/
def lineFeed : UInt8 := 0x0A

/-- Beside those in the resource there is one line break behind each of the other lines. -/
theorem count_signedText (h : LineSafe r a.headers) :
    (signedText r a).count lineFeed =
      4 + max 1 a.headers.length + (Utf8.encode r.resource).count lineFeed := by
  have hlines := Text.count_flatMap_ended (List.forall_mem_map.2 h.not_mem_newline)
  rw [List.length_map, length_leadingLines] at hlines
  have hcount (cs : List Char) : (Utf8.encodeList cs).count lineFeed = cs.count '\n' :=
    Utf8.count_encodeList (c := '\n') (by decide) cs
  rw [signedText, Utf8.encode, Utf8.encode, hcount, hcount, toList_signedLines, List.count_append,
    hlines]

/-- **Two requests have the same signed text just if they are the same message**, wherever their
resources are broken into lines.  The text has five lines and one for each further header field, or
six where there are none, and then those that the resource brings. -/
theorem signedText_eq_iff (h : LineSafe r names) (h' : LineSafe r' names) (ha : a.headers = names)
    (ha' : a'.headers = names) :
    (signedText r a = signedText r' a' ↔ SameMessage names r r') ∧
      (signedText r a).count lineFeed + 1 =
        5 + max 1 names.length + (Utf8.encode r.resource).count lineFeed := by
  refine ⟨⟨sameMessage_of_signedText_eq h h' ha ha', fun hsame => hsame.signedText_eq ha ha'⟩, ?_⟩
  subst ha
  rw [count_signedText h]
  omega

/-! A line break in the path of the one request and in the query of the other, and a field that is
there twice in the one and absent from the other. -/

def brokenRequest : Request where
  method := "GET"
  host := "a.example"
  path := "/b\n?c"
  query := ""
  headers := ⟨[("X-Custom", ""), ("x-custom", "\n")]⟩
  body := []

def rejoinedRequest : Request where
  method := "get"
  host := "d.example"
  path := "/b\n"
  query := "c"
  headers := .empty
  body := []

def brokenAuthorization : Authorization where
  id := "e"
  realm := ""
  nonce := ""
  version := ""
  headers := ["X-Custom"]
  signature := ""

theorem broken_lineSafe : LineSafe brokenRequest ["X-Custom"] where
  method := by decide
  values := by decide
  names := by decide

theorem rejoined_lineSafe : LineSafe rejoinedRequest ["X-Custom"] where
  method := by decide
  values := by decide
  names := by decide

theorem rejoined_sameMessage :
    SameMessage ["X-Custom"] brokenRequest rejoinedRequest ∧
      (signedText brokenRequest brokenAuthorization).count lineFeed + 1 = 7 := by
  have hnames : brokenAuthorization.headers = ["X-Custom"] := rfl
  obtain ⟨hiff, hcount⟩ := signedText_eq_iff broken_lineSafe rejoined_lineSafe hnames hnames
  exact ⟨hiff.1 (by decide +kernel), hcount.trans (by decide)⟩

end LegacyScheme
end SignedHttp
