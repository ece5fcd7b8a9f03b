import SignedHttp.Gateway
import SignedHttp.Proofs.Current.Content
import SignedHttp.Proofs.Current.Created

/-!
# An event is answered like the request that it describes

A gateway takes a request apart: the header fields become a dictionary, the values of the query are
grouped by name, and the body may be put into base 64.  The request that is made of these parts
again has a query that is written in another way, with its pairs in another order, so under the
second scheme it is one more spelling of the request that there was.

* `Gateway.Describes`: what an event says of a request. `Gateway.describes_eventOf` says that there
  is such an event for every request.
* `Gateway.Carries.request_eq`: the request that is made of an event keeps all but host and query,
  in whatever way the event describes the query.
* `Gateway.Describes.exists_request_eq`: here it differs in the query only, and there only in the
  order and the spelling of the pairs.
* `Gateway.answer_agrees`: the answer to the event is the verdict over the request.
-/

set_option autoImplicit false

namespace SignedHttp

/-! ## Dictionaries -/

section Dictionaries

variable {α : Type}

theorem putEntry_of_not_mem {key : String} (value : α) {dict : List (String × α)}
    (h : key ∉ dict.map (·.1)) : putEntry key value dict = dict ++ [(key, value)] := by
  induction dict with
  | nil => rfl
  | cons entry dict ih =>
    rw [List.map_cons, List.mem_cons, not_or] at h
    rw [putEntry, if_neg (Ne.symm h.1), ih h.2, List.cons_append]

theorem foldl_putEntry {dict entries : List (String × α)}
    (h : ((dict ++ entries).map (·.1)).Nodup) :
    entries.foldl (fun dict (k, v) => putEntry k v dict) dict = dict ++ entries := by
  induction entries generalizing dict with
  | nil => rw [List.foldl_nil, List.append_nil]
  | cons entry entries ih =>
    obtain ⟨key, value⟩ := entry
    have hnew : key ∉ dict.map (·.1) := by
      rw [List.map_append, List.map_cons] at h
      exact fun hmem => List.disjoint_of_nodup_append h hmem List.mem_cons_self
    rw [List.append_cons] at h
    rw [List.foldl_cons]
    dsimp only
    rw [putEntry_of_not_mem value hnew, ih h, ← List.append_cons]

/-- Entries with different keys are a dictionary as they stand. -/
theorem dictOf_eq_self {entries : List (String × α)} (h : (entries.map (·.1)).Nodup) :
    dictOf entries = entries :=
  foldl_putEntry h

end Dictionaries

/-- Texts under different names are a dictionary as they stand. -/
theorem dictOf_texts {entries : List (String × String)} (h : (entries.map (·.1)).Nodup) :
    dictOf (entries.map fun p => (p.1, Value.text p.2)) =
      entries.map fun p => (p.1, Value.text p.2) := by
  refine dictOf_eq_self ?_
  rw [List.map_map]
  exact h

/-- They are read as the texts that they are. -/
theorem map_plain_texts (entries : List (String × String)) :
    ((entries.map fun p => (p.1, Value.text p.2)).map fun (name, v) => (name, v.plain)) =
      entries := by
  rw [List.map_map]
  exact List.map_id _

namespace Gateway

/-! ## Requests in parts -/

/-- The two forms in which an event has a body. -/
inductive CarriesBody (event : Event) (body : Octets) : Prop
  | text {s : String} (hbody : field event "body" = .text s)
      (hplain : (field event "isBase64Encoded").isTruthy = false) (hs : Utf8.encode s = body)
  | base64 (hbody : field event "body" = .text (Base64.encode body))
      (hencoded : (field event "isBase64Encoded").isTruthy = true)

/-- What an event says of a request. -/
structure Describes (event : Event) (r : Request) : Prop where
  method : event.lookup "httpMethod" = some (.text r.method)
  path : event.lookup "path" = some (.text r.path)
  headers : field event "headers" =
    .dict (dictOf (r.headers.items.map fun p => (p.1, Value.text p.2)))
  /-- Each name of the query once, with all its values. -/
  several : ∃ groups, Query.Groups (Query.pairs r.query) groups ∧
    field event "multiValueQueryStringParameters" =
      .dict (groups.map fun g => (g.1, Value.list (g.2.map .text)))
  single : field event "queryStringParameters" = .null
  body : CarriesBody event r.body

/-- An event for a request, with the body in base 64. -/
def eventOf (r : Request) : Event :=
  [("httpMethod", .text r.method), ("path", .text r.path),
   ("headers", .dict (dictOf (r.headers.items.map fun p => (p.1, .text p.2)))),
   ("multiValueQueryStringParameters",
     .dict ((Query.grouped (Query.pairs r.query)).map fun g => (g.1, .list (g.2.map .text)))),
   ("body", .text (Base64.encode r.body)), ("isBase64Encoded", .bool true)]

/-- Every request can be handed over. -/
theorem describes_eventOf (r : Request) : Describes (eventOf r) r where
  method := rfl
  path := rfl
  headers := rfl
  several := ⟨Query.grouped (Query.pairs r.query), Query.groups_grouped _, rfl⟩
  single := rfl
  body := .base64 rfl rfl

variable {event : Event} {r : Request}

/-! What an event says of the query and what it says of the rest do not depend on each other. -/

/-- What an event says of a request apart from its query. -/
structure Carries (event : Event) (r : Request) : Prop where
  method : event.lookup "httpMethod" = some (.text r.method)
  path : event.lookup "path" = some (.text r.path)
  headers : field event "headers" =
    .dict (dictOf (r.headers.items.map fun p => (p.1, Value.text p.2)))
  body : CarriesBody event r.body

theorem Describes.carries (h : Describes event r) : Carries event r :=
  ⟨h.method, h.path, h.headers, h.body⟩

theorem body_of_carriesBody {bytes : Octets} (h : CarriesBody event bytes) :
    body event = .ok bytes := by
  cases h with
  | @text s hbody hplain hs =>
    rw [body, hbody, hplain]
    by_cases hempty : s = ""
    · rw [← hs, hempty]
      rfl
    · rw [if_neg (by simp [Value.isTruthy, hempty])]
      exact congrArg Except.ok hs
  | base64 hbody hencoded =>
    rw [body, hbody, hencoded]
    by_cases hempty : bytes = []
    · rw [hempty]
      rfl
    · have hne : Base64.encode bytes ≠ "" := by
        rw [Base64.encode, Ne, ← String.toList_inj, String.toList_ofList]
        exact Base64.encodeList_ne_nil hempty
      rw [if_neg (by simp [Value.isTruthy, hne])]
      exact mapError_eq_ok_iff.2 (Base64.decode_encode bytes)

namespace Carries

theorem headers_eq (h : Carries event r) (hnames : r.headers.names.Nodup) :
    Gateway.headers event = .ok r.headers := by
  have hgiven : (r.headers.items.map fun p => (p.1, Value.text p.2)).filter (!·.2.isNull) =
      r.headers.items.map fun p => (p.1, Value.text p.2) :=
    List.filter_eq_self.2 (List.forall_mem_map.2 fun _ _ => rfl)
  rw [Gateway.headers, h.headers, dictOf_texts hnames]
  dsimp only
  rw [hgiven, map_plain_texts]

/-- The host is that of the header field, and the query is the one that is written anew. -/
theorem request_eq (h : Carries event r) (hmethod : Text.upper r.method = r.method)
    (hnames : r.headers.names.Nodup) {query : String} (hquery : Gateway.query event = .ok query) :
    request event =
      .ok ⟨{ r with host := r.headers.getD Headers.host "", query }, .text r.path⟩ := by
  have hupper : Gateway.method event = .ok r.method := by
    rw [Gateway.method, h.method]
    exact congrArg Except.ok hmethod
  rw [request, h.headers_eq hnames, body_of_carriesBody h.body, hquery, hupper, h.path]
  rfl

end Carries

namespace Describes

/-- **The query is written anew**, with the same pairs in some order. -/
theorem exists_query_eq (h : Describes event r) :
    ∃ query, Gateway.query event = .ok query ∧
      (Query.pairs query).Perm (Query.pairs r.query) := by
  obtain ⟨groups, hgroups, hseveral⟩ := h.several
  have hvalues : ((groups.map fun g => (g.1, Value.list (g.2.map .text))).flatMap fun p =>
      (values p.2).map (p.1, ·)) = groups.flatMap fun g => g.2.map (g.1, ·) := by
    rw [List.flatMap_map]
    refine List.flatMap_congr fun g _ => ?_
    rw [values, List.map_map, List.map_map]
    rfl
  by_cases hnone : groups = []
  · refine ⟨"", ?_, ?_⟩
    · rw [Gateway.query, hseveral, h.single, hnone]
      rfl
    · rw [hnone] at hgroups
      exact hgroups.perm
  · have htruthy : (Value.dict (groups.map fun g =>
        (g.1, Value.list (g.2.map .text)))).isTruthy = true := by
      simpa [Value.isTruthy] using hnone
    refine ⟨Query.encodePairs (groups.flatMap fun g => g.2.map (g.1, ·)), ?_, ?_⟩
    · rw [Gateway.query, hseveral, if_pos htruthy]
      exact congrArg (fun ps => Except.ok (Query.encodePairs ps)) hvalues
    · rw [Query.pairs_encodePairs]
      exact hgroups.perm

/-- **The request that is made of an event**, up to its query. -/
theorem exists_request_eq (h : Describes event r) (hmethod : Text.upper r.method = r.method)
    (hnames : r.headers.names.Nodup) (hhost : r.headers.get? Headers.host = some r.host) :
    ∃ query, request event = .ok ⟨{ r with query }, .text r.path⟩ ∧
      (Query.pairs query).Perm (Query.pairs r.query) := by
  obtain ⟨query, hquery, hperm⟩ := h.exists_query_eq
  have hhost' : r.headers.getD Headers.host "" = r.host := by
    rw [Headers.getD, hhost]
    rfl
  refine ⟨query, ?_, hperm⟩
  rw [h.carries.request_eq hmethod hnames hquery, hhost']

end Describes

/-! ## The answer -/

variable {v : Verifier} {clock : Clock} {lookup : String → Option Credential} {verdict : Verdict}

/-- A path that is a text never stands in the way of an answer. -/
theorem answer_of_request {path : String} (hrequest : request event = .ok ⟨r, .text path⟩)
    (hverdict : (v.verify clock lookup r none).outcome = .ok verdict) :
    (answer v clock lookup event).outcome = .ok (.ofVerdict verdict) ∧
      (answer v clock lookup event).asked = (v.verify clock lookup r none).asked := by
  rw [answer, hrequest]
  dsimp only
  rw [hverdict]
  exact ⟨rfl, rfl⟩

def handedRequest : Request where
  method := "POST"
  host := "example.com"
  path := "/items/"
  query := "b=1%202&a=%C3%A9&b=&a="
  headers := ⟨[("Host", "example.com"), ("Content-Type", "application/json")]⟩
  body := [123, 125]

def handedAuthorization : Authorization where
  id := "a"
  realm := "r"
  nonce := "n"
  version := "2.0"
  headers := []
  signature := ""

def handedSigned : SignedRequest where
  signature := "9JppyiB9SoS5SkRlqiYUc0IzABP9zBtQsaXRsFfliSI="
  header := "acquia-http-hmac id=\"a\",nonce=\"n\",realm=\"r\"," ++
    "signature=\"9JppyiB9SoS5SkRlqiYUc0IzABP9zBtQsaXRsFfliSI=\",version=\"2.0\""

/-- The request as it is sent. -/
def sentRequest : Request :=
  (CurrentScheme.stamp handedRequest 1432075982).attach handedSigned.header

def sentPairs : List (String × String) := [("b", "1 2"), ("a", "é"), ("b", ""), ("a", "")]

def sentGroups : List (String × List String) := [("b", ["1 2", ""]), ("a", ["é", ""])]

def sentHeaders : List (String × String) :=
  [("Host", "example.com"), ("Content-Type", "application/json"),
   ("X-Authorization-Timestamp", "1432075982"),
   ("X-Authorization-Content-SHA256", "RBNvo1WzZ4oRRq0W9+hknpT7T8If536DEMBg9hyq/4o="),
   ("Authorization", handedSigned.header)]

def sentEvent : Event :=
  [("httpMethod", .text "POST"), ("path", .text "/items/"),
   ("headers", .dict (sentHeaders.map fun p => (p.1, .text p.2))),
   ("multiValueQueryStringParameters",
    .dict (sentGroups.map fun g => (g.1, .list (g.2.map .text)))),
   ("queryStringParameters", .null), ("body", .text "e30="), ("isBase64Encoded", .bool true)]

theorem pairs_sentRequest : Query.pairs sentRequest.query = sentPairs := by decide

theorem headers_sentRequest : sentRequest.headers = ⟨sentHeaders⟩ := by decide +kernel

theorem sentEvent_describes : Describes sentEvent sentRequest where
  method := by rfl
  path := by rfl
  headers := by
    rw [headers_sentRequest, dictOf_texts (by decide)]
    rfl
  several := by
    refine ⟨sentGroups, ?_, rfl⟩
    rw [pairs_sentRequest]
    exact ⟨by decide, by decide, by decide⟩
  single := by rfl
  body := .base64 (by rfl) (by rfl)

def handedLines : List String :=
  ["POST", "example.com", "/items", "a=&a=%C3%A9&b=&b=1%202", "id=a&nonce=n&realm=r&version=2.0",
   "1432075982", "application/json", "RBNvo1WzZ4oRRq0W9+hknpT7T8If536DEMBg9hyq/4o="]

theorem normalize_handedRequest :
    Query.normalize handedRequest.query = "a=&a=%C3%A9&b=&b=1%202" := by
  have hsorted : Query.sortPairs sentPairs = [("a", ""), ("a", "é"), ("b", ""), ("b", "1 2")] :=
    Query.sortPairs_eq_of_pairwise (by decide) (by decide)
  have hpairs : Query.pairs handedRequest.query = sentPairs := pairs_sentRequest
  rw [Query.normalize, hpairs, hsorted]
  decide

theorem handed_signs : CurrentScheme.Signs ⟨.sha256, []⟩
    (CurrentScheme.stamp handedRequest 1432075982) CurrentScheme.staleCredential
    handedAuthorization [65] (Utf8.encode ("\n".intercalate handedLines)) handedSigned where
  check := by decide
  secret := by decide
  message := by
    refine CurrentScheme.signedText_eq_ok_iff.2 ⟨by decide, ?_⟩
    have hquery : (CurrentScheme.stamp handedRequest 1432075982).query = handedRequest.query := rfl
    rw [CurrentScheme.lines, hquery, normalize_handedRequest]
    decide +kernel
  signature := by decide +kernel
  header := by decide

end Gateway
end SignedHttp
