import SignedHttp.Proofs.Gateway
import SignedHttp.Proofs.Legacy.Header
import SignedHttp.Proofs.Legacy.SignedText
import SignedHttp.Proofs.Precedence
import SignedHttp.Proofs.Query.Form

/-!
# An event under the first scheme

The first scheme signs the query as it is written, and an event has nothing but the pairs of it.  So
an event is answered like the request that it describes if the query of this request comes out again
when its pairs are written as a form writes them.

* `Gateway.DescribesSingly`: what an event says of a request whose parameters have one value each.
* `Gateway.rewritten`: the request that is made of it.
* `Verifier.Keyed.outcome_legacy`: under the first scheme the signature alone decides once there is
  a credential.
* `Gateway.answer_of_accepted`: the answer to the event when the request is accepted.
-/

set_option autoImplicit false

namespace SignedHttp

/-! ## The verdict -/

namespace Verifier

variable {v : Verifier} {clock : Clock} {lookup : String → Option Credential} {r : Request}
  {text version identity : String} {s : LegacyScheme} {a : Authorization} {c : Credential}
  {key : Octets}

/-- No header field is required, so another request gets as far under the same value. -/
theorem Keyed.of_legacy (h : Keyed v lookup r text (.legacy s) a c key) (r' : Request) :
    Keyed v lookup r' text (.legacy s) a c key :=
  ⟨⟨h.scheme, h.identifies, h.parse, List.forall_mem_nil _⟩, h.credential, h.secret⟩

/-- **The signature alone decides** once there is a credential, and the clock has no part in it. -/
theorem Keyed.outcome_legacy (h : Keyed v lookup r text (.legacy s) a c key) (clock : Clock) :
    (v.verifyValue clock lookup r (some text)).outcome =
      .ok (if s.digest.macBase64 key (LegacyScheme.signedText r a) = a.signature
        then .accepted LegacyScheme.id c.id
        else .rejected (some LegacyScheme.id) .signatureMismatch) := by
  obtain ⟨hscheme, hauthorize⟩ := authorized_iff.1 h.toAuthorized
  split
  · next hmac =>
    have hjudge : (Scheme.legacy s).judge clock v.tolerance r a c = .ok () :=
      Scheme.judge_eq_ok_iff.2 ⟨key, h.secret, Scheme.checkTime_legacy, rfl,
        Scheme.checkSignature_eq_ok_iff.2 ⟨_, rfl, hmac⟩⟩
    rw [verifyValue_of_judge hscheme hauthorize h.credential hjudge]
    rfl
  · next hmac =>
    have hjudge : (Scheme.legacy s).judge clock v.tolerance r a c =
        .error (.rejected .signatureMismatch) :=
      Scheme.judge_eq_rejected_iff.2 (.inr ⟨key, h.secret, .inr ⟨Scheme.checkTime_legacy,
        .inr ⟨rfl, (Scheme.checkSignature_eq_error_iff rfl).2 ⟨hmac, rfl⟩⟩⟩⟩)
    exact verifyValue_eq_rejected_iff.2 (.inr ⟨text, .legacy s, rfl, hscheme, rfl,
      .inr ⟨a, hauthorize, .inr ⟨c, h.credential, hjudge⟩⟩⟩)

/-- What an accepted request has under a value of the first scheme. -/
theorem exists_keyed_of_accepted (htext : Token.begins LegacyScheme.token text = true)
    (h : (v.verifyValue clock lookup r (some text)).outcome = .ok (.accepted version identity)) :
    ∃ s a c key, Keyed v lookup r text (.legacy s) a c key ∧
      s.digest.macBase64 key (LegacyScheme.signedText r a) = a.signature := by
  obtain ⟨_, s, a, c, hvalue, hscheme, hauthorize, hlookup, hjudge, -⟩ :=
    verifyValue_eq_accepted_iff.1 h
  obtain rfl := Option.some.inj hvalue
  obtain ⟨key, hkey, -, -, hsignature⟩ := Scheme.judge_eq_ok_iff.1 hjudge
  have hauthorized := authorized_iff.2 ⟨hscheme, hauthorize⟩
  cases s with
  | legacy s =>
    obtain ⟨message, hmessage, hmac⟩ := Scheme.checkSignature_eq_ok_iff.1 hsignature
    obtain rfl := Except.ok.inj hmessage
    exact ⟨s, a, c, key, ⟨hauthorized, hlookup, hkey⟩, hmac⟩
  | current s =>
    -- a value of the first scheme does not belong to the second one
    have hid : CurrentScheme.id = LegacyScheme.id := @Registry.id_eq_of_identifies
      (.current s) (.legacy ⟨.sha1, []⟩) text hauthorized.identifies htext
    exact absurd hid (by decide)

end Verifier

namespace Gateway

variable {event : Event} {r : Request} {v : Verifier} {clock : Clock}
  {lookup : String → Option Credential} {value : String}

/-! ## Parameters with one value each -/

/-- What an event says of a request whose parameters have one value each. -/
structure DescribesSingly (event : Event) (r : Request) : Prop extends Carries event r where
  /-- The decoded pairs of the query, in its order. -/
  single : field event "queryStringParameters" =
    .dict (dictOf ((Query.pairs r.query).map fun p => (p.1, Value.text p.2)))
  several : (field event "multiValueQueryStringParameters").isTruthy = false

/-- An event for a request, with the body in base 64. -/
def singleEventOf (r : Request) : Event :=
  [("httpMethod", .text r.method), ("path", .text r.path),
   ("headers", .dict (dictOf (r.headers.items.map fun p => (p.1, .text p.2)))),
   ("queryStringParameters",
     .dict (dictOf ((Query.pairs r.query).map fun p => (p.1, .text p.2)))),
   ("body", .text (Base64.encode r.body)), ("isBase64Encoded", .bool true)]

/-- Every request can be handed over in this way, too. -/
theorem describesSingly_singleEventOf (r : Request) : DescribesSingly (singleEventOf r) r where
  method := rfl
  path := rfl
  headers := rfl
  body := .base64 rfl rfl
  single := rfl
  several := rfl

/-- The request that is made of an event for `r`: its host is the one in the header fields, and its
query is written anew. -/
def rewritten (r : Request) : Request :=
  { r with
    host := r.headers.getD Headers.host ""
    query := Query.encodePairs (Query.pairs r.query) }

namespace DescribesSingly

theorem query_eq (h : DescribesSingly event r)
    (hdistinct : ((Query.pairs r.query).map (·.1)).Nodup) :
    Gateway.query event = .ok (Query.encodePairs (Query.pairs r.query)) := by
  rw [Gateway.query, h.several, h.single, dictOf_texts hdistinct]
  dsimp only
  rw [if_neg Bool.false_ne_true, map_plain_texts]

/-- **The event is answered as the rewritten request is verified**, so its signature decides. -/
theorem outcome_of_keyed (h : DescribesSingly event r) (hmethod : Text.upper r.method = r.method)
    (hnames : r.headers.names.Nodup)
    (hauthorization : r.headers.get? Headers.authorization = some value)
    (hdistinct : ((Query.pairs r.query).map (·.1)).Nodup) {s : LegacyScheme} {a : Authorization}
    {c : Credential} {key : Octets}
    (hkeyed : Verifier.Keyed v lookup r value (.legacy s) a c key) :
    (answer v clock lookup event).outcome =
      .ok (if s.digest.macBase64 key (LegacyScheme.signedText (rewritten r) a) = a.signature
        then .accepted
        else .refused ⟨401, "Signature mismatch: Signature mismatch"⟩) := by
  have hrequest : request event = .ok ⟨rewritten r, .text r.path⟩ :=
    h.toCarries.request_eq hmethod hnames (h.query_eq hdistinct)
  have hverdict := (hkeyed.of_legacy (rewritten r)).outcome_legacy clock
  -- rewriting leaves the header fields alone, so the Authorization value is the same
  have hverify : v.verify clock lookup (rewritten r) none =
      v.verifyValue clock lookup (rewritten r) (some value) := by
    rw [Verifier.verify, Option.none_or]
    exact congrArg _ hauthorization
  rw [← hverify] at hverdict
  rw [(answer_of_request hrequest hverdict).1]
  split
  · rfl
  · rfl

end DescribesSingly

/-! ## The answer -/

/-- **The answer to an event whose request is accepted** under the first scheme.  It is acceptance
if the query comes out as it was when it is written anew.  If it does not, because of a space or of
an escape that RFC 3986 does not prefer, another text is checked than the one that was signed, and
the event is refused unless the two have one code. -/
theorem answer_of_accepted {version identity : String} (h : DescribesSingly event r)
    (hmethod : Text.upper r.method = r.method) (hnames : r.headers.names.Nodup)
    (hauthorization : r.headers.get? Headers.authorization = some value)
    (hvalue : Token.begins LegacyScheme.token value = true) (hwritten : Query.Written r.query)
    (hdistinct : ((Query.pairs r.query).map (·.1)).Nodup)
    (haccepted : (v.verify clock lookup r none).outcome = .ok (.accepted version identity)) :
    (Query.Restorable r.query → (answer v clock lookup event).outcome = .ok .accepted) ∧
      (¬Query.Restorable r.query → ∃ s a c key,
        Verifier.Keyed v lookup r value (.legacy s) a c key ∧
        LegacyScheme.signedText (rewritten r) a ≠ LegacyScheme.signedText r a ∧
        (answer v clock lookup event).outcome =
          .ok (if s.digest.macBase64 key (LegacyScheme.signedText (rewritten r) a) =
              s.digest.macBase64 key (LegacyScheme.signedText r a)
            then .accepted
            else .refused ⟨401, "Signature mismatch: Signature mismatch"⟩)) := by
  rw [Verifier.verify, Option.none_or, hauthorization] at haccepted
  obtain ⟨s, a, c, key, hkeyed, hmac⟩ := Verifier.exists_keyed_of_accepted hvalue haccepted
  have houtcome : (answer v clock lookup event).outcome = _ :=
    h.outcome_of_keyed hmethod hnames hauthorization hdistinct hkeyed
  have htext : LegacyScheme.signedText (rewritten r) a = LegacyScheme.signedText r a ↔
      Query.Restorable r.query :=
    LegacyScheme.signedText_query_iff.trans (Query.encodePairs_pairs_eq_iff hwritten)
  rw [← hmac] at houtcome
  -- nothing but equal texts is sure to have equal codes
  rw [← htext]
  refine ⟨fun hsame => ?_, fun hother => ⟨s, a, c, key, hkeyed, hother, houtcome⟩⟩
  rw [houtcome, hsame, if_pos rfl]

/-! A request whose query has an escaped letter, an escaped plus sign and a blank value. -/

def sampleVerifier : Verifier where
  registry := .pair ⟨.sha1, []⟩ ⟨.sha256, []⟩
  tolerance := 900

def sampleLookup (id : String) : Option Credential := if id = "a" then some ⟨"a", "s"⟩ else none

def sampleAuthorization (signature : String) : Authorization where
  id := "a"
  realm := ""
  nonce := ""
  version := ""
  headers := []
  signature

theorem sample_carriable : LegacyScheme.Carriable "a" where
  ne := by decide
  first := by
    intro c hc
    obtain rfl : 'a' = c := Option.some.inj hc
    decide

section Sample

variable {signature : String} (hmac : Algorithm.sha1.macBase64 (Utf8.encode "s")
  (LegacyScheme.signedText r (sampleAuthorization signature)) = signature)

include hmac

theorem sample_keyed : Verifier.Keyed sampleVerifier sampleLookup r
    (LegacyScheme.render (sampleAuthorization signature)) (.legacy ⟨.sha1, []⟩)
    (sampleAuthorization signature) ⟨"a", "s"⟩ (Utf8.encode "s") := by
  have htrailing : LegacyScheme.Trailing signature :=
    hmac ▸ LegacyScheme.trailing_of_isText (Algorithm.isText_macBase64 _ _ _)
  have hbegins : Token.begins LegacyScheme.token
      (LegacyScheme.render (sampleAuthorization signature)) = true :=
    LegacyScheme.begins_render htrailing
  have hparse : LegacyScheme.parse ⟨.sha1, []⟩
      (LegacyScheme.render (sampleAuthorization signature)) = .ok (sampleAuthorization signature) :=
    LegacyScheme.parse_render sample_carriable htrailing
  exact ⟨⟨List.mem_cons_self, hbegins, hparse, List.forall_mem_nil _⟩, rfl, rfl⟩

theorem sample_verify (hauthorization : r.headers.get? Headers.authorization =
      some (LegacyScheme.render (sampleAuthorization signature))) :
    (sampleVerifier.verify clock sampleLookup r none).outcome = .ok (.accepted "v1" "a") := by
  rw [Verifier.verify, Option.none_or, hauthorization, (sample_keyed hmac).outcome_legacy]
  exact congrArg Except.ok (if_pos hmac)

end Sample

def escapedSignature : String := "owAFE6RTaDXBP83Vfnz9DxdmPGA="

def escapedRequest : Request where
  method := "POST"
  host := "example.com"
  path := "/items/"
  query := "b=%C3%A9%2B&a="
  headers := ⟨[("Content-Type", "application/json"),
    ("authorization", LegacyScheme.render (sampleAuthorization escapedSignature))]⟩
  body := [123, 125]

theorem mac_escapedRequest : Algorithm.sha1.macBase64 (Utf8.encode "s")
    (LegacyScheme.signedText escapedRequest (sampleAuthorization escapedSignature)) =
      escapedSignature := by
  decide +kernel

theorem escapedEvent_accepted :
    (sampleVerifier.verify (.whole 0) sampleLookup escapedRequest none).outcome =
        .ok (.accepted "v1" "a") ∧
      Query.Restorable escapedRequest.query ∧
      (answer sampleVerifier (.whole 0) sampleLookup (singleEventOf escapedRequest)).outcome =
        .ok .accepted := by
  have hmethod : Text.upper escapedRequest.method = escapedRequest.method := by decide +kernel
  have hnames : escapedRequest.headers.names.Nodup := by decide
  have hauthorization : escapedRequest.headers.get? Headers.authorization =
      some (LegacyScheme.render (sampleAuthorization escapedSignature)) := by decide +kernel
  have hquery : escapedRequest.query = Query.joinPairs [("b", "é+"), ("a", "")] := by decide
  have hrestorable : Query.Restorable escapedRequest.query := by
    rw [hquery]
    exact Query.restorable_joinPairs_iff.2 (by decide)
  have hwritten : Query.Written escapedRequest.query := hquery ▸ Query.written_joinPairs _
  have hdistinct : ((Query.pairs escapedRequest.query).map (·.1)).Nodup := by
    rw [hquery, Query.pairs_joinPairs]
    decide
  have haccepted : (sampleVerifier.verify (.whole 0) sampleLookup escapedRequest none).outcome =
      .ok (.accepted "v1" "a") := sample_verify mac_escapedRequest hauthorization
  refine ⟨haccepted, hrestorable, (answer_of_accepted (describesSingly_singleEventOf _) hmethod
    hnames hauthorization ?_ hwritten hdistinct haccepted).1 hrestorable⟩
  exact (sample_keyed mac_escapedRequest).identifies

/-! A request whose query has a space. -/

def blankSignature : String := "ZkeGTee8S3X5877g0SYBOBV+PbY="

def blankRequest : Request where
  method := "GET"
  host := ""
  path := "/items"
  query := "q=a%20b"
  headers := ⟨[("Authorization", LegacyScheme.render (sampleAuthorization blankSignature))]⟩
  body := []

theorem mac_blankRequest : Algorithm.sha1.macBase64 (Utf8.encode "s")
    (LegacyScheme.signedText blankRequest (sampleAuthorization blankSignature)) =
      blankSignature := by
  decide +kernel

theorem mac_rewritten_blankRequest : Algorithm.sha1.macBase64 (Utf8.encode "s")
    (LegacyScheme.signedText (rewritten blankRequest) (sampleAuthorization blankSignature)) ≠
      blankSignature := by
  decide +kernel

/-- The space is escaped in the query that was signed, and in the one that is checked it is not. -/
theorem not_forall_answer_accepted :
    ¬∀ (v : Verifier) (clock : Clock) (lookup : String → Option Credential) (r : Request)
      (ps : List (String × String)) (event : Event) (value version identity : String),
      DescribesSingly event r → Text.upper r.method = r.method → r.headers.names.Nodup →
        r.headers.get? Headers.authorization = some value →
          Token.begins LegacyScheme.token value = true →
            r.query = Query.joinPairs ps → (ps.map (·.1)).Nodup →
              (v.verify clock lookup r none).outcome = .ok (.accepted version identity) →
                (answer v clock lookup event).outcome = .ok .accepted := by
  intro hall
  have hmethod : Text.upper blankRequest.method = blankRequest.method := by decide +kernel
  have hnames : blankRequest.headers.names.Nodup := by decide
  have hauthorization : blankRequest.headers.get? Headers.authorization =
      some (LegacyScheme.render (sampleAuthorization blankSignature)) := by decide +kernel
  have hquery : blankRequest.query = Query.joinPairs [("q", "a b")] := by decide
  have hdistinct : ((Query.pairs blankRequest.query).map (·.1)).Nodup := by
    rw [hquery, Query.pairs_joinPairs]
    decide
  have hkeyed := sample_keyed mac_blankRequest
  have hanswer := hall _ (.whole 0) _ _ _ _ _ _ _ (describesSingly_singleEventOf blankRequest)
    hmethod hnames hauthorization hkeyed.identifies hquery (by decide)
    (sample_verify mac_blankRequest hauthorization)
  have houtcome : (answer sampleVerifier (.whole 0) sampleLookup
      (singleEventOf blankRequest)).outcome = _ :=
    (describesSingly_singleEventOf _).outcome_of_keyed hmethod hnames hauthorization hdistinct
      hkeyed
  have hrefused := houtcome.trans (congrArg Except.ok (if_neg mac_rewritten_blankRequest))
  exact absurd (hrefused.symm.trans hanswer) (by simp)

end Gateway
end SignedHttp
