import SignedHttp.Proofs.Current.Signs

/-!
# Header fields that are made for a request

`Environment.createHeaders` makes every header field that a request needs to be sent signed.  The
fields replace those that are there, so a timestamp or an Authorization value from an earlier
signing does no harm, and neither does a digest when there is a body.  But a request without a body
gets no digest, and the one that it may already have stays, for which the verifier rejects it.

* `CurrentScheme.stamp`: the request with the scheme's own header fields.
* `CurrentScheme.verify_createHeaders`: what verification comes to when all the fields are set.
* `CurrentScheme.not_forall_verify_createHeaders`: it does not always accept.
-/

set_option autoImplicit false

namespace SignedHttp
namespace CurrentScheme

/-- A token is a name that survives in a list. -/
theorem Listable.ofToken {name : String} (h : Headers.IsToken name) : Listable name where
  ne := h.ne
  trimmed := Text.trim_eq_self
    (fun c hc => Headers.isBlank_of_isTokenChar (h.chars c (List.mem_of_mem_head? hc)))
    fun c hc => Headers.isBlank_of_isTokenChar (h.chars c (List.mem_of_getLast? hc))
  comma := fun hmem => absurd (h.chars _ hmem) (by decide)
  semicolon := fun hmem => absurd (h.chars _ hmem) (by decide)

variable {s : CurrentScheme} {r : Request} {c : Credential} {a : Authorization}
  {key text : Octets} {signed : SignedRequest} {reg : Registry} {t now tolerance : Int}

/-! ## The scheme's own header fields -/

/-- A request with the header fields that it gets before it is signed. -/
def stamp (r : Request) (t : Int) : Request := r.withHeaders (signingHeaders r t)

theorem stamp_headers : (stamp r t).headers =
    if r.body.isEmpty then r.headers.set Headers.timestamp (toString t)
    else (r.headers.set Headers.timestamp (toString t)).set Headers.contentDigest
      (Algorithm.sha256.hashBase64 r.body) := by
  rw [stamp, signingHeaders]
  split
  · rfl
  · rfl

theorem sameName_timestamp_contentDigest :
    Headers.sameName Headers.timestamp Headers.contentDigest = false := by
  decide

theorem sameName_contentDigest_timestamp :
    Headers.sameName Headers.contentDigest Headers.timestamp = false := by
  decide

theorem get?_stamp_timestamp :
    (stamp r t).headers.get? Headers.timestamp = some (toString t) := by
  rw [stamp_headers]
  split
  · rw [Headers.get?_set_self]
  · rw [Headers.get?_set_of_ne sameName_contentDigest_timestamp, Headers.get?_set_self]

/-- A digest is only made for a body. -/
theorem get?_stamp_contentDigest :
    (stamp r t).headers.get? Headers.contentDigest =
      if r.body.isEmpty then r.headers.get? Headers.contentDigest
      else some (Algorithm.sha256.hashBase64 r.body) := by
  rw [stamp_headers]
  split
  · rw [Headers.get?_set_of_ne sameName_timestamp_contentDigest]
  · rw [Headers.get?_set_self]

/-! ## The checks that signing does not make -/

theorem checkTime_stamp (ht : 0 ≤ t) (hwritable : Timestamp.isWritable t = true)
    (hwindow : Timestamp.distance now t ≤ tolerance) :
    (Scheme.current s).checkTime (.whole now) tolerance (stamp r t) = .ok () := by
  rw [Scheme.checkTime_current get?_stamp_timestamp,
    Timestamp.check_toString ht hwritable hwindow]
  rfl

/-- **Only a digest that was there before is in the way**, and only where there is no body. -/
theorem checkBody_stamp :
    (Scheme.current s).checkBody (stamp r t) =
      if r.body.isEmpty && r.headers.contains Headers.contentDigest then .error .digestWithoutBody
      else .ok () := by
  have hdeclared := get?_stamp_contentDigest (r := r) (t := t)
  by_cases hbody : r.body = []
  · rw [hbody, List.isEmpty_nil, if_pos rfl] at hdeclared
    rw [hbody, List.isEmpty_nil, Bool.true_and, Headers.contains]
    cases hfound : r.headers.get? Headers.contentDigest with
    | none =>
      rw [hfound] at hdeclared
      exact Scheme.checkBody_current_eq_ok_iff.2 (by simp [hdeclared])
    | some claimed =>
      rw [hfound] at hdeclared
      refine Scheme.checkBody_current_eq_error_iff.2 ⟨claimed, hdeclared, ?_⟩
      exact Scheme.checkContentDigest_eq_error_iff.2 (.inl ⟨hbody, rfl⟩)
  · have hempty : r.body.isEmpty = false := List.isEmpty_eq_false_iff.2 hbody
    rw [hempty, if_neg Bool.false_ne_true] at hdeclared
    rw [hempty, Bool.false_and, if_neg Bool.false_ne_true]
    refine Scheme.checkBody_current_eq_ok_iff.2 fun claimed hclaimed => ⟨hbody, ?_⟩
    exact Option.some.inj (hdeclared.symm.trans hclaimed)

/-! ## All the header fields -/

/-- Making the header fields of a request signs the stamped request and attaches the outcome. -/
theorem exists_signs_of_createHeaders {env : Environment} {realm nonce : Option String}
    {names : List String} {fields : List (String × String)}
    (h : (env.createHeaders (some reg) r c CurrentScheme.id realm nonce names (some t)).value =
      .ok fields) :
    ∃ s a key text signed, .current s ∈ reg.schemes ∧ a.id = c.id ∧ a.headers = names ∧
      Signs s (stamp r t) c a key text signed ∧
      r.withHeaders fields = (stamp r t).attach signed.header := by
  obtain ⟨_, realmText, hfind, -, hcreate⟩ := Environment.createHeaders_eq_ok_iff.1 h
  obtain ⟨s, rfl, hmem⟩ := Registry.exists_of_find?_current hfind
  obtain ⟨own, signed, hown, hsign, rfl⟩ := Scheme.createHeaders_eq_ok_iff.1 hcreate
  obtain rfl : signingHeaders r t = own := Except.ok.inj hown
  obtain ⟨key, text, hsigns⟩ := exists_signs_iff.2 hsign
  exact ⟨s, newParameters env.freshNonce c.id realmText nonce names, key, text, signed, hmem, rfl,
    rfl, hsigns, Request.withHeaders_concat⟩

/-- The verdict over a stamped request that was signed. -/
theorem Signs.verify_stamp {lookup : String → Option Credential}
    (h : Signs s (stamp r t) c a key text signed) (hmem : .current s ∈ reg.schemes)
    (htokens : ∀ name ∈ a.headers, Headers.IsToken name)
    (hnames : ∀ name ∈ a.headers, Text.lower name ≠ "authorization")
    (hlookup : lookup a.id = some c) (ht : 0 ≤ t) (hwritable : Timestamp.isWritable t = true)
    (hwindow : Timestamp.distance now t ≤ tolerance) :
    ((Verifier.mk reg tolerance).verify (.whole now) lookup ((stamp r t).attach signed.header)
        none).outcome =
      .ok (if r.body.isEmpty && r.headers.contains Headers.contentDigest
        then .rejected (some CurrentScheme.id) .digestWithoutBody
        else .accepted CurrentScheme.id c.id) := by
  have hlistable : ∀ name ∈ a.headers, Listable name := fun name hname =>
    .ofToken (htokens name hname)
  have hjudge : (Scheme.current s).judge (.whole now) tolerance _ _ c = _ := h.judge_attach hnames
  rw [checkTime_stamp ht hwritable hwindow, checkBody_stamp] at hjudge
  rw [h.verify_attach hmem hlistable hnames hlookup]
  -- the time is in order, so the digest alone decides
  split
  · next hstale =>
    rw [if_pos hstale] at hjudge
    exact Verifier.conclude_eq_rejected_iff.2 ⟨rfl, .inr ⟨c, rfl, hjudge⟩⟩
  · next hfresh =>
    rw [if_neg hfresh] at hjudge
    exact Verifier.conclude_eq_accepted_iff.2 ⟨c, rfl, hjudge, rfl, rfl⟩

/-- **What verification comes to when all the header fields of a request have been made.**  It
accepts, unless the request has no body but a digest of one. -/
theorem verify_createHeaders {env : Environment} {realm nonce : Option String}
    {names : List String} {lookup : String → Option Credential} {fields : List (String × String)}
    (hcreate : (env.createHeaders (some reg) r c CurrentScheme.id realm nonce names
      (some t)).value = .ok fields)
    (htokens : ∀ name ∈ names, Headers.IsToken name)
    (hnames : ∀ name ∈ names, Text.lower name ≠ "authorization")
    (hlookup : lookup c.id = some c) (ht : 0 ≤ t) (hbound : t < 9223372036854775808)
    (hwindow : Timestamp.distance now t ≤ tolerance) :
    ((Verifier.mk reg tolerance).verify (.whole now) lookup (r.withHeaders fields) none).outcome =
      .ok (if r.body.isEmpty && r.headers.contains Headers.contentDigest
        then .rejected (some CurrentScheme.id) .digestWithoutBody
        else .accepted CurrentScheme.id c.id) := by
  obtain ⟨s, a, key, text, signed, hmem, hid, rfl, hsigns, hrequest⟩ :=
    exists_signs_of_createHeaders hcreate
  rw [hrequest]
  exact hsigns.verify_stamp hmem htokens hnames (hid ▸ hlookup) ht
    (Timestamp.isWritable_of_lt ht hbound) hwindow

/-! A request that was signed long ago, with and without a body. -/

/-- What is left on it from then. -/
def staleRequest (body : Octets) : Request where
  method := "GET"
  host := "example.com"
  path := "/"
  query := ""
  headers := ⟨[(Headers.timestamp, "0"), (Headers.contentDigest, "x"),
    (Headers.authorization, "Basic eA==")]⟩
  body

def sampleEnvironment : Environment where
  vars := []
  clock := .whole 1432075982
  freshNonce := "d1954337"

def staleCredential : Credential where
  id := "a"
  secret := "QQ=="

def staleLookup (id : String) : Option Credential :=
  if id = staleCredential.id then some staleCredential else none

/-- What is made for the request with a body. -/
def resignedFields : List (String × String) :=
  [("X-Authorization-Timestamp", "1432075982"),
   ("X-Authorization-Content-SHA256", "RBNvo1WzZ4oRRq0W9+hknpT7T8If536DEMBg9hyq/4o="),
   ("Authorization", "acquia-http-hmac headers=\"x-authorization-CONTENT-sha256\",id=\"a\"," ++
     "nonce=\"n\",realm=\"r\",signature=\"8oot6KuXyuVA3EekBaZLIcgnmKJoOntrUB/Kn7iCZgk=\"," ++
     "version=\"2.0\"")]

theorem resigned_accepted :
    ((Verifier.mk sampleRegistry 900).verify (.whole 1432076000) staleLookup
      ((staleRequest [123, 125]).withHeaders resignedFields) none).outcome =
      .ok (.accepted "v2" "a") := by
  have hcreate : (sampleEnvironment.createHeaders (some sampleRegistry) (staleRequest [123, 125])
      staleCredential CurrentScheme.id (some "r") (some "n") ["x-authorization-CONTENT-sha256"]
      (some 1432075982)).value = .ok resignedFields := by
    decide +kernel
  have htoken : Headers.IsToken "x-authorization-CONTENT-sha256" :=
    ⟨by decide, List.all_eq_true.1 (by decide)⟩
  have hname : Text.lower "x-authorization-CONTENT-sha256" ≠ "authorization" := by decide +kernel
  exact verify_createHeaders hcreate (List.forall_mem_singleton.2 htoken)
    (List.forall_mem_singleton.2 hname) (by decide) (by decide) (by decide) (by decide)

/-- What is made for the request without one. -/
def bodilessFields : List (String × String) :=
  [("X-Authorization-Timestamp", "1432075982"),
   ("Authorization", "acquia-http-hmac id=\"a\",nonce=\"n\",realm=\"r\"," ++
     "signature=\"Lj5e4W8h0e0+6pPmCVJSFxQkpP9nyQETbQPRdWyOx/A=\",version=\"2.0\"")]

/-- **Not all header fields that are made for a request are accepted**: a digest that is on a
request without a body stays on it. -/
theorem not_forall_verify_createHeaders :
    ¬∀ (env : Environment) (reg : Registry) (r : Request) (c : Credential)
      (realm nonce : Option String) (names : List String) (t now tolerance : Int)
      (lookup : String → Option Credential) (fields : List (String × String)),
      (env.createHeaders (some reg) r c CurrentScheme.id realm nonce names (some t)).value =
        .ok fields →
      (∀ name ∈ names, Headers.IsToken name) →
      (∀ name ∈ names, Text.lower name ≠ "authorization") →
      lookup c.id = some c → 0 ≤ t → t < 9223372036854775808 →
      Timestamp.distance now t ≤ tolerance →
      ∃ version, ((Verifier.mk reg tolerance).verify (.whole now) lookup (r.withHeaders fields)
        none).outcome = .ok (.accepted version c.id) := by
  intro h
  have hcreate : (sampleEnvironment.createHeaders (some sampleRegistry) (staleRequest [])
      staleCredential CurrentScheme.id (some "r") (some "n") [] (some 1432075982)).value =
      .ok bodilessFields := by
    decide +kernel
  obtain ⟨version, haccepted⟩ := h _ _ _ _ _ _ _ _ 1432075982 900 staleLookup _ hcreate (by simp)
    (by simp) (by decide) (by decide) (by decide) (by decide)
  obtain ⟨s, a, key, text, signed, hmem, hid, hheaders, hsigns, hrequest⟩ :=
    exists_signs_of_createHeaders hcreate
  have hrejected : ((Verifier.mk sampleRegistry 900).verify (.whole 1432075982) staleLookup
      ((stamp (staleRequest []) 1432075982).attach signed.header) none).outcome =
      .ok (.rejected (some CurrentScheme.id) .digestWithoutBody) :=
    hsigns.verify_stamp hmem (by simp [hheaders]) (by simp [hheaders]) (by rw [hid]; decide)
      (by decide) (Timestamp.isWritable_of_lt (by decide) (by decide)) (by decide)
  rw [hrequest, hrejected] at haccepted
  exact absurd haccepted (by simp)

end CurrentScheme
end SignedHttp
