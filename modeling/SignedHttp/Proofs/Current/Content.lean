import Mathlib.Logic.Relation
import SignedHttp.Proofs.Current.Agreement

/-!
# What verification looks at

Under the second scheme nothing in a request is looked at as it was written, apart from the body and
the first values of a few header fields.  So requests with the same content cannot be told apart,
neither by a verdict nor by the wording of a rejection.

* `CurrentScheme.Watched`: the header fields that an Authorization value makes verification look at.
* `CurrentScheme.SameContent`: two requests that agree in what is looked at.
* `CurrentScheme.Respelled`: the single changes that leave the content as it is: the letter case and
  the order of header fields, repeated and unsigned ones, a slash at the end of the path, the order
  and the escapes of the query.
* `CurrentScheme.verify_agrees`: verification comes to the same on two requests with the same
  content, and so it does after any number of such changes.
-/

set_option autoImplicit false

namespace SignedHttp
namespace CurrentScheme

/-- The names of the header fields that verification looks at: three of its own, and those that the
Authorization value lists. -/
def Watched (reg : Registry) (value name : String) : Prop :=
  name ∈ [Headers.timestamp, Headers.contentDigest, Headers.contentType] ∨
    ∃ s a, .current s ∈ reg.schemes ∧ s.parse value = .ok a ∧ name ∈ a.headers

/-- Two requests that agree in everything that is looked at. -/
structure SameContent (watched : String → Prop) (r r' : Request) : Prop where
  method : Text.upper r.method = Text.upper r'.method
  host : Text.lower r.host = Text.lower r'.host
  path : normalizePath r.path = normalizePath r'.path
  query : (Query.pairs r.query).Perm (Query.pairs r'.query)
  body : r.body = r'.body
  headers : ∀ name, watched name → r.headers.get? name = r'.headers.get? name

variable {watched : String → Prop} {r r' r'' : Request}

namespace SameContent

theorem refl (r : Request) : SameContent watched r r :=
  ⟨rfl, rfl, rfl, .refl _, rfl, fun _ _ => rfl⟩

theorem symm (h : SameContent watched r r') : SameContent watched r' r where
  method := h.method.symm
  host := h.host.symm
  path := h.path.symm
  query := h.query.symm
  body := h.body.symm
  headers := fun name hname => (h.headers name hname).symm

theorem trans (h : SameContent watched r r') (h' : SameContent watched r' r'') :
    SameContent watched r r'' where
  method := h.method.trans h'.method
  host := h.host.trans h'.host
  path := h.path.trans h'.path
  query := h.query.trans h'.query
  body := h.body.trans h'.body
  headers := fun name hname => (h.headers name hname).trans (h'.headers name hname)

/-! ## The checks -/

variable {reg : Registry} {value : String} {s : CurrentScheme} {a : Authorization}
  {c : Credential} {clock : Clock} {tolerance : Int}

theorem timestamp (h : SameContent (Watched reg value) r r') :
    r.headers.get? Headers.timestamp = r'.headers.get? Headers.timestamp :=
  h.headers _ (.inl (by simp))

theorem contentDigest (h : SameContent (Watched reg value) r r') :
    r.headers.get? Headers.contentDigest = r'.headers.get? Headers.contentDigest :=
  h.headers _ (.inl (by simp))

theorem contentType (h : SameContent (Watched reg value) r r') :
    r.headers.get? Headers.contentType = r'.headers.get? Headers.contentType :=
  h.headers _ (.inl (by simp))

theorem signed (h : SameContent (Watched reg value) r r') (hmem : .current s ∈ reg.schemes)
    (hparse : s.parse value = .ok a) :
    ∀ name ∈ a.headers, r.headers.get? name = r'.headers.get? name :=
  fun name hname => h.headers name (.inr ⟨s, a, hmem, hparse, hname⟩)

/-- **Requests with the same content are the same message** under the parameters of the value. -/
theorem sameMessage (h : SameContent (Watched reg value) r r') (hmem : .current s ∈ reg.schemes)
    (hparse : s.parse value = .ok a) : SameMessage r a r' a where
  method := h.method
  host := h.host
  path := h.path
  query := Query.normalize_eq_of_perm h.query
  id := rfl
  nonce := rfl
  realm := rfl
  version := rfl
  fields := List.map_congr_left fun name hname => by rw [h.signed hmem hparse name hname]
  timestamp := h.timestamp
  body := by rw [h.body]
  contentType := fun _ => by rw [Headers.getD, Headers.getD, h.contentType]
  contentDigest := fun _ => h.contentDigest

/-- The same header fields are missing. -/
theorem missing_eq (h : SameContent (Watched reg value) r r') (hmem : .current s ∈ reg.schemes)
    (hparse : s.parse value = .ok a) :
    (Scheme.current s).missing r a = (Scheme.current s).missing r' a := by
  have hrequired : requiredHeaders r a = requiredHeaders r' a := by
    rw [requiredHeaders, requiredHeaders, h.body]
  have hget : ∀ name ∈ requiredHeaders r' a, r.headers.get? name = r'.headers.get? name :=
    forall_mem_requiredHeaders.2
      ⟨h.timestamp, fun _ => h.contentDigest, h.signed hmem hparse⟩
  change (requiredHeaders r a).filter _ = (requiredHeaders r' a).filter _
  rw [hrequired]
  refine List.filter_congr fun name hname => ?_
  rw [Headers.contains, Headers.contains, hget name hname]

theorem authorize_eq (h : SameContent (Watched reg value) r r') (hmem : .current s ∈ reg.schemes) :
    (Scheme.current s).authorize r value = (Scheme.current s).authorize r' value := by
  have hequation (q : Request) : (Scheme.current s).authorize q value = s.parse value >>= fun a =>
      if ((Scheme.current s).missing q a).isEmpty then pure a
      else .error (.missingHeaders ((Scheme.current s).missing q a)) :=
    rfl
  rw [hequation, hequation]
  cases hparse : s.parse value with
  | error error => rfl
  | ok a =>
    change ite _ _ _ = ite _ _ _
    rw [h.missing_eq hmem hparse]

theorem checkTime_eq (h : SameContent (Watched reg value) r r') :
    (Scheme.current s).checkTime clock tolerance r =
      (Scheme.current s).checkTime clock tolerance r' := by
  rw [Scheme.checkTime, Scheme.checkTime, h.timestamp]

theorem checkBody_eq (h : SameContent (Watched reg value) r r') :
    (Scheme.current s).checkBody r = (Scheme.current s).checkBody r' :=
  Scheme.checkBody_congr h.body h.contentDigest

/-- Behind the credential there is a text to sign for both requests, and it is the same one. -/
theorem judge_eq (h : SameContent (Watched reg value) r r') (hmem : .current s ∈ reg.schemes)
    (hauthorize : (Scheme.current s).authorize r value = .ok a) :
    (Scheme.current s).judge clock tolerance r a c =
      (Scheme.current s).judge clock tolerance r' a c := by
  obtain ⟨hparse, hrequired⟩ := Scheme.authorize_eq_ok_iff.1 hauthorize
  have htext : signedText r a = .ok _ := signedText_eq_ok_iff.2 ⟨hrequired, rfl⟩
  have htexts : (Scheme.current s).signedText r a = (Scheme.current s).signedText r' a :=
    htext.trans ((h.sameMessage hmem hparse).signedText_eq htext).symm
  have hsignature (key : Octets) : (Scheme.current s).checkSignature r a key =
      (Scheme.current s).checkSignature r' a key := by
    rw [Scheme.checkSignature, Scheme.checkSignature, htexts]
  rw [Scheme.judge, Scheme.judge, h.checkTime_eq, h.checkBody_eq]
  simp only [hsignature]

/-- **Verification comes to the same on requests with the same content.** -/
theorem verifyValue_agrees {v : Verifier} {lookup : String → Option Credential}
    (hvalue : Token.begins token value = true)
    (h : SameContent (Watched v.registry value) r r') :
    (v.verifyValue clock lookup r (some value)).Agrees
      (v.verifyValue clock lookup r' (some value)) := by
  have hcurrent {s : Scheme} (hscheme : v.registry.schemeOf? (some value) = some s) :
      ∃ scheme, s = .current scheme ∧ .current scheme ∈ v.registry.schemes := by
    obtain ⟨hmem, hidentifies⟩ := Registry.schemeOf?_eq_some_iff.1 hscheme
    have hid : s.id = CurrentScheme.id :=
      Registry.id_eq_of_identifies (t := .current ⟨.sha256, []⟩) hidentifies hvalue
    exact Registry.exists_of_find?_current (Registry.find?_eq_some_iff.2 ⟨hmem, hid⟩)
  refine Verifier.verifyValue_agrees ?_ ?_
  · rintro text s ⟨⟩ hscheme
    obtain ⟨scheme, rfl, hmem⟩ := hcurrent hscheme
    exact h.authorize_eq hmem
  · rintro text s a c ⟨⟩ hscheme hauthorize -
    obtain ⟨scheme, rfl, hmem⟩ := hcurrent hscheme
    exact h.judge_eq hmem hauthorize

end SameContent

/-! ## Ways to write one request -/

/-- A change to a request that leaves its content as it is. -/
inductive Respelled (watched : String → Prop) (r : Request) : Request → Prop
  /-- The name of a header field in another letter case. -/
  | recased {front back : List (String × String)} {name name' value : String}
      (hitems : r.headers.items = front ++ (name, value) :: back)
      (hname : Headers.sameName name name' = true) :
      Respelled watched r { r with headers := ⟨front ++ (name', value) :: back⟩ }
  /-- Two neighbouring header fields of different names in the other order. -/
  | reordered {front back : List (String × String)} {p q : String × String}
      (hitems : r.headers.items = front ++ p :: q :: back)
      (hname : Headers.sameName p.1 q.1 = false) :
      Respelled watched r { r with headers := ⟨front ++ q :: p :: back⟩ }
  /-- A later value of a header field left out. -/
  | repeated {front back : List (String × String)} {name value : String}
      (hitems : r.headers.items = front ++ (name, value) :: back)
      (hfirst : ∃ p ∈ front, Headers.sameName p.1 name = true) :
      Respelled watched r { r with headers := ⟨front ++ back⟩ }
  /-- A header field that is not looked at left out. -/
  | unsigned {front back : List (String × String)} {name value : String}
      (hitems : r.headers.items = front ++ (name, value) :: back)
      (hname : ∀ m, watched m → Headers.sameName name m = false) :
      Respelled watched r { r with headers := ⟨front ++ back⟩ }
  /-- A slash after the path. -/
  | slash : Respelled watched r { r with path := r.path ++ "/" }
  /-- A query with the same pairs, in whatever order and with whatever escapes. -/
  | query {query : String} (hpairs : (Query.pairs r.query).Perm (Query.pairs query)) :
      Respelled watched r { r with query }

theorem normalizePath_slash (path : String) : normalizePath (path ++ "/") = normalizePath path := by
  have hdrop : (path ++ "/").toList.reverse.dropWhile (· == '/') =
      path.toList.reverse.dropWhile (· == '/') := by
    rw [String.toList_append, List.reverse_append]
    rfl
  rw [normalizePath, normalizePath, hdrop]

theorem SameContent.of_headers {headers : Headers}
    (h : ∀ name, watched name → r.headers.get? name = headers.get? name) :
    SameContent watched r { r with headers } :=
  ⟨rfl, rfl, rfl, .refl _, rfl, h⟩

/-- **Each of these changes leaves the content as it is.** -/
theorem Respelled.sameContent (h : Respelled watched r r') : SameContent watched r r' := by
  have hheaders {items : List (String × String)} (hitems : r.headers.items = items) :
      r.headers = ⟨items⟩ := hitems ▸ rfl
  cases h with
  | recased hitems hname =>
    refine .of_headers fun m _ => ?_
    rw [hheaders hitems, Headers.get?_append, Headers.get?_append, Headers.get?_cons,
      Headers.get?_cons, Headers.sameName_eq_of_sameName hname]
  | @reordered front back p q hitems hname =>
    refine .of_headers fun m _ => ?_
    rw [hheaders hitems, Headers.get?_append, Headers.get?_append, Headers.get?_cons,
      Headers.get?_cons, Headers.get?_cons, Headers.get?_cons]
    congr 1
    by_cases hp : Headers.sameName p.1 m = true
    · -- then the other field has another name
      have hq : Headers.sameName q.1 m = false := by
        rw [← Bool.not_eq_true, Headers.sameName_iff, ← Headers.sameName_iff.1 hp]
        intro hlower
        exact absurd (Headers.sameName_iff.2 hlower.symm) (by simp [hname])
      simp [hp, hq]
    · simp [hp]
  | @repeated front back name value hitems hfirst =>
    refine .of_headers fun m _ => ?_
    rw [hheaders hitems, Headers.get?_append, Headers.get?_append, Headers.get?_cons]
    split
    · next hm =>
      -- the first value stands in front
      obtain ⟨p, hp, hname⟩ := hfirst
      obtain ⟨first, hfirst⟩ := Headers.exists_get?_eq_some
        ⟨p, hp, (Headers.sameName_eq_of_sameName hname m).trans hm⟩
      rw [hfirst, Option.some_or, Option.some_or]
    · rfl
  | unsigned hitems hname =>
    refine .of_headers fun m hm => ?_
    rw [hheaders hitems, Headers.get?_append, Headers.get?_append, Headers.get?_cons,
      if_neg (by simp [hname m hm])]
  | slash => exact ⟨rfl, rfl, (normalizePath_slash r.path).symm, .refl _, rfl, fun _ _ => rfl⟩
  | query hpairs => exact ⟨rfl, rfl, rfl, hpairs, rfl, fun _ _ => rfl⟩

/-- Changes in any number, made or undone, leave it as it is too. -/
theorem sameContent_of_eqvGen (h : Relation.EqvGen (Respelled watched) r r') :
    SameContent watched r r' := by
  induction h with
  | rel _ _ h => exact h.sameContent
  | refl r => exact .refl r
  | symm _ _ _ ih => exact ih.symm
  | trans _ _ _ _ _ ih ih' => exact ih.trans ih'

/-- **Verification depends on the content of a request and on nothing else in it.**  It comes to the
same on two requests with the same content, and so it does however a request is respelled. -/
theorem verify_agrees {v : Verifier} {clock : Clock} {lookup : String → Option Credential}
    {value : String} (hvalue : Token.begins token value = true) :
    (∀ r r', SameContent (Watched v.registry value) r r' →
      (v.verify clock lookup r (some value)).Agrees (v.verify clock lookup r' (some value))) ∧
    ∀ r r', Relation.EqvGen (Respelled (Watched v.registry value)) r r' →
      (v.verify clock lookup r (some value)).Agrees (v.verify clock lookup r' (some value)) := by
  have hagrees (r r' : Request) (h : SameContent (Watched v.registry value) r r') :
      (v.verify clock lookup r (some value)).Agrees (v.verify clock lookup r' (some value)) :=
    h.verifyValue_agrees hvalue
  exact ⟨hagrees, fun r r' h => hagrees r r' (sameContent_of_eqvGen h)⟩

/-! One request in two spellings: hardly a character of the second one stands where it stands in the
first one. -/

def orderlyRequest : Request := { sampleRequest with query := "a=%7E&b=1+2" }

def unrulyRequest : Request where
  method := "post"
  host := "EXAMPLE.com"
  path := "/items//"
  query := "&b=1%202&%61=~"
  headers := ⟨[("Accept", "*/*"), ("x-custom", "a:b"), ("CONTENT-TYPE", "application/json"),
    ("x-authorization-timestamp", "1432075982"), ("X-Custom", "later"),
    ("X-Authorization-Content-SHA256", "RBNvo1WzZ4oRRq0W9+hknpT7T8If536DEMBg9hyq/4o=")]⟩
  body := [123, 125]

def listingValue : String :=
  "Acquia-HTTP-HMAC headers=\"X-Custom\",id=\"efdde334\",nonce=\"n\",signature=\"x\"," ++
    "version=\"2.0\""

theorem unruly_sameContent :
    SameContent (Watched sampleRegistry listingValue) orderlyRequest unrulyRequest where
  method := by decide
  host := by decide
  path := by decide
  query := by
    have hpairs : Query.pairs orderlyRequest.query = [("a", "~"), ("b", "1 2")] := by decide
    have hpairs' : Query.pairs unrulyRequest.query = [("b", "1 2"), ("a", "~")] := by decide
    rw [hpairs, hpairs']
    exact .swap _ _ _
  body := rfl
  headers := by
    have hget : ∀ name ∈ ["X-Custom", Headers.timestamp, Headers.contentDigest,
        Headers.contentType],
        orderlyRequest.headers.get? name = unrulyRequest.headers.get? name := by
      decide
    rintro name (hname | ⟨s, a, -, hparse, hname⟩)
    · exact hget name (List.mem_cons_of_mem _ hname)
    · obtain ⟨-, rfl, -⟩ := parse_eq_ok_iff.1 hparse
      have hnames : (ofFields (Fields.scan (Token.credentials listingValue))).headers =
          ["X-Custom"] := by
        decide
      rw [hnames, List.mem_singleton] at hname
      exact hget name (hname ▸ List.mem_cons_self)

theorem unruly_agrees :
    Token.begins token listingValue = true ∧
    (Verifier.verify ⟨sampleRegistry, 900⟩ (.whole 1432075982) sampleLookup orderlyRequest
      (some listingValue)).Agrees
      (Verifier.verify ⟨sampleRegistry, 900⟩ (.whole 1432075982) sampleLookup unrulyRequest
        (some listingValue)) := by
  have hvalue : Token.begins token listingValue = true := by decide +kernel
  exact ⟨hvalue, (verify_agrees hvalue).1 _ _ unruly_sameContent⟩

end CurrentScheme
end SignedHttp
