import SignedHttp.Gateway
import SignedHttp.Proofs.Checks
import SignedHttp.Proofs.Headers

/-!
# The host of a request and its Host header

A request for a URL takes its host from the Host header, and from the URL where there is none.  A
gateway takes the host from the header, too.  But the two are set apart: header fields that are set
afterwards replace the header and leave the host, which is what is signed.

* `Request.withChanges`: any number of changes, one after the other.
* `Request.host_eq_iff`: the host is still that of the header just when no change set another one.
-/

set_option autoImplicit false

namespace SignedHttp
namespace Request

variable {r : Request} {changes : List (List (String × String))}

/-- A request with some header fields set, then some others, and so on. -/
def withChanges (r : Request) (changes : List (List (String × String))) : Request :=
  changes.foldl withHeaders r

/-- Changes one after the other are one change. -/
theorem withChanges_eq : r.withChanges changes = r.withHeaders changes.flatten := by
  induction changes generalizing r with
  | nil => rfl
  | cons fields changes ih =>
    have hstep : r.withChanges (fields :: changes) = (r.withHeaders fields).withChanges changes :=
      rfl
    rw [hstep, ih, List.flatten_cons, withHeaders_append]

/-- No change reaches the host. -/
theorem host_withChanges : (r.withChanges changes).host = r.host := by
  rw [withChanges_eq]
  rfl

theorem get?_withChanges (name : String) :
    (r.withChanges changes).headers.get? name =
      (Headers.lastSet changes.flatten name).or (r.headers.get? name) := by
  rw [withChanges_eq]
  exact Headers.get?_setAll r.headers changes.flatten name

/-- The host of a request for a URL. -/
theorem ofUrl_host {method url : String} {headers : Headers} {body : Octets}
    (h : ofUrl method url headers body = .ok r) :
    r.headers = headers ∧ ∃ parts, Url.split url = .ok parts ∧
      r.host = if headers.getD Headers.host "" = "" then
        String.ofList (Url.hostPort parts.authority.toList) else headers.getD Headers.host "" := by
  obtain ⟨parts, hparts, h⟩ := bind_eq_ok_iff.1 h
  obtain rfl := Except.ok.inj h
  refine ⟨rfl, parts, hparts, ?_⟩
  simp only [String.isEmpty_iff]

/-- A header with a value gives the host. -/
theorem host_of_get? {method url : String} {headers : Headers} {body : Octets}
    (h : ofUrl method url headers body = .ok r) {given : String}
    (hgiven : r.headers.get? Headers.host = some given) (hne : given ≠ "") : r.host = given := by
  obtain ⟨hheaders, parts, -, hhost⟩ := ofUrl_host h
  have hvalue : headers.getD Headers.host "" = given := by
    rw [← hheaders, Headers.getD, hgiven, Option.getD_some]
  rw [hhost, hvalue, if_neg hne]

end Request

/-- A gateway takes the host from the header. -/
theorem Gateway.host_request {event : Gateway.Event} {e : Gateway.EventRequest}
    (h : Gateway.request event = .ok e) :
    e.request.host = e.request.headers.getD Headers.host "" := by
  obtain ⟨headers, -, h⟩ := bind_eq_ok_iff.1 h
  obtain ⟨body, -, h⟩ := bind_eq_ok_iff.1 h
  obtain ⟨query, -, h⟩ := bind_eq_ok_iff.1 h
  obtain ⟨method, -, h⟩ := bind_eq_ok_iff.1 h
  obtain rfl := Except.ok.inj h
  rfl

/-- **When the host is still that of the header.**  After any number of changes to its header fields
a request for a URL has the host of its Host header just when no change set this header, or the last
that did set it to the host that the request had from the beginning.  This is also when a gateway
that is handed the same header makes the same host of it. -/
theorem Request.host_eq_iff {method url : String} {headers : Headers} {body : Octets} {r : Request}
    (h : ofUrl method url headers body = .ok r) (changes : List (List (String × String)))
    {given : String} (hgiven : (r.withChanges changes).headers.get? Headers.host = some given)
    (hne : given ≠ "") :
    ((r.withChanges changes).host = given ↔
      ∀ value ∈ Headers.lastSet changes.flatten Headers.host, value = r.host) ∧
    ∀ event e, Gateway.request event = .ok e →
      e.request.headers.get? Headers.host = (r.withChanges changes).headers.get? Headers.host →
        e.request.host = given ∧
          ((r.withChanges changes).host = e.request.host ↔
            ∀ value ∈ Headers.lastSet changes.flatten Headers.host, value = r.host) := by
  have hiff : (r.withChanges changes).host = given ↔
      ∀ value ∈ Headers.lastSet changes.flatten Headers.host, value = r.host := by
    rw [get?_withChanges] at hgiven
    rw [host_withChanges]
    cases hlast : Headers.lastSet changes.flatten Headers.host with
    | none =>
      rw [hlast, Option.none_or] at hgiven
      simp [host_of_get? h hgiven hne]
    | some value =>
      rw [hlast, Option.some_or, Option.some.injEq] at hgiven
      simp [hgiven, eq_comm]
  refine ⟨hiff, fun event e he hsame => ?_⟩
  have hhost : e.request.host = given := by
    rw [Gateway.host_request he, Headers.getD, hsame, hgiven, Option.getD_some]
  exact ⟨hhost, by rw [hhost, hiff]⟩

/-! Setting the header to the host that is there already does no harm, in whatever letter case its
name is. -/

def plainRequest : Request where
  method := "GET"
  host := "a.example"
  path := "/"
  query := ""
  headers := .empty
  body := []

theorem ofUrl_plain : Request.ofUrl "GET" "http://a.example/" .empty [] = .ok plainRequest :=
  rfl

def sameHostChanges : List (List (String × String)) :=
  [[("Accept", "*/*")], [("host", "a.example")]]

theorem Request.same_host_set :
    (plainRequest.withChanges sameHostChanges).headers.get? Headers.host = some "a.example" ∧
      (plainRequest.withChanges sameHostChanges).host = "a.example" := by
  have hgiven : (plainRequest.withChanges sameHostChanges).headers.get? Headers.host =
      some "a.example" := by decide +kernel
  have hlast : Headers.lastSet sameHostChanges.flatten Headers.host = some "a.example" := by
    decide +kernel
  refine ⟨hgiven, (host_eq_iff ofUrl_plain _ hgiven (by decide)).1.2 fun value hvalue => ?_⟩
  exact (Option.some.inj (hlast.symm.trans hvalue)).symm

/-! Setting it to another host leaves the host as it is. -/

theorem Request.not_forall_host_eq :
    ¬∀ (method url : String) (headers : Headers) (body : Octets) (r : Request)
      (changes : List (List (String × String))) (given : String),
      ofUrl method url headers body = .ok r →
        (r.withChanges changes).headers.get? Headers.host = some given → given ≠ "" →
          (r.withChanges changes).host = given := by
  intro h
  have hhost := h "GET" "http://a.example/" .empty [] plainRequest [[("Host", "b.example")]]
    "b.example" ofUrl_plain (by decide +kernel) (by decide)
  exact absurd hhost (by decide)

end SignedHttp
