import SignedHttp.Proofs.Binary64
import SignedHttp.Proofs.Current.Header
import SignedHttp.Proofs.Headers
import SignedHttp.Proofs.Verification

/-!
# When verification comes to a verdict

Whatever a request says, verification should end in acceptance or in a rejection of one of the six
kinds.  Under a whole clock it does, but for one group of requests: those that come as far as the
time window of the second scheme (`Verifier.ReachesWindow`) with a timestamp whose number is too
large to be read, or to be told in the message of the rejection.

* `Timestamp.Judgeable`: the timestamps that are accepted or rejected.
* `Verifier.exists_verdict_iff`: verification comes to a verdict exactly when every timestamp that
  it reaches is one of them.

The timestamp is judged before the signature, so no secret is needed to make verification fail
this way.
-/

set_option autoImplicit false

namespace SignedHttp

/-! ## Timestamps -/

namespace Timestamp

/-- A numeral that can be read, of a moment within the window or of one whose distance and whose
tolerance a message can tell. -/
structure Judgeable (now tolerance : Int) (digits : List Char) : Prop where
  readable : digits.length ≤ 4300
  /-- The distance is rounded to a number, the tolerance is written in full. -/
  tellable : tolerance < distance now (moment digits) →
    distance now (moment digits) < Binary64.overflow ∧ isWritable tolerance = true

variable {now tolerance seconds : Int} {text : String}

theorem ofInt?_distance_eq_none_iff (now seconds : Int) :
    Binary64.ofInt? (distance now seconds) = none ↔ Binary64.overflow ≤ distance now seconds := by
  rw [Binary64.ofInt?_eq_none_iff, distance]
  omega

theorem checkWindow_ne_fault_iff :
    (∀ fault, checkWindow (.whole now) tolerance seconds ≠ .error (.fault fault)) ↔
      (tolerance < distance now seconds →
        distance now seconds < Binary64.overflow ∧ isWritable tolerance = true) := by
  have hnone := ofInt?_distance_eq_none_iff now seconds
  constructor
  · intro h hbeyond
    have hlt : ¬Binary64.overflow ≤ distance now seconds := fun hle =>
      h _ (checkWindow_eq_fault_iff.2 ⟨hbeyond, .inl ⟨hnone.2 hle, rfl⟩⟩)
    refine ⟨Int.not_le.1 hlt, ?_⟩
    rw [← Bool.not_eq_false]
    intro hwritable
    exact h _ (checkWindow_eq_fault_iff.2 ⟨hbeyond, .inr ⟨mt hnone.1 hlt, hwritable, rfl⟩⟩)
  · intro h fault hfault
    obtain ⟨hbeyond, hcause⟩ := checkWindow_eq_fault_iff.1 hfault
    obtain ⟨hlt, hwritable⟩ := h hbeyond
    rcases hcause with ⟨hoverflow, -⟩ | ⟨-, hunwritable, -⟩
    · exact absurd (hnone.1 hoverflow) (Int.not_le.2 hlt)
    · exact absurd (hwritable.symm.trans hunwritable) (by simp)

/-- **A timestamp is judged exactly when it is judgeable**, or no numeral at all. -/
theorem check_ne_fault_iff :
    (∀ fault, check (.whole now) tolerance (.text text) ≠ .error (.fault fault)) ↔
      ∀ digits, digits? text = some digits → Judgeable now tolerance digits := by
  constructor
  · intro h digits hdigits
    have hlength : digits.length ≤ digitLimit := Nat.not_lt.1 fun hlt =>
      h _ (check_eq_fault_iff.2 ⟨digits, hdigits, .inl ⟨hlt, rfl⟩⟩)
    have hwindow (fault : NumericFault) :
        checkWindow (.whole now) tolerance (moment digits) ≠ .error (.fault fault) := fun hfault =>
      h _ (check_eq_fault_iff.2 ⟨digits, hdigits, .inr ⟨hlength, hfault⟩⟩)
    exact ⟨hlength, checkWindow_ne_fault_iff.1 hwindow⟩
  · intro h fault hfault
    obtain ⟨digits, hdigits, ⟨hlength, -⟩ | ⟨-, hwindow⟩⟩ := check_eq_fault_iff.1 hfault
    · exact absurd (h digits hdigits).readable (Nat.not_le.2 hlength)
    · exact checkWindow_ne_fault_iff.2 (h digits hdigits).tellable fault hwindow

/-- Within the window a judgeable timestamp is accepted. -/
theorem Judgeable.check_eq_ok {digits : List Char} (h : Judgeable now tolerance digits)
    (hdigits : digits? text = some digits) (hwithin : distance now (moment digits) ≤ tolerance) :
    check (.whole now) tolerance (.text text) = .ok (moment digits) :=
  check_eq_ok_iff.2 ⟨digits, hdigits, h.readable, rfl, hwithin⟩

/-- Outside the window it is rejected. -/
theorem Judgeable.check_eq_rejected {digits : List Char} {rounded : Binary64}
    (h : Judgeable now tolerance digits) (hdigits : digits? text = some digits)
    (hbeyond : tolerance < distance now (moment digits))
    (hrounded : Binary64.ofInt? (distance now (moment digits)) = some rounded) :
    check (.whole now) tolerance (.text text) =
      .error (.rejected (.outsideWindow (side now (moment digits)) rounded tolerance)) :=
  check_eq_rejected_iff.2 (.inr ⟨digits, hdigits, h.readable,
    checkWindow_eq_rejected_iff.2 ⟨hbeyond, (h.tellable hbeyond).2, rounded, hrounded, rfl⟩⟩)

end Timestamp

/-! ## Requests -/

namespace Verifier

variable {v : Verifier} {now : Int} {lookup : String → Option Credential} {r : Request}

/-- The pass comes to the time window: every check before it succeeds. -/
structure ReachesWindow (v : Verifier) (lookup : String → Option Credential) (r : Request)
    (text : String) (s : CurrentScheme) (a : Authorization) (c : Credential) : Prop where
  scheme : .current s ∈ v.registry.schemes
  identifies : (Scheme.current s).identifies text = true
  parse : s.parse text = .ok a
  required : ∀ name ∈ CurrentScheme.requiredHeaders r a, r.headers.contains name = true
  credential : lookup a.id = some c
  key : ∃ key, CurrentScheme.key c = .ok key

/-- The timestamp is among the required header fields. -/
theorem ReachesWindow.exists_declared {text : String} {s : CurrentScheme} {a : Authorization}
    {c : Credential} (h : ReachesWindow v lookup r text s a c) :
    ∃ declared, r.headers.get? Headers.timestamp = some declared :=
  Option.isSome_iff_exists.1 (h.required Headers.timestamp List.mem_cons_self)

/-- What goes wrong with the numbers goes wrong with the timestamp of a request that reaches the
time window. -/
theorem verifyValue_eq_fault_iff_check {value : Option String} {fault : NumericFault} :
    (v.verifyValue (.whole now) lookup r value).outcome = .error fault ↔
      ∃ text s a c declared, value = some text ∧ ReachesWindow v lookup r text s a c ∧
        r.headers.get? Headers.timestamp = some declared ∧
        Timestamp.check (.whole now) v.tolerance (.text declared) = .error (.fault fault) := by
  rw [verifyValue_eq_fault_iff]
  constructor
  · rintro ⟨text, s, a, c, rfl, hscheme, hauthorize, hlookup, hjudge⟩
    obtain ⟨hmem, hidentifies⟩ := Registry.schemeOf?_eq_some_iff.1 hscheme
    obtain ⟨hparse, hrequired⟩ := Scheme.authorize_eq_ok_iff.1 hauthorize
    obtain ⟨hkey, htime⟩ := Scheme.judge_eq_fault_iff.1 hjudge
    cases s with
    | legacy s =>
      rw [Scheme.checkTime_legacy] at htime
      exact absurd htime (by simp)
    | current s =>
      have hreaches : ReachesWindow v lookup r text s a c :=
        ⟨hmem, hidentifies, hparse, hrequired, hlookup, hkey⟩
      obtain ⟨declared, hdeclared⟩ := hreaches.exists_declared
      exact ⟨text, s, a, c, declared, rfl, hreaches, hdeclared,
        (Scheme.checkTime_current_eq_error_iff hdeclared).1 htime⟩
  · rintro ⟨text, s, a, c, declared, rfl, hreaches, hdeclared, hcheck⟩
    exact ⟨text, .current s, a, c, rfl,
      Registry.schemeOf?_eq_some_iff.2 ⟨hreaches.scheme, hreaches.identifies⟩,
      Scheme.authorize_eq_ok_iff.2 ⟨hreaches.parse, hreaches.required⟩, hreaches.credential,
      Scheme.judge_eq_fault_iff.2
        ⟨hreaches.key, (Scheme.checkTime_current_eq_error_iff hdeclared).2 hcheck⟩⟩

/-- **Verification comes to a verdict exactly when every timestamp that it reaches is judgeable.**
A verdict that is no acceptance has an error of one of the six kinds. -/
theorem exists_verdict_iff {value : Option String} :
    (∃ verdict, (v.verify (.whole now) lookup r value).outcome = .ok verdict) ↔
      ∀ text s a c declared digits, value.or (r.headers.get? Headers.authorization) = some text →
        ReachesWindow v lookup r text s a c →
        r.headers.get? Headers.timestamp = some declared →
        Timestamp.digits? declared = some digits →
        Timestamp.Judgeable now v.tolerance digits := by
  constructor
  · rintro ⟨verdict, hverdict⟩ text s a c declared digits hvalue hreaches hdeclared hdigits
    refine Timestamp.check_ne_fault_iff.1 (fun fault hcheck => ?_) digits hdigits
    have hfault := verifyValue_eq_fault_iff_check.2
      ⟨text, s, a, c, declared, hvalue, hreaches, hdeclared, hcheck⟩
    rw [verify, hfault] at hverdict
    exact absurd hverdict (by simp)
  · intro h
    rw [verify]
    cases houtcome : (v.verifyValue (.whole now) lookup r
        (value.or (r.headers.get? Headers.authorization))).outcome with
    | ok verdict => exact ⟨verdict, rfl⟩
    | error fault =>
      obtain ⟨text, s, a, c, declared, hvalue, hreaches, hdeclared, hcheck⟩ :=
        verifyValue_eq_fault_iff_check.1 houtcome
      have hjudgeable := h text s a c declared
      exact absurd hcheck (Timestamp.check_ne_fault_iff.2
        (fun digits hdigits => hjudgeable digits hvalue hreaches hdeclared hdigits) fault)

/-! A run of zeros denotes the beginning of 1970, however long it is.  One of 4301 is not read. -/

theorem digits?_zeros (n : Nat) :
    Timestamp.digits? (String.ofList (List.replicate (n + 1) '0')) =
      some (List.replicate (n + 1) '0') := by
  refine Timestamp.digits?_eq_some_iff.2 (Timestamp.isNumeral_ofList (by simp) fun c hc => ?_)
  rw [List.eq_of_mem_replicate hc]
  rfl

def zerosVerifier : Verifier where
  registry := .pair ⟨.sha1, []⟩ ⟨.sha256, []⟩
  tolerance := 900

def zerosRequest : Request where
  method := "GET"
  host := "example.com"
  path := "/"
  query := ""
  headers := ⟨[(Headers.timestamp, String.ofList (List.replicate 4301 '0'))]⟩
  body := []

def zerosAuthorization : Authorization where
  id := "a"
  realm := ""
  nonce := "n"
  version := "2.0"
  headers := []
  signature := "x"

def zerosLookup (_ : String) : Option Credential := some ⟨"a", "QQ=="⟩

theorem zeros_reachesWindow :
    ReachesWindow zerosVerifier zerosLookup zerosRequest
      "acquia-http-hmac id=\"a\",nonce=\"n\",signature=\"x\",version=\"2.0\"" ⟨.sha256, []⟩
      zerosAuthorization ⟨"a", "QQ=="⟩ where
  scheme := List.mem_cons_of_mem _ List.mem_cons_self
  identifies := by decide
  parse := CurrentScheme.parse_eq_ok_iff.2 (by decide)
  required := by decide
  credential := rfl
  key := ⟨[65], by decide⟩

theorem not_forall_exists_verdict :
    ¬∀ (v : Verifier) (now : Int) (lookup : String → Option Credential) (r : Request)
      (value : Option String), ∃ verdict,
        (v.verify (.whole now) lookup r value).outcome = .ok verdict := by
  intro h
  obtain ⟨verdict, hverdict⟩ := h zerosVerifier 1432075982 zerosLookup zerosRequest
    (some "acquia-http-hmac id=\"a\",nonce=\"n\",signature=\"x\",version=\"2.0\"")
  have hlength : (List.replicate 4301 '0').length = 4301 := List.length_replicate
  have hcheck : Timestamp.check (.whole 1432075982) 900
      (.text (String.ofList (List.replicate 4301 '0'))) =
        .error (.fault (.tooManyDigits (some 4301))) :=
    Timestamp.check_eq_fault_iff.2 ⟨_, digits?_zeros 4300, .inl ⟨by rw [hlength]; decide, by
      rw [hlength]⟩⟩
  have hdeclared : zerosRequest.headers.get? Headers.timestamp =
      some (String.ofList (List.replicate 4301 '0')) := Headers.get?_singleton
  have hfault := verifyValue_eq_fault_iff_check.2
    ⟨_, _, _, _, _, rfl, zeros_reachesWindow, hdeclared, hcheck⟩
  rw [verify, Option.some_or, hfault] at hverdict
  exact absurd hverdict (by simp)

end Verifier
end SignedHttp
