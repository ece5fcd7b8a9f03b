import SignedHttp.Message
import SignedHttp.Proofs.Text

/-!
# Header fields that are set

`Headers.getAll_set` describes a change by all the values of a name.  Most of the code looks at the
first value only: `Headers.get?_set` is the same description for it, and `Request.get?_attach` says
that a request to which an Authorization value is attached keeps everything else.  Two requests that
differ in no other way are `Request.Alike`.

Of several fields that are set at once `Headers.getAll_setAll` says which values a name has then, and
`Headers.items_setAll` where they go.  To set them again makes no difference
(`Headers.setAll_setAll`).  The names that the grammar of HTTP allows are `Headers.IsToken`.
-/

set_option autoImplicit false

namespace SignedHttp
namespace Headers

theorem get?_set (h : Headers) (name value m : String) :
    (h.set name value).get? m = if sameName name m then some value else h.get? m := by
  rw [get?_eq_head?_getAll, getAll_set]
  split
  · rfl
  · rw [get?_eq_head?_getAll]

theorem get?_set_self (h : Headers) (name value : String) :
    (h.set name value).get? name = some value := by
  rw [get?_set, if_pos (sameName_iff.2 rfl)]

theorem get?_set_of_ne {name m : String} (hne : sameName name m = false) (h : Headers)
    (value : String) : (h.set name value).get? m = h.get? m := by
  rw [get?_set, if_neg (by simp [hne])]

theorem get?_singleton {name value : String} :
    (Headers.mk [(name, value)]).get? name = some value := by
  have hname : sameName name name = true := sameName_iff.2 rfl
  simp [get?, hname]

/-- A field that is there has the value that stands in for it. -/
theorem get?_eq_some_getD {h : Headers} {name : String} (hname : h.contains name = true) :
    h.get? name = some (h.getD name "") := by
  rw [contains, Option.isSome_iff_exists] at hname
  obtain ⟨value, hvalue⟩ := hname
  rw [getD, hvalue]
  rfl

/-- A character that is not in the value of a field is not in what stands in for it either. -/
theorem not_mem_getD {h : Headers} {name : String} {c : Char}
    (hvalue : ∀ value ∈ h.get? name, c ∉ value.toList) : c ∉ (h.getD name "").toList := by
  rw [getD]
  cases hget : h.get? name with
  | none => simp
  | some value => exact hvalue value hget

/-! ## Fields in a row -/

theorem get?_append (front back : List (String × String)) (m : String) :
    (Headers.mk (front ++ back)).get? m =
      ((Headers.mk front).get? m).or ((Headers.mk back).get? m) := by
  rw [get?, get?, get?, List.find?_append, Option.map_or]

theorem get?_cons (name value : String) (items : List (String × String)) (m : String) :
    (Headers.mk ((name, value) :: items)).get? m =
      if sameName name m then some value else (Headers.mk items).get? m := by
  rw [get?, get?, List.find?_cons]
  split
  · next h => rw [if_pos h]; rfl
  · next h => rw [if_neg (by simpa using h)]

/-- Names that differ in letter case at most are names of the same fields. -/
theorem sameName_eq_of_sameName {a b : String} (h : sameName a b = true) (m : String) :
    sameName a m = sameName b m := by
  rw [sameName, sameName, sameName_iff.1 h]

theorem exists_get?_eq_some {items : List (String × String)} {m : String}
    (h : ∃ p ∈ items, sameName p.1 m = true) : ∃ value, (Headers.mk items).get? m = some value := by
  have hsome : (items.find? (sameName ·.1 m)).isSome = true := List.find?_isSome.2 h
  obtain ⟨found, hfound⟩ := Option.isSome_iff_exists.1 hsome
  exact ⟨found.2, by rw [get?, hfound]; rfl⟩

/-! ## Several fields at once -/

theorem setAll_cons (h : Headers) (name value : String) (fields : List (String × String)) :
    h.setAll ((name, value) :: fields) = (h.set name value).setAll fields :=
  rfl

/-- The value that is set last under a name, in any letter case. -/
def lastSet (fields : List (String × String)) (name : String) : Option String :=
  (Headers.mk fields.reverse).get? name

theorem lastSet_cons (name value : String) (fields : List (String × String)) (m : String) :
    lastSet ((name, value) :: fields) m =
      (lastSet fields m).or (if sameName name m then some value else none) := by
  have hempty : (Headers.mk []).get? m = none := rfl
  rw [lastSet, List.reverse_cons, get?_append, get?_cons, hempty, lastSet]

theorem lastSet_eq_getLast? (fields : List (String × String)) (m : String) :
    lastSet fields m = ((Headers.mk fields).getAll m).getLast? := by
  rw [lastSet, get?_eq_head?_getAll, getAll, getAll, List.filter_reverse, List.map_reverse,
    List.head?_reverse]

/-- **What is set last is the only value left**, and where nothing is set the values stay. -/
theorem getAll_setAll (h : Headers) (fields : List (String × String)) (m : String) :
    (h.setAll fields).getAll m =
      match lastSet fields m with
      | some value => [value]
      | none => h.getAll m := by
  induction fields generalizing h with
  | nil => rfl
  | cons field fields ih =>
    obtain ⟨name, value⟩ := field
    rw [setAll_cons, ih, lastSet_cons, getAll_set]
    cases lastSet fields m with
    | some last => rfl
    | none =>
      by_cases hname : sameName name m = true
      · rw [if_pos hname, if_pos hname]; rfl
      · rw [if_neg hname, if_neg hname]; rfl

/-- The first value then, which is the one that was set last if there is one. -/
theorem get?_setAll (h : Headers) (fields : List (String × String)) (m : String) :
    (h.setAll fields).get? m = (lastSet fields m).or (h.get? m) := by
  rw [get?_eq_head?_getAll, getAll_setAll, get?_eq_head?_getAll]
  cases lastSet fields m with
  | some value => rfl
  | none => rfl

/-- Whether one of the fields has a name. -/
def isNamed (fields : List (String × String)) (name : String) : Bool :=
  fields.any (sameName ·.1 name)

/-- The fields that no later one replaces. -/
def lasting : List (String × String) → List (String × String)
  | [] => []
  | p :: ps => if isNamed ps p.1 then lasting ps else p :: lasting ps

theorem sameName_comm (a b : String) : sameName a b = sameName b a := Bool.beq_comm

theorem isNamed_of_mem_lasting {fields : List (String × String)} {p : String × String}
    (h : p ∈ lasting fields) : isNamed fields p.1 = true := by
  induction fields with
  | nil => exact absurd h List.not_mem_nil
  | cons q qs ih =>
    have hself : sameName p.1 p.1 = true := sameName_iff.2 rfl
    rw [isNamed, List.any_cons, Bool.or_eq_true]
    rw [lasting] at h
    split at h
    · exact .inr (ih h)
    · rcases List.mem_cons.1 h with rfl | h
      · exact .inl hself
      · exact .inr (ih h)

/-- **What setting several fields comes to**: the other fields in their order, and then those that
were set, each in the place of its last value. -/
theorem items_setAll (h : Headers) (fields : List (String × String)) :
    (h.setAll fields).items = h.items.filter (!isNamed fields ·.1) ++ lasting fields := by
  induction fields generalizing h with
  | nil =>
    have hall : h.items.filter (!isNamed [] ·.1) = h.items := List.filter_eq_self.2 fun _ _ => rfl
    rw [hall, lasting, List.append_nil]
    rfl
  | cons p ps ih =>
    obtain ⟨name, value⟩ := p
    have hkept (q : String × String) :
        (!isNamed ps q.1 && !sameName q.1 name) = !isNamed ((name, value) :: ps) q.1 := by
      rw [isNamed, isNamed, List.any_cons, Bool.not_or, Bool.and_comm, sameName_comm]
    rw [setAll_cons, ih, set, push, erase, List.filter_append, List.filter_filter, lasting]
    simp only [hkept]
    cases hname : isNamed ps name with
    | true => simp [hname]
    | false => simp [hname]

/-- **To set the same fields again changes nothing.** -/
theorem setAll_setAll (h : Headers) (fields : List (String × String)) :
    (h.setAll fields).setAll fields = h.setAll fields := by
  have hlasting : (lasting fields).filter (!isNamed fields ·.1) = [] := by
    rw [List.filter_eq_nil_iff]
    intro p hp
    simp [isNamed_of_mem_lasting hp]
  have hitems : ((h.setAll fields).setAll fields).items = (h.setAll fields).items := by
    rw [items_setAll, items_setAll, List.filter_append, List.filter_filter, hlasting,
      List.append_nil]
    simp only [Bool.and_self]
  exact congrArg Headers.mk hitems

/-! ## Names -/

/-- The characters of a token: letters, digits and some marks. -/
def isTokenChar (c : Char) : Bool := c.isAlphanum || "!#$%&'*+-.^_`|~".toList.contains c

/-- A header name in the grammar of HTTP. -/
structure IsToken (name : String) : Prop where
  ne : name ≠ ""
  chars : ∀ c ∈ name.toList, isTokenChar c = true

theorem isBlank_of_isTokenChar {c : Char} (h : isTokenChar c = true) : Text.isBlank c = false := by
  have hmarks : ("!#$%&'*+-.^_`|~".toList.all (!Text.isBlank ·)) = true := by decide
  rw [isTokenChar, Bool.or_eq_true] at h
  rcases h with h | h
  · exact Text.isBlank_of_isAlphanum h
  · simpa using List.all_eq_true.1 hmarks c (by simpa using h)

end Headers

namespace Request

variable {r r' : Request} {header : String}

/-- A request with an Authorization value attached. -/
def attach (r : Request) (header : String) : Request :=
  r.withHeaders [(Headers.authorization, header)]

theorem attach_headers :
    (r.attach header).headers = r.headers.set Headers.authorization header :=
  rfl

/-- The attached value hides every other one. -/
theorem get?_attach_self : (r.attach header).headers.get? Headers.authorization = some header := by
  rw [attach_headers, Headers.get?_set_self]

theorem lower_authorization : Text.lower Headers.authorization = "authorization" := by
  decide

theorem get?_attach {name : String} (h : Text.lower name ≠ "authorization") :
    (r.attach header).headers.get? name = r.headers.get? name := by
  rw [attach_headers, Headers.get?_set, if_neg]
  intro hname
  exact h ((Headers.sameName_iff.1 hname).symm.trans lower_authorization)

theorem withHeaders_append (r : Request) (fields fields' : List (String × String)) :
    r.withHeaders (fields ++ fields') = (r.withHeaders fields).withHeaders fields' := by
  simp only [withHeaders, Headers.setAll, List.foldl_append]

theorem withHeaders_concat {fields : List (String × String)} :
    r.withHeaders (fields ++ [(Headers.authorization, header)]) =
      (r.withHeaders fields).attach header :=
  withHeaders_append r fields _

theorem withHeaders_withHeaders (r : Request) (fields : List (String × String)) :
    (r.withHeaders fields).withHeaders fields = r.withHeaders fields := by
  simp only [withHeaders, Headers.setAll_setAll]

/-! ## Requests that differ in their Authorization fields -/

/-- Two requests in which everything is the same but Authorization fields, as far as first values
go. -/
structure Alike (r r' : Request) : Prop where
  method : r.method = r'.method
  host : r.host = r'.host
  path : r.path = r'.path
  query : r.query = r'.query
  body : r.body = r'.body
  headers : ∀ name, Text.lower name ≠ "authorization" → r.headers.get? name = r'.headers.get? name

theorem alike_attach (r : Request) (header : String) : r.Alike (r.attach header) where
  method := rfl
  host := rfl
  path := rfl
  query := rfl
  body := rfl
  headers := fun _ hname => (get?_attach hname).symm

namespace Alike

theorem getD (h : r.Alike r') {name : String} (hname : Text.lower name ≠ "authorization")
    (fallback : String) : r.headers.getD name fallback = r'.headers.getD name fallback := by
  rw [Headers.getD, Headers.getD, h.headers name hname]

/-- Whatever else is set, they stay so. -/
theorem withHeaders (h : r.Alike r') (fields : List (String × String)) :
    (r.withHeaders fields).Alike (r'.withHeaders fields) where
  method := h.method
  host := h.host
  path := h.path
  query := h.query
  body := h.body
  headers := by
    intro name hname
    rw [Request.withHeaders, Request.withHeaders, Headers.get?_setAll, Headers.get?_setAll,
      h.headers name hname]

end Alike

end Request
end SignedHttp
