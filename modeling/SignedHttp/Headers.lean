import SignedHttp.Text.Case
import SignedHttp.Text.Quoted

/-!
# Header fields

An ordered multimap from header names to values. Names keep the letter case in which they were
given, and are told apart without regard to it.

* `Headers.push`, `Headers.erase`, `Headers.set`: the changes.
* `Headers.get?`, `Headers.getAll`, `Headers.contains`: the look-ups.
* `Headers.sameAs`: equal up to the letter case of names.

All values of a name (`Headers.getAll`) are the view in which each change is described:
`getAll_push`, `getAll_erase`, `getAll_set`.
-/

set_option autoImplicit false

namespace SignedHttp

/-- Header fields in order. -/
structure Headers where
  items : List (String × String)
  deriving DecidableEq

namespace Headers

def empty : Headers := ⟨[]⟩

/-- Whether two names differ in letter case at most. -/
def sameName (a b : String) : Bool := Text.lower a == Text.lower b

def push (h : Headers) (name value : String) : Headers := ⟨h.items ++ [(name, value)]⟩

def erase (h : Headers) (name : String) : Headers := ⟨h.items.filter (!sameName ·.1 name)⟩

/-- Replaces every value of a name with a single one, which goes last. -/
def set (h : Headers) (name value : String) : Headers := (h.erase name).push name value

/-- Sets several fields one after the other. -/
def setAll (h : Headers) (fields : List (String × String)) : Headers :=
  fields.foldl (fun h (name, value) => h.set name value) h

/-- The first value of a name. -/
def get? (h : Headers) (name : String) : Option String :=
  (h.items.find? (sameName ·.1 name)).map (·.2)

def getD (h : Headers) (name fallback : String) : String := (h.get? name).getD fallback

def getAll (h : Headers) (name : String) : List String :=
  (h.items.filter (sameName ·.1 name)).map (·.2)

def contains (h : Headers) (name : String) : Bool := (h.get? name).isSome

def names (h : Headers) : List String := h.items.map (·.1)

def size (h : Headers) : Nat := h.items.length

/-- The fields with their names in lower case. -/
def folded (h : Headers) : List (String × String) := h.items.map fun (n, v) => (Text.lower n, v)

def sameAs (h k : Headers) : Bool := h.folded == k.folded

/-- How header fields are shown, for instance `Headers([('Accept', '*/*')])`. -/
def shown (h : Headers) : String :=
  let fields := h.items.map fun (n, v) => s!"({Text.quoted n}, {Text.quoted v})"
  "Headers([" ++ ", ".intercalate fields ++ "])"

/-! ## The values of a name -/

theorem sameName_iff {a b : String} : sameName a b = true ↔ Text.lower a = Text.lower b := by
  simp [sameName]

theorem get?_eq_head?_getAll (h : Headers) (name : String) :
    h.get? name = (h.getAll name).head? := by
  rw [get?, getAll, List.head?_map, List.head?_filter]

theorem contains_iff (h : Headers) (name : String) :
    h.contains name = true ↔ h.getAll name ≠ [] := by
  rw [contains, get?_eq_head?_getAll, List.isSome_head?]

theorem getAll_push (h : Headers) (name value m : String) :
    (h.push name value).getAll m = h.getAll m ++ if sameName name m then [value] else [] := by
  by_cases hm : sameName name m <;> simp [getAll, push, hm]

theorem getAll_erase (h : Headers) (name m : String) :
    (h.erase name).getAll m = if sameName name m then [] else h.getAll m := by
  rw [getAll, erase, List.filter_filter]
  by_cases hm : sameName name m
  · simp_all [sameName]
  · rw [if_neg hm, getAll]
    congr 2
    funext p
    by_cases hp : sameName p.1 m
    · have hn : sameName p.1 name = false := by
        rw [Bool.eq_false_iff]
        intro h'
        exact hm (sameName_iff.2 ((sameName_iff.1 h').symm.trans (sameName_iff.1 hp)))
      simp [hp, hn]
    · simp [hp]

theorem getAll_set (h : Headers) (name value m : String) :
    (h.set name value).getAll m = if sameName name m then [value] else h.getAll m := by
  rw [set, getAll_push, getAll_erase]
  by_cases hm : sameName name m <;> simp [hm]

/-! ## Names with a meaning of their own -/

def authorization : String := "Authorization"

def contentType : String := "Content-Type"

def date : String := "Date"

def host : String := "Host"

def timestamp : String := "X-Authorization-Timestamp"

def contentDigest : String := "X-Authorization-Content-SHA256"

def responseSignature : String := "X-Server-Authorization-HMAC-SHA256"

end Headers
end SignedHttp
