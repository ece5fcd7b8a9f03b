import SignedHttp.Log
import SignedHttp.Scheme.Basic

/-!
# Registries

The schemes that a party supports, in order, at most one of each kind.

* `Registry.ofList`: a registry, unless two schemes share an id.
* `Registry.find?`: the scheme with an id.
* `Registry.identify`: the first scheme to which an Authorization value belongs.
-/

set_option autoImplicit false

namespace SignedHttp

structure Registry where
  schemes : List Scheme
  distinct : (schemes.map Scheme.id).Nodup

/-- The ids of schemes that cannot be registered together. -/
structure DuplicateSchemes where
  ids : List String
  deriving DecidableEq

def DuplicateSchemes.message (e : DuplicateSchemes) : String :=
  let ids := commaList (e.ids.map Text.quoted)
  s!"Duplicate protocol versions: [{ids}]"

namespace Registry

def ofList (schemes : List Scheme) : Except DuplicateSchemes Registry :=
  if h : (schemes.map Scheme.id).Nodup then .ok ⟨schemes, h⟩
  else .error ⟨schemes.map Scheme.id⟩

/-- One scheme of each kind. -/
def pair (legacy : LegacyScheme) (current : CurrentScheme) : Registry where
  schemes := [.legacy legacy, .current current]
  distinct := by simp [Scheme.id, LegacyScheme.id, CurrentScheme.id]

def find? (reg : Registry) (version : String) : Option Scheme :=
  reg.schemes.find? (·.id == version)

/-- The first scheme to which a value belongs; an absent value belongs to none. -/
def schemeOf? (reg : Registry) (value : Option String) : Option Scheme :=
  reg.schemes.find? fun s => value.any s.identifies

/-- What the log says of a value that belongs to no scheme. -/
def unmatchedToken : Option String → Option String
  | some value => if value.isEmpty then none else some (Token.first value)
  | none => none

def identify (reg : Registry) (value : Option String) : Logged (Option Scheme) :=
  match reg.schemeOf? value with
  | some s => ⟨some s, []⟩
  | none => ⟨none, [.schemeUnmatched (unmatchedToken value)]⟩

end Registry
end SignedHttp
