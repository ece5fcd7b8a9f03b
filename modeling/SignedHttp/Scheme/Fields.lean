import SignedHttp.Percent
import SignedHttp.Text.Case

/-!
# Quoted fields

The second scheme writes its parameters as `name="value"`. A name is a maximal run of ASCII
letters and underscores; a value ends at the next quote.

* `Fields.scan`: the names and values in a text, in order; everything between them is passed over.
* `Fields.last?`: the percent-decoded value of the last field with a name, in any letter case.
* `Fields.render`: one field.
-/

set_option autoImplicit false

namespace SignedHttp
namespace Fields

def isNameChar (c : Char) : Bool := c.isAlpha || c == '_'

/-- How far the reader has come in a field. What it has read stands in reverse order. -/
inductive Progress
  | name (read : List Char)
  | equals (name : List Char)
  | value (name read : List Char)

/-- The progress after a character that does not continue a field. -/
def restart (c : Char) : Progress := .name (if isNameChar c then [c] else [])

/-- A value that is never closed is no field, and no field can follow it. -/
def scanFrom : Progress → List Char → List (List Char × List Char)
  | _, [] => []
  | .name read, c :: rest =>
    if isNameChar c then scanFrom (.name (c :: read)) rest
    else if c = '=' && !read.isEmpty then scanFrom (.equals read.reverse) rest
    else scanFrom (.name []) rest
  | .equals name, c :: rest =>
    if c = '"' then scanFrom (.value name []) rest else scanFrom (restart c) rest
  | .value name read, c :: rest =>
    if c = '"' then (name, read.reverse) :: scanFrom (.name []) rest
    else scanFrom (.value name (c :: read)) rest

def scan (cs : List Char) : List (List Char × List Char) := scanFrom (.name []) cs

def last? (fields : List (List Char × List Char)) (name : String) : Option String :=
  let decoded := fields.map fun (n, v) =>
    (String.ofList (Text.lowerList n), String.ofList (Percent.decodeList v))
  (decoded.reverse.find? (·.1 == name)).map (·.2)

/-- The last value of a name, blank if there is none. -/
def lastD (fields : List (List Char × List Char)) (name : String) : String :=
  (last? fields name).getD ""

def render (name value : String) : String := name ++ "=\"" ++ value ++ "\""

end Fields
end SignedHttp
