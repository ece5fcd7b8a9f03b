import SignedHttp.Number.Shortest
import SignedHttp.Text.Quoted

/-!
# Dynamic values

What a gateway event or a settings variable may hold where a text is expected: the values of a JSON
document, with whole numbers kept apart from fractional ones and with ordered dictionaries.

* `Value.plain`: the text of a value where it is used as a text.
* `Value.quoted`: the text of a value inside another one or in a message.
* `Value.isTruthy`: whether a value counts as given.
-/

set_option autoImplicit false

namespace SignedHttp

inductive Value
  | null
  | bool (b : Bool)
  | int (i : Int)
  | float (x : Binary64)
  | text (s : String)
  | list (items : List Value)
  | dict (entries : List (String × Value))

namespace Value

mutual

def quoted : Value → String
  | null => "None"
  | bool true => "True"
  | bool false => "False"
  | int i => toString i
  | float x => Shortest.text x
  | text s => Text.quoted s
  | list items => "[" ++ ", ".intercalate (quotedItems items) ++ "]"
  | dict entries => "\x7b" ++ ", ".intercalate (quotedEntries entries) ++ "\x7d"

def quotedItems : List Value → List String
  | [] => []
  | v :: rest => quoted v :: quotedItems rest

def quotedEntries : List (String × Value) → List String
  | [] => []
  | (k, v) :: rest => (Text.quoted k ++ ": " ++ quoted v) :: quotedEntries rest

end

def plain : Value → String
  | text s => s
  | v => v.quoted

def isTruthy : Value → Bool
  | null => false
  | bool b => b
  | int i => i != 0
  | float (.finite _ m _) => m != 0
  | float _ => true
  | text s => !s.isEmpty
  | list items => !items.isEmpty
  | dict entries => !entries.isEmpty

def isNull : Value → Bool
  | null => true
  | _ => false

/-- The text that a value is, if it is one. -/
def text? : Value → Option String
  | text s => some s
  | _ => none

/-- Looks up a key of a dictionary; other values have none. -/
def find? (key : String) : Value → Option Value
  | dict entries => entries.lookup key
  | _ => none

end Value

/-- An entry put into an ordered dictionary: a new key goes last, a known one keeps its place. -/
def putEntry {α : Type} (key : String) (value : α) : List (String × α) → List (String × α)
  | [] => [(key, value)]
  | (k, v) :: rest => if k = key then (k, value) :: rest else (k, v) :: putEntry key value rest

/-- The dictionary that results from putting entries one after the other. -/
def dictOf {α : Type} (entries : List (String × α)) : List (String × α) :=
  entries.foldl (fun dict (k, v) => putEntry k v dict) []

end SignedHttp
