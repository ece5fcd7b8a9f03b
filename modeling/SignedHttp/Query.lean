import SignedHttp.Percent
import SignedHttp.Text.Split

/-!
# Query strings

* `Query.pairs`: the decoded names and values of a query, in its order. Blank names and values
  count, empty pieces do not.
* `Query.normalize`: the pairs in code point order, percent-encoded again.
* `Query.encodePairs`: a query written from pairs in their own order.
-/

set_option autoImplicit false

namespace SignedHttp
namespace Query

/-- A component as it is read: a plus sign stands for a space, before escapes are decoded. -/
def decodeComponent (cs : List Char) : String :=
  String.ofList (Percent.decodeList (cs.map fun c => if c = '+' then ' ' else c))

/-- The first equals sign of a piece ends the name; without one the value is blank. -/
def decodePair (piece : List Char) : String × String :=
  match Text.cutFirst '=' piece with
  | some (name, value) => (decodeComponent name, decodeComponent value)
  | none => (decodeComponent piece, "")

def pairsList (cs : List Char) : List (String × String) :=
  ((Text.pieces (· == '&') cs).filter (!·.isEmpty)).map decodePair

def pairs (query : String) : List (String × String) := pairsList query.toList

/-- Code point order of the names, then of the values. -/
def pairLe (p q : String × String) : Bool :=
  decide (p.1 < q.1) || (p.1 == q.1 && decide (p.2 ≤ q.2))

def sortPairs (ps : List (String × String)) : List (String × String) := ps.mergeSort pairLe

def encodePair (p : String × String) : String := Percent.encode p.1 ++ "=" ++ Percent.encode p.2

def normalize (query : String) : String :=
  "&".intercalate ((sortPairs (pairs query)).map encodePair)

/-- Pairs as a form writes them, with plus signs for spaces. -/
def encodePairs (ps : List (String × String)) : String :=
  "&".intercalate (ps.map fun p => Percent.encodePlus p.1 ++ "=" ++ Percent.encodePlus p.2)

end Query
end SignedHttp
