import SignedHttp.Text.CaseTable

/-!
# Lower and upper case

The full case mappings of Unicode 14: one character may become several, and a capital sigma
becomes a final one at the end of a word.

* `lower`, `upper`: the mappings of a text.
* `lowerFrom`: lower case with the characters already passed at hand, nearest first, because they
  decide the form of a sigma.
-/

set_option autoImplicit false

namespace SignedHttp
namespace Text

/-- The code point that a list of runs assigns, if any run covers it. -/
def shifted (runs : List CaseRun) (n : Nat) : Nat :=
  match runs.find? (·.covers n) with
  | some run => (n + run.shift).toNat
  | none => n

/-- The lower case of a character that stands on its own. -/
def lowerChar (c : Char) : List Char :=
  if c.toNat < 128 then [c.toLower]
  else if c.toNat = 0x130 then ['i', Char.ofNat 0x307]
  else [Char.ofNat (shifted lowerRuns c.toNat)]

def upperChar (c : Char) : List Char :=
  if c.toNat < 128 then [c.toUpper]
  else
    match upperExpansions.lookup c.toNat with
    | some expansion => expansion.map Char.ofNat
    | none => [Char.ofNat (shifted upperRuns c.toNat)]

/-- Whether the first character that is not case-ignorable exists and is cased. -/
def meetsCased : List Char → Bool
  | [] => false
  | c :: rest =>
    if inRanges caseIgnorableRanges c.toNat then meetsCased rest else inRanges casedRanges c.toNat

/-- A capital sigma ends a word when a cased character comes before it and none after it. -/
def lowerSigma (before after : List Char) : Char :=
  if meetsCased before && !meetsCased after then 'ς' else 'σ'

def lowerFrom (before : List Char) : List Char → List Char
  | [] => []
  | c :: rest =>
    (if c = 'Σ' then [lowerSigma before rest] else lowerChar c) ++ lowerFrom (c :: before) rest

def lowerList (cs : List Char) : List Char := lowerFrom [] cs

def upperList (cs : List Char) : List Char := cs.flatMap upperChar

def lower (s : String) : String := String.ofList (lowerList s.toList)

def upper (s : String) : String := String.ofList (upperList s.toList)

end Text
end SignedHttp
