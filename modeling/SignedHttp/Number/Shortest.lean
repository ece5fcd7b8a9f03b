import SignedHttp.Number.Binary64

/-!
# The shortest decimal form of a number

A number is written with the fewest digits that read back as the same number, and of the numerals
with that many digits as the one nearest to it.

* `Shortest.digits`: those digits and the place of the decimal point before or after them.
* `Shortest.text`: the written form, positional for moderate magnitudes.
-/

set_option autoImplicit false

namespace SignedHttp
namespace Shortest

/-- The exact quotient that a mantissa and an exponent denote. -/
def ratio (m : Nat) (e : Int) : Nat × Nat :=
  if 0 ≤ e then (m <<< e.toNat, 1) else (m, 1 <<< (-e).toNat)

/-- The numerator and denominator of `(num / den) / 10 ^ k`. -/
def scaledTen (num den : Nat) (k : Int) : Nat × Nat :=
  if 0 ≤ k then (num, den * Nat.pow 10 k.toNat) else (num * Nat.pow 10 (-k).toNat, den)

/-- The place `p` of a positive quotient's first digit: it lies from `10 ^ (p - 1)` up to
`10 ^ p`. -/
def place (num den : Nat) : Int :=
  let p : Int := (Nat.toDigits 10 num).length - (Nat.toDigits 10 den).length
  let (a, b) := scaledTen num den p
  if b ≤ a then p + 1 else p

/-- Whether `c · 10 ^ k` reads back as `m · 2 ^ e`. -/
def readsBack (m : Nat) (e : Int) (c : Nat) (k : Int) : Bool :=
  let (a, b) := scaledTen c 1 (-k)
  Binary64.ofRatio false a b == .finite false m e

/-- Of the two neighbours of the number on the grid of multiples of `10 ^ k`, the nearer one that
reads back; the even one of two equally near ones. -/
def onGrid? (m : Nat) (e : Int) (k : Int) : Option Nat :=
  let (num, den) := ratio m e
  let (a, b) := scaledTen num den k
  let low := a / b
  match readsBack m e low k, readsBack m e (low + 1) k with
  | true, true => some (Binary64.nearestNat a b)
  | true, false => some low
  | false, true => some (low + 1)
  | false, false => none

/-- The first of the grids `10 ^ k`, `10 ^ (k - 1)`, … with a numeral that reads back. -/
def search (m : Nat) (e : Int) : Nat → Int → Nat × Int
  | 0, k => ((onGrid? m e k).getD 0, k)
  | grids + 1, k =>
    match onGrid? m e k with
    | some c => (c, k)
    | none => search m e grids (k - 1)

/-- The digits of a positive number without zeros at their end, and the place of the decimal point
counted from before the first digit. Seventeen digits are always enough. -/
def digits (m : Nat) (e : Int) : List Char × Int :=
  let (num, den) := ratio m e
  let (c, k) := search m e 16 (place num den - 1)
  let all := Nat.toDigits 10 c
  ((all.reverse.dropWhile (· == '0')).reverse, all.length + k)

/-- The exponent with a sign and at least two digits. -/
def exponentText (n : Int) : String :=
  let digits := toString n.natAbs
  (if n < 0 then "e-" else "e+") ++ (if n.natAbs < 10 then "0" ++ digits else digits)

/-- Positional form keeps a digit on both sides of the point; it is used as long as at most three
zeros follow the point and at most sixteen digits stand before it. -/
def magnitudeText (m : Nat) (e : Int) : String :=
  if m = 0 then "0.0"
  else
    let (ds, point) := digits m e
    if point ≤ -4 || 16 < point then
      let rest := ds.drop 1
      String.ofList (ds.take 1 ++ if rest.isEmpty then [] else '.' :: rest) ++
        exponentText (point - 1)
    else if point ≤ 0 then
      String.ofList ('0' :: '.' :: (List.replicate (-point).toNat '0' ++ ds))
    else
      let whole := ds.take point.toNat
      let fraction := ds.drop point.toNat
      String.ofList (whole ++ List.replicate (point.toNat - ds.length) '0' ++ '.' ::
        if fraction.isEmpty then ['0'] else fraction)

def text : Binary64 → String
  | .nan => "nan"
  | .infinite negative => if negative then "-inf" else "inf"
  | .finite negative m e => (if negative then "-" else "") ++ magnitudeText m e

end Shortest
end SignedHttp
