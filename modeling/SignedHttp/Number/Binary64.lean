import SignedHttp.Text.Blank

/-!
# Binary floating-point numbers of 64 bits

Numbers of the form `m · 2 ^ e` with a mantissa of at most 53 bits, kept as mantissa and exponent,
so that every operation is exact integer arithmetic followed by one rounding.

* `Binary64.ofRatio`: the nearest number to a quotient, an even mantissa deciding a tie.
* `Binary64.sub`, `Binary64.abs`: arithmetic.
* `Binary64.isAbove`: exact comparison with an integer.
* `Binary64.truncated?`, `Binary64.roundedNat`: integers from numbers.
* `Binary64.wholeText`: the written form of a magnitude without its fraction.
* `Binary64.read?`: the number that a decimal numeral denotes.
-/

set_option autoImplicit false

namespace SignedHttp

/-- `finite negative m e` is the number `m · 2 ^ e` with its sign. -/
inductive Binary64
  | nan
  | infinite (negative : Bool)
  | finite (negative : Bool) (mantissa : Nat) (exponent : Int)
  deriving DecidableEq

namespace Binary64

def leastExponent : Int := -1074

def greatestExponent : Int := 971

/-- Mantissas lie below this number, which is the fifty-third power of two. -/
def mantissaBound : Nat := 9007199254740992

def zero (negative : Bool) : Binary64 := finite negative 0 leastExponent

/-- The integer nearest to `num / den`; of two equally near ones the even one. -/
def nearestNat (num den : Nat) : Nat :=
  let q := num / den
  let twice := 2 * (num % den)
  if twice < den || (twice == den && q % 2 == 0) then q else q + 1

/-- The numerator and denominator of `(num / den) / 2 ^ e`. -/
def scaled (num den : Nat) (e : Int) : Nat × Nat :=
  if 0 ≤ e then (num, den <<< e.toNat) else (num <<< (-e).toNat, den)

/-- The number nearest to `num / den`. -/
def ofRatio (negative : Bool) (num den : Nat) : Binary64 :=
  if num = 0 then zero negative
  else
    let low : Int := (num.log2 : Int) - den.log2 - 53
    let (a, b) := scaled num den low
    let e := max (if a / b < mantissaBound then low else low + 1) leastExponent
    let (a, b) := scaled num den e
    let m := nearestNat a b
    let (m, e) := if m = mantissaBound then (m / 2, e + 1) else (m, e)
    if greatestExponent < e then infinite negative else finite negative m e

/-- `m · 2 ^ e` rounded. -/
def ofScaled (negative : Bool) (m : Nat) (e : Int) : Binary64 :=
  if 0 ≤ e then ofRatio negative (m <<< e.toNat) 1 else ofRatio negative m (1 <<< (-e).toNat)

/-- The number nearest to an integer; none where it would be infinite. -/
def ofInt? (i : Int) : Option Binary64 :=
  match ofRatio (i < 0) i.natAbs 1 with
  | infinite _ => none
  | x => some x

/-- `± m · 2 ^ e` as a multiple of `2 ^ base`, for a base that is not above `e`. -/
def multiple (negative : Bool) (m : Nat) (e base : Int) : Int :=
  let n : Int := (m <<< (e - base).toNat : Nat)
  if negative then -n else n

def sub : Binary64 → Binary64 → Binary64
  | nan, _ => nan
  | _, nan => nan
  | infinite s, infinite t => if s = t then nan else infinite s
  | infinite s, finite .. => infinite s
  | finite .., infinite t => infinite !t
  | finite s m e, finite t n f =>
    let base := min e f
    let difference := multiple s m e base - multiple t n f base
    ofScaled (difference < 0) difference.natAbs base

def abs : Binary64 → Binary64
  | nan => nan
  | infinite _ => infinite false
  | finite _ m e => finite false m e

/-- How a finite number compares with an integer. -/
def compareInt (negative : Bool) (m : Nat) (e : Int) (i : Int) : Ordering :=
  let base := min e 0
  compare (multiple negative m e base) (i * (1 <<< (-base).toNat : Nat))

def isAbove (x : Binary64) (i : Int) : Bool :=
  match x with
  | nan => false
  | infinite negative => !negative
  | finite negative m e => compareInt negative m e i == .gt

/-- The integer part of a finite number, toward zero. -/
def truncated? : Binary64 → Option Int
  | finite negative m e =>
    let n : Int := if 0 ≤ e then (m <<< e.toNat : Nat) else (m >>> (-e).toNat : Nat)
    some (if negative then -n else n)
  | _ => none

/-- The integer nearest to `m · 2 ^ e`; of two equally near ones the even one. -/
def roundedNat (m : Nat) (e : Int) : Nat :=
  if 0 ≤ e then m <<< e.toNat else nearestNat m (1 <<< (-e).toNat)

/-- A number of no sign written without a fraction. -/
def wholeText : Binary64 → String
  | nan => "nan"
  | infinite _ => "inf"
  | finite _ m e => toString (roundedNat m e)

/-! ## Reading decimal numerals -/

/-- The number `± digits · 10 ^ exponent`. Far beyond the range it is infinite or zero. -/
def ofDecimal (negative : Bool) (digits : List Char) (exponent : Int) : Binary64 :=
  let n := Nat.ofDigitChars 10 digits 0
  let size := (digits.dropWhile (· == '0')).length + exponent
  if n = 0 || size < -400 then zero negative
  else if 400 < size then infinite negative
  else if 0 ≤ exponent then ofRatio negative (n * Nat.pow 10 exponent.toNat) 1
  else ofRatio negative n (Nat.pow 10 (-exponent).toNat)

/-- An optional sign, and what follows it. -/
def readSign : List Char → Bool × List Char
  | '-' :: rest => (true, rest)
  | '+' :: rest => (false, rest)
  | cs => (false, cs)

/-- The power of ten after the digits of a numeral, which is zero if nothing follows. -/
def readExponent? : List Char → Option Int
  | [] => some 0
  | c :: rest =>
    if c == 'e' || c == 'E' then
      let (negative, digits) := readSign rest
      if digits.isEmpty || !digits.all Char.isDigit then none
      else
        let n : Int := Nat.ofDigitChars 10 digits 0
        some (if negative then -n else n)
    else none

/-- A numeral without its sign. -/
def readMagnitude? (negative : Bool) (cs : List Char) : Option Binary64 :=
  let whole := cs.takeWhile Char.isDigit
  let (fraction, rest) :=
    match cs.dropWhile Char.isDigit with
    | '.' :: rest => (rest.takeWhile Char.isDigit, rest.dropWhile Char.isDigit)
    | rest => ([], rest)
  if whole.isEmpty && fraction.isEmpty then none
  else
    (readExponent? rest).map fun exponent =>
      ofDecimal negative (whole ++ fraction) (exponent - fraction.length)

/-- Drops the underscores that stand between two digits. -/
def dropSeparators : List Char → List Char
  | a :: '_' :: b :: rest =>
    if a.isDigit && b.isDigit then a :: dropSeparators (b :: rest)
    else a :: '_' :: dropSeparators (b :: rest)
  | c :: rest => c :: dropSeparators rest
  | [] => []

/-- A decimal numeral, or one of the words for infinity and for no number. -/
def read? (s : String) : Option Binary64 :=
  let (negative, magnitude) := readSign (dropSeparators (Text.trimSpace s.toList))
  let word := String.ofList (magnitude.map Char.toLower)
  if word == "inf" || word == "infinity" then some (infinite negative)
  else if word == "nan" then some nan
  else readMagnitude? negative magnitude

end Binary64
end SignedHttp
