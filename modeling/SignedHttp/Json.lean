import SignedHttp.Text.Hex
import SignedHttp.Value

/-!
# Reading JSON

* `Json.read?`: the value of a JSON text, if it is one. Dictionaries keep the order of their keys,
  the last value of a repeated key counts, and the words NaN and Infinity are numbers.
* `Json.readText?`: the rest of a text literal.
* `Json.readNumber?`: a number literal.
-/

set_option autoImplicit false

namespace SignedHttp
namespace Json

def skipSpace (cs : List Char) : List Char :=
  cs.dropWhile fun c => c == ' ' || c == '\t' || c == '\n' || c == '\r'

/-! ## Text literals -/

/-- The character after a backslash, other than the one before four hexadecimal digits. -/
def simpleEscape? : Char → Option Nat
  | '"' => some 0x22
  | '\\' => some 0x5C
  | '/' => some 0x2F
  | 'b' => some 0x08
  | 'f' => some 0x0C
  | 'n' => some 0x0A
  | 'r' => some 0x0D
  | 't' => some 0x09
  | _ => none

/-- The code units up to the closing quote, and what follows it. -/
def readUnits? (seen : List Nat) : List Char → Option (List Nat × List Char)
  | [] => none
  | '"' :: rest => some (seen.reverse, rest)
  | '\\' :: 'u' :: a :: b :: c :: d :: rest =>
    match Hex.value? a, Hex.value? b, Hex.value? c, Hex.value? d with
    | some w, some x, some y, some z => readUnits? ((w * 4096 + x * 256 + y * 16 + z) :: seen) rest
    | _, _, _, _ => none
  | '\\' :: c :: rest =>
    match simpleEscape? c with
    | some unit => readUnits? (unit :: seen) rest
    | none => none
  | c :: rest => if c.toNat < 0x20 then none else readUnits? (c.toNat :: seen) rest

/-- Joins the two halves of a surrogate pair; a half on its own has no character. -/
def joinUnits : List Nat → List Char
  | [] => []
  | [unit] => [if 0xD800 ≤ unit && unit < 0xE000 then Utf8.replacement else Char.ofNat unit]
  | high :: low :: rest =>
    if 0xD800 ≤ high && high < 0xDC00 && 0xDC00 ≤ low && low < 0xE000 then
      Char.ofNat (0x10000 + (high - 0xD800) * 0x400 + (low - 0xDC00)) :: joinUnits rest
    else if 0xD800 ≤ high && high < 0xE000 then Utf8.replacement :: joinUnits (low :: rest)
    else Char.ofNat high :: joinUnits (low :: rest)

def readText? (cs : List Char) : Option (String × List Char) :=
  (readUnits? [] cs).map fun (units, rest) => (String.ofList (joinUnits units), rest)

/-! ## Number literals -/

/-- The most digits that a whole number may have. -/
def digitLimit : Nat := 4300

/-- A run of digits after a mark, if the mark and at least one digit are there. -/
def readFraction : List Char → List Char × List Char
  | '.' :: rest =>
    let digits := rest.takeWhile Char.isDigit
    if digits.isEmpty then ([], '.' :: rest) else (digits, rest.dropWhile Char.isDigit)
  | cs => ([], cs)

/-- A power of ten, if the mark and at least one digit are there. -/
def readPower : List Char → Option Int × List Char
  | [] => (none, [])
  | c :: rest =>
    if c == 'e' || c == 'E' then
      let (negative, after) := Binary64.readSign rest
      let digits := after.takeWhile Char.isDigit
      if digits.isEmpty then (none, c :: rest)
      else
        let n : Int := Nat.ofDigitChars 10 digits 0
        (some (if negative then -n else n), after.dropWhile Char.isDigit)
    else (none, c :: rest)

/-- A number without its sign. -/
def readMagnitude? (negative : Bool) (cs : List Char) : Option (Value × List Char) :=
  let (whole, rest) :=
    match cs with
    | '0' :: rest => (['0'], rest)
    | _ => (cs.takeWhile Char.isDigit, cs.dropWhile Char.isDigit)
  if whole.isEmpty then none
  else
    let (fraction, rest) := readFraction rest
    let (power, rest) := readPower rest
    if fraction.isEmpty && power.isNone then
      if digitLimit < whole.length then none
      else
        let n : Int := Nat.ofDigitChars 10 whole 0
        some (.int (if negative then -n else n), rest)
    else
      let exponent := power.getD 0 - fraction.length
      some (.float (Binary64.ofDecimal negative (whole ++ fraction) exponent), rest)

def readNumber? : List Char → Option (Value × List Char)
  | '-' :: rest => readMagnitude? true rest
  | cs => readMagnitude? false cs

/-! ## Values -/

/-- The words that stand for a value. -/
def words : List (String × Value) :=
  [("null", .null), ("true", .bool true), ("false", .bool false), ("NaN", .float .nan),
   ("Infinity", .float (.infinite false)), ("-Infinity", .float (.infinite true))]

def readWord? (cs : List Char) : Option (Value × List Char) :=
  (words.find? fun (word, _) => word.toList.isPrefixOf cs).map fun (word, v) =>
    (v, cs.drop word.length)

mutual

def readValue? : Nat → List Char → Option (Value × List Char)
  | 0, _ => none
  | fuel + 1, '\x7b' :: rest =>
    match skipSpace rest with
    | '\x7d' :: rest' => some (.dict [], rest')
    | rest' => readEntries? fuel [] rest'
  | fuel + 1, '[' :: rest =>
    match skipSpace rest with
    | ']' :: rest' => some (.list [], rest')
    | rest' => readItems? fuel [] rest'
  | _ + 1, '"' :: rest => (readText? rest).map fun (s, rest') => (.text s, rest')
  | _ + 1, cs => (readWord? cs).or (readNumber? cs)

/-- The items of a list from one of them on, with those before it at hand, latest first. -/
def readItems? : Nat → List Value → List Char → Option (Value × List Char)
  | 0, _, _ => none
  | fuel + 1, seen, cs =>
    match readValue? fuel cs with
    | none => none
    | some (v, rest) =>
      match skipSpace rest with
      | ']' :: rest' => some (.list (v :: seen).reverse, rest')
      | ',' :: rest' => readItems? fuel (v :: seen) (skipSpace rest')
      | _ => none

/-- The entries of a dictionary from one of them on, with those before it at hand. -/
def readEntries? : Nat → List (String × Value) → List Char → Option (Value × List Char)
  | 0, _, _ => none
  | fuel + 1, seen, '"' :: cs =>
    match readText? cs with
    | none => none
    | some (key, rest) =>
      match skipSpace rest with
      | ':' :: rest' =>
        match readValue? fuel (skipSpace rest') with
        | none => none
        | some (v, rest) =>
          match skipSpace rest with
          | '\x7d' :: rest' => some (.dict (putEntry key v seen), rest')
          | ',' :: rest' => readEntries? fuel (putEntry key v seen) (skipSpace rest')
          | _ => none
      | _ => none
  | _ + 1, _, _ => none

end

/-- Reads a whole text. Each character costs at most two units of fuel. -/
def read? (s : String) : Option Value :=
  match readValue? (2 * s.length + 2) (skipSpace s.toList) with
  | some (v, rest) => if (skipSpace rest).isEmpty then some v else none
  | none => none

end Json
end SignedHttp
