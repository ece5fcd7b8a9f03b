import SignedHttp.Percent
import SignedHttp.Text.Case

/-!
# Texts with lone surrogates

A text that comes from outside may hold surrogates that are not halves of a pair, for instance where
octets of a header field were not UTF-8.  Such a text can be cut, sorted and put in lower case like
any other, but UTF-8 has no form for it.

* `Point`, `Points`: code points, and texts of them.  `Points.IsText` says that there is no lone
  surrogate, and `Points.ofString` gives the texts of which this is true.
* `Points.chars`: the characters of a text, or the first stretch of surrogates in it.
* `Points.encode`, `Points.quote`: the octets and the percent-encoded form, where there are some.
* `Points.mapRuns`: a change of every stretch between surrogates.  `Points.lower`, `Points.upper`
  and `Points.decodeForm` are of this kind, because a surrogate is neither a letter nor a character
  of ASCII.
-/

set_option autoImplicit false

namespace SignedHttp

/-- A surrogate, counted from U+D800 on. -/
abbrev Surrogate := Fin 0x800

/-- A code point: a character, or a surrogate that stands alone. -/
inductive Point
  | scalar (c : Char)
  | surrogate (s : Surrogate)
  deriving DecidableEq

namespace Point

def value : Point → Nat
  | scalar c => c.toNat
  | surrogate s => 0xD800 + s.val

def isScalar : Point → Bool
  | scalar _ => true
  | surrogate _ => false

end Point

/-- A text as the list of its code points. -/
abbrev Points := List Point

/-- The first stretch of surrogates in a text that UTF-8 cannot write: where it begins, with which
surrogate, and how many more there are. -/
structure EncodeError where
  start : Nat
  first : Surrogate
  further : Nat
  deriving DecidableEq

namespace EncodeError

/-- The same stretch in a text with one more code point in front. -/
def next (e : EncodeError) : EncodeError := { e with start := e.start + 1 }

def place (e : EncodeError) : String :=
  if e.further = 0 then
    let digits := String.ofList (Hex.padded 4 (Point.surrogate e.first).value)
    "character '\\u" ++ digits ++ "' in position " ++ toString e.start
  else "characters in position " ++ toString e.start ++ "-" ++ toString (e.start + e.further)

def message (e : EncodeError) : String :=
  "'utf-8' codec can't encode " ++ e.place ++ ": surrogates not allowed"

end EncodeError

namespace Points

def ofChars (cs : List Char) : Points := cs.map .scalar

def ofString (s : String) : Points := ofChars s.toList

/-- That no surrogate stands alone. -/
def IsText (t : Points) : Prop := ∀ p ∈ t, p.isScalar = true

instance (t : Points) : Decidable (IsText t) := inferInstanceAs (Decidable (∀ p ∈ t, _))

/-! ## Writing in UTF-8 -/

def chars : Points → Except EncodeError (List Char)
  | [] => .ok []
  | .scalar c :: rest =>
    match chars rest with
    | .ok cs => .ok (c :: cs)
    | .error e => .error e.next
  | .surrogate s :: rest => .error ⟨0, s, (rest.takeWhile (!·.isScalar)).length⟩

def encode (t : Points) : Except EncodeError Octets := t.chars.map Utf8.encodeList

def quote (t : Points) : Except EncodeError String :=
  t.chars.map fun cs => String.ofList (Percent.encodeList cs)

/-- The text as a string, if it is one. -/
def text? (t : Points) : Option String := (t.chars.map String.ofList).toOption

/-! ## Changes between surrogates -/

/-- Changes every stretch, with the one read so far at hand, latest first. -/
def mapRunsFrom (f : List Char → List Char) (run : List Char) : Points → Points
  | [] => ofChars (f run.reverse)
  | .scalar c :: rest => mapRunsFrom f (c :: run) rest
  | .surrogate s :: rest => ofChars (f run.reverse) ++ .surrogate s :: mapRunsFrom f [] rest

def mapRuns (f : List Char → List Char) (t : Points) : Points := mapRunsFrom f [] t

def lower (t : Points) : Points := mapRuns Text.lowerList t

def upper (t : Points) : Points := mapRuns Text.upperList t

/-- A component of a query as it is read. -/
def decodeForm (t : Points) : Points :=
  mapRuns (fun cs => Percent.decodeList (cs.map fun c => if c = '+' then ' ' else c)) t

/-! ## Order and joining -/

/-- Code point order. -/
def le : Points → Points → Bool
  | [], _ => true
  | _ :: _, [] => false
  | p :: s, q :: t => decide (p.value < q.value) || (p == q && le s t)

def join (sep : String) (parts : List Points) : Points := (ofString sep).intercalate parts

end Points
end SignedHttp
