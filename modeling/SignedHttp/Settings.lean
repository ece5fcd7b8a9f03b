import SignedHttp.Json
import SignedHttp.Registry

/-!
# Settings

What a process is configured with: arguments first, then variables of its surroundings, then the
defaults.

* `Settings`: the settings.
* `Settings.load`: the settings from variables and arguments, or everything that is wrong with
  them.
* `Settings.registry`: the registry of both schemes that the settings describe.
-/

set_option autoImplicit false

namespace SignedHttp

structure Settings where
  /-- The accepted difference between clock and timestamp in seconds. -/
  timestampTolerance : Nat := 900
  /-- The realm of Authorization values that this process creates. -/
  realm : String := ""
  legacyDigest : String := "SHA1"
  currentDigest : String := "SHA256"
  /-- The further header fields that the first scheme signs. -/
  legacyHeaders : List String := []
  /-- The header fields that the second scheme may sign; none named allows any. -/
  allowedSignedHeaders : List String := []
  deriving DecidableEq

/-- One thing wrong with a setting: where, and which rule it breaks. -/
structure SettingsProblem where
  place : String
  rule : String
  deriving DecidableEq

def SettingsProblem.text (p : SettingsProblem) : String := p.place ++ ":" ++ p.rule

inductive SettingsError
  | unreadable (field : String)
  | invalid (problems : List SettingsProblem)
  deriving DecidableEq

def SettingsError.message : SettingsError → String
  | .unreadable field =>
    "error parsing value for field \"" ++ field ++ "\" from source \"EnvSettingsSource\""
  | .invalid problems =>
    "; ".intercalate ((problems.map (·.text)).mergeSort fun a b => decide (a ≤ b))

namespace Settings

/-! ## Reading numbers -/

/-- Goes on dropping zeros, and underscores among them, after the character `last`, which is kept
where nothing else is left of the whole part. A minus sign may follow them. -/
def dropZerosAfter (last : Char) : List Char → Option (List Char)
  | [] => some [last]
  | c :: rest =>
    if c = '0' || c = '_' then dropZerosAfter c rest
    else if c = '.' then some (last :: c :: rest)
    else if c.isDigit || c = '-' then some (c :: rest)
    else none

/-- Drops the zeros in front of a numeral, which must begin with a digit. -/
def dropZeros : List Char → Option (List Char)
  | [] => none
  | c :: rest =>
    if c = '0' then dropZerosAfter c rest
    else if c.isDigit then some (c :: rest)
    else none

/-- Drops a fraction that consists of zeros, of which there must be one. -/
def dropZeroFraction (cs : List Char) : List Char :=
  match Text.cutFirst '.' cs with
  | some (whole, fraction) =>
    if !fraction.isEmpty && fraction.all (· == '0') then whole else cs
  | none => cs

/-- Drops the underscores if each of them stands between two other characters. -/
def dropUnderscores (cs : List Char) : List Char :=
  let parts := Text.pieces (· == '_') cs
  if parts.any (·.isEmpty) then cs else parts.flatten

/-- The most digits that a numeral may have. -/
def numeralLimit : Nat := 4300

/-- Reads a numeral without superfluous zeros. -/
def readNumeral (cs : List Char) : Except String Int :=
  let (negative, digits) :=
    match cs with
    | '-' :: rest => (true, rest)
    | _ => (false, cs)
  if digits.isEmpty || !digits.all Char.isDigit || numeralLimit < digits.length ||
      (digits.head? == some '0' && digits.length ≠ 1) then
    .error "int_parsing"
  else
    let n : Int := Nat.ofDigitChars 10 digits 0
    .ok (if negative then -n else n)

/-- Whether a text begins, after a minus sign perhaps, with a numeral of too many digits. None is
counted behind white space, a plus sign or a zero. -/
def startsTooLong (cs : List Char) : Bool :=
  let unsigned :=
    match cs with
    | '-' :: rest => rest
    | _ => cs
  unsigned.head? != some '0' && numeralLimit < (unsigned.takeWhile Char.isDigit).length

/-- Reads a whole number with white space around it, a sign, zeros and underscores. Of texts that
are none, those that begin with too long a numeral are told apart. -/
def readInt (s : String) : Except String Int :=
  if startsTooLong s.toList then .error "int_parsing_size"
  else
    let (negative, unsigned) := Binary64.readSign (Text.trimSpace s.toList)
    match dropZeros unsigned with
    | none => .error "int_parsing"
    | some cs =>
      let cleaned := dropUnderscores (dropZeroFraction cs)
      readNumeral (if negative then '-' :: cleaned else cleaned)

/-! ## Checking values -/

def checkInt : Value → Except String Int
  | .int i => .ok i
  | .bool b => .ok (if b then 1 else 0)
  | .text s => readInt s
  | .float x =>
    match x, x.truncated? with
    | .finite negative m e, some i =>
      if Binary64.compareInt negative m e i == .eq then .ok i else .error "int_from_float"
    | _, _ => .error "finite_number"
  | _ => .error "int_type"

def checkTolerance (place : String) (v : Value) : Except (List SettingsProblem) Nat :=
  match checkInt v with
  | .ok i => if 0 ≤ i then .ok i.toNat else .error [⟨place, "greater_than_equal"⟩]
  | .error rule => .error [⟨place, rule⟩]

def checkText (place : String) : Value → Except (List SettingsProblem) String
  | .text s => .ok s
  | _ => .error [⟨place, "string_type"⟩]

/-- The texts of a list, or the items that are none; `index` counts the items before. -/
def checkItems (place : String) (index : Nat) :
    List Value → Except (List SettingsProblem) (List String)
  | [] => .ok []
  | v :: rest =>
    match checkText s!"{place}.{index}" v, checkItems place (index + 1) rest with
    | .ok s, .ok others => .ok (s :: others)
    | .ok _, .error problems => .error problems
    | .error problems, .ok _ => .error problems
    | .error problems, .error others => .error (problems ++ others)

def checkList (place : String) : Value → Except (List SettingsProblem) (List String)
  | .list items => checkItems place 0 items
  | _ => .error [⟨place, "list_type"⟩]

def problemsOf {α : Type} : Except (List SettingsProblem) α → List SettingsProblem
  | .ok _ => []
  | .error problems => problems

/-! ## Variables and arguments -/

/-- The value of the variable for a field. Names count without regard to letter case, and of two
variables that differ in it the later one counts. -/
def textIn? (vars : List (String × String)) (field : String) : Option String :=
  (vars.reverse.find? fun (name, _) => Text.lower name == "http_hmac_" ++ field).map (·.2)

/-- A list in a variable is written as JSON, where null stands for no list. -/
def listIn? (vars : List (String × String)) (field : String) :
    Except SettingsError (Option Value) :=
  match textIn? vars field with
  | none => .ok none
  | some s =>
    match Json.read? s with
    | none => .error (.unreadable field)
    | some .null => .ok none
    | some v => .ok (some v)

/-- A checked value, the fallback if there is none. -/
def orDefault {α : Type} (fallback : α) (check : Value → Except (List SettingsProblem) α) :
    Option Value → Except (List SettingsProblem) α
  | some v => check v
  | none => .ok fallback

/-- The argument for a field. Names count without regard to letter case, and of two arguments that
differ in it the first one counts. -/
def argument? (arguments : List (String × Value)) (field : String) : Option Value :=
  (arguments.find? fun (name, _) => Text.lower name == field).map (·.2)

def load (vars : List (String × String)) (arguments : List (String × Value)) :
    Except SettingsError Settings := do
  let legacyHeaders ← listIn? vars "legacy_headers"
  let allowedHeaders ← listIn? vars "allowed_signed_headers"
  let given (field : String) (other : Option Value) : Option Value :=
    (argument? arguments field).or other
  let text (field : String) : Option Value := given field ((textIn? vars field).map .text)
  let defaults : Settings := {}
  let tolerance := orDefault defaults.timestampTolerance (checkTolerance "timestamp_tolerance")
    (text "timestamp_tolerance")
  let realm := orDefault defaults.realm (checkText "realm") (text "realm")
  let legacy := orDefault defaults.legacyDigest (checkText "legacy_digest") (text "legacy_digest")
  let current :=
    orDefault defaults.currentDigest (checkText "current_digest") (text "current_digest")
  let signed := orDefault defaults.legacyHeaders (checkList "legacy_headers")
    (given "legacy_headers" legacyHeaders)
  let allowed := orDefault defaults.allowedSignedHeaders (checkList "allowed_signed_headers")
    (given "allowed_signed_headers" allowedHeaders)
  match tolerance, realm, legacy, current, signed, allowed with
  | .ok tolerance, .ok realm, .ok legacy, .ok current, .ok signed, .ok allowed =>
    .ok ⟨tolerance, realm, legacy, current, signed, allowed⟩
  | tolerance, realm, legacy, current, signed, allowed =>
    .error <| .invalid <| problemsOf tolerance ++ problemsOf realm ++ problemsOf legacy ++
      problemsOf current ++ problemsOf signed ++ problemsOf allowed

/-- The first scheme before the second. -/
def registry (s : Settings) : Except UnsupportedAlgorithm Registry := do
  let legacy ← Algorithm.get s.legacyDigest
  let current ← Algorithm.get s.currentDigest
  return .pair ⟨legacy, s.legacyHeaders⟩ ⟨current, s.allowedSignedHeaders⟩

end Settings
end SignedHttp
