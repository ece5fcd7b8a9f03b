import SignedHttp.Text.Hex
import SignedHttp.Text.Split

/-!
# Internet addresses in URLs

* `Address.isV4`: four decimal numbers up to 255, without leading zeros.
* `Address.isV6`: eight groups of hexadecimal digits, one run of which may be left out, with an
  optional zone after a percent sign.
* `Address.isFuture`: the form reserved for later versions.
-/

set_option autoImplicit false

namespace SignedHttp
namespace Address

def isOctet (cs : List Char) : Bool :=
  !cs.isEmpty && cs.all Char.isDigit && cs.length ≤ 3 && (cs == ['0'] || cs.head? != some '0') &&
    Nat.ofDigitChars 10 cs 0 ≤ 255

def isV4 (cs : List Char) : Bool :=
  let parts := Text.pieces (· == '.') cs
  parts.length == 4 && parts.all isOctet

def isHexDigit (c : Char) : Bool := (Hex.value? c).isSome

/-- A group of an address of version 6. -/
def isGroup (cs : List Char) : Bool := !cs.isEmpty && cs.length ≤ 4 && cs.all isHexDigit

/-- The parts of an address, in which an address of version 4 at the end counts as two groups;
none if that address is malformed. -/
def groupParts? (cs : List Char) : Option (List (List Char)) :=
  let parts := Text.pieces (· == ':') cs
  match parts.getLast? with
  | some last =>
    if parts.length < 3 then none
    else if !last.contains '.' then some parts
    else if isV4 last then some (parts.dropLast ++ [['0'], ['0']])
    else none
  | none => none

/-- The places inside the address, not at its ends, where a part is empty. -/
def gaps (parts : List (List Char)) : List Nat :=
  (List.range parts.length).filter fun i =>
    0 < i && i + 1 < parts.length && (parts.getD i []).isEmpty

/-- The groups on one side of the gap; an empty end belongs to the gap. -/
def sideGroups (parts : List (List Char)) : List (List Char) :=
  if parts == [[]] then [] else parts

def isGroups (parts : List (List Char)) : Bool :=
  match gaps parts with
  | [] => parts.length == 8 && parts.all isGroup
  | [i] =>
    let front := sideGroups (parts.take i)
    let back := sideGroups (parts.drop (i + 1))
    front.all isGroup && back.all isGroup && front.length + back.length ≤ 7
  | _ => false

def isV6 (cs : List Char) : Bool :=
  let (address, zoneValid) :=
    match Text.cutFirst '%' cs with
    | some (address, zone) => (address, !zone.isEmpty && !zone.contains '%')
    | none => (cs, true)
  zoneValid && (groupParts? address).any isGroups

/-- A version in hexadecimal after the letter `v`, a full stop and some text. -/
def isFuture : List Char → Bool
  | 'v' :: rest =>
    match Text.cutFirst '.' rest with
    | some (version, text) => !version.isEmpty && version.all isHexDigit && !text.isEmpty
    | none => false
  | _ => false

end Address
end SignedHttp
