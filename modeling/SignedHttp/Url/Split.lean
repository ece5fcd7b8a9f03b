import SignedHttp.Text.Quoted
import SignedHttp.Url.Address

/-!
# URLs

* `Url`: the parts of a URL that a request keeps.
* `Url.split`: the parts of a URL text, or why its authority is refused.
* `UrlError`: the reasons, with their wording.
-/

set_option autoImplicit false

namespace SignedHttp

structure Url where
  authority : String
  path : String
  query : String
  deriving DecidableEq

inductive UrlError
  | brackets
  | addressV4InBrackets
  | notAnAddress (host : String)
  | futureAddress
  | confusable (authority : String)
  deriving DecidableEq

def UrlError.message : UrlError → String
  | .brackets => "Invalid IPv6 URL"
  | .addressV4InBrackets => "An IPv4 address cannot be in brackets"
  | .notAnAddress host => s!"{Text.quoted host} does not appear to be an IPv4 or IPv6 address"
  | .futureAddress => "IPvFuture address is invalid"
  | .confusable authority =>
    s!"netloc '{authority}' contains invalid characters under NFKC normalization"

namespace Url

/-- The characters beyond ASCII whose compatibility form contains one of `/`, `?`, `#`, `@`
and `:`. -/
def confusables : List Nat :=
  [0x2047, 0x2048, 0x2049, 0x2100, 0x2101, 0x2105, 0x2106, 0x2A74, 0xFE13, 0xFE16, 0xFE55, 0xFE56,
   0xFE5F, 0xFE6B, 0xFF03, 0xFF0F, 0xFF1A, 0xFF1F, 0xFF20]

/-- Takes off control characters and spaces in front, and tabs and line ends everywhere. -/
def cleaned (cs : List Char) : List Char :=
  (cs.dropWhile (·.toNat ≤ 0x20)).filter fun c => c != '\t' && c != '\r' && c != '\n'

def isSchemeChar (c : Char) : Bool := c.isAlphanum || c == '+' || c == '-' || c == '.'

/-- What follows the scheme, or everything if there is none. -/
def afterScheme (cs : List Char) : List Char :=
  match Text.cutFirst ':' cs with
  | some (scheme, rest) =>
    if scheme.head?.any Char.isAlpha && scheme.all isSchemeChar then rest else cs
  | none => cs

def endsAuthority (c : Char) : Bool := c == '/' || c == '?' || c == '#'

/-- The authority, which stands after two slashes, and what follows it. -/
def splitAuthority : List Char → List Char × List Char
  | '/' :: '/' :: rest =>
    (rest.takeWhile (!endsAuthority ·), rest.dropWhile (!endsAuthority ·))
  | cs => ([], cs)

/-- The host and port of an authority: what stands after its last `@`. -/
def hostPort (authority : List Char) : List Char :=
  match Text.cutLast '@' authority with
  | some (_, host) => host
  | none => authority

/-- The host that stands in brackets, which must begin the host and be followed by a port if by
anything. Brackets before the last `@` leave the plain host to be looked at. -/
def bracketedHost (authority : List Char) : Except UrlError (List Char) :=
  let host := hostPort authority
  match Text.cutFirst '[' host with
  | some (before, inside) =>
    if !before.isEmpty then .error .brackets
    else
      match Text.cutFirst ']' inside with
      | some (address, port) =>
        if port.isEmpty || port.head? == some ':' then .ok address else .error .brackets
      | none => .ok inside
  | none => .ok (host.takeWhile (· != ':'))

def checkHost (host : List Char) : Except UrlError Unit :=
  if host.head? == some 'v' then
    if Address.isFuture host then .ok () else .error .futureAddress
  else if Address.isV4 host then .error .addressV4InBrackets
  else if Address.isV6 host then .ok ()
  else .error (.notAnAddress (String.ofList host))

/-- Brackets come in pairs and hold an address of version 6 or later. -/
def checkBrackets (authority : List Char) : Except UrlError Unit :=
  match authority.contains '[', authority.contains ']' with
  | false, false => .ok ()
  | true, true => bracketedHost authority >>= checkHost
  | _, _ => .error .brackets

def checkConfusables (authority : List Char) : Except UrlError Unit :=
  if authority.any fun c => confusables.contains c.toNat then
    .error (.confusable (String.ofList authority))
  else .ok ()

/-- The text before a separator, which is all of it where there is none, and the text after. -/
def cutAt (sep : Char) (cs : List Char) : List Char × List Char :=
  (Text.cutFirst sep cs).getD (cs, [])

/-- A fragment ends the URL at the first `#`; the query before it begins at the first `?`. -/
def split (text : String) : Except UrlError Url := do
  let (authority, rest) := splitAuthority (afterScheme (cleaned text.toList))
  checkBrackets authority
  checkConfusables authority
  let (path, query) := cutAt '?' (cutAt '#' rest).1
  return ⟨String.ofList authority, String.ofList path, String.ofList query⟩

end Url
end SignedHttp
