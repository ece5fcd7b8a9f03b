import SignedHttp.Digest.Algorithm
import SignedHttp.Error
import SignedHttp.HttpDate
import SignedHttp.Message
import SignedHttp.Scheme.Token

/-!
# The first scheme

An Authorization value holds an id and a signature, `Acquia <id>:<signature>`. Which further
header fields are signed is known to both sides beforehand. The signed text has one line each for
the method, the digest of the body, the content type, the date, the further header fields (an
empty line if there are none) and the resource.

* `LegacyScheme.parse`, `LegacyScheme.render`: reading and writing the Authorization value.
* `LegacyScheme.signedLines`, `LegacyScheme.signedText`: what is signed.
* `LegacyScheme.signingHeaders`: the Date field that a request gets before it is signed.
-/

set_option autoImplicit false

namespace SignedHttp

/-- The scheme with its digest and the header fields that it signs. -/
structure LegacyScheme where
  digest : Algorithm
  headers : List String
  deriving DecidableEq

namespace LegacyScheme

def id : String := "v1"

def token : String := "Acquia"

/-- The last colon separates the id from the signature, and neither of them is empty. -/
def parse (s : LegacyScheme) (value : String) : Except AuthError Authorization :=
  if !Token.begins token value then .error (.wrongScheme token)
  else
    match Text.cutLast ':' (Text.trim (Token.credentials value)) with
    | some (id, signature) =>
      if id.isEmpty || signature.isEmpty then .error .malformedLegacy
      else
        .ok {
          id := String.ofList id
          realm := ""
          nonce := ""
          version := ""
          headers := s.headers
          signature := String.ofList signature }
    | none => .error .malformedLegacy

def render (a : Authorization) : String := token ++ " " ++ a.id ++ ":" ++ a.signature

/-- A further header field in the signed text. -/
def headerLine (r : Request) (name : String) : String :=
  Text.lower name ++ ": " ++ r.headers.getD name ""

def signedLines (r : Request) (a : Authorization) : List String :=
  [Text.upper r.method,
   Algorithm.md5.hashHex r.body,
   r.headers.getD Headers.contentType "",
   r.headers.getD Headers.date "",
   "\n".intercalate (a.headers.map (headerLine r)),
   r.resource]

def signedText (r : Request) (a : Authorization) : Octets :=
  Utf8.encode ("\n".intercalate (signedLines r a))

/-- The secret is used as it is. -/
def key (c : Credential) : Octets := Utf8.encode c.secret

/-- Parameters for a new signature, with the scheme's own header fields where none are given. -/
def newParameters (s : LegacyScheme) (id : String) (headers : List String) : Authorization where
  id
  realm := ""
  nonce := ""
  version := ""
  headers := if headers.isEmpty then s.headers else headers
  signature := ""

/-- A request that has a date keeps it. -/
def signingHeaders (r : Request) (timestamp : Int) : Except DateError (List (String × String)) :=
  if r.headers.contains Headers.date then .ok []
  else (HttpDate.format timestamp).map fun date => [(Headers.date, date)]

end LegacyScheme
end SignedHttp
