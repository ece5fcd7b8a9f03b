import SignedHttp.Query
import SignedHttp.Raw.Error
import SignedHttp.Raw.Message
import SignedHttp.Scheme.Basic

/-!
# The schemes over raw texts

What the two schemes sign, where each text may hold lone surrogates.  Each step fails in the order
in which it goes on, so that a text which cannot be written may hide a header field that is missing,
or the other way round.

* `Raw.Query.normalize`: the normal form of a query.
* `Raw.LegacyScheme.signedText`, `Raw.CurrentScheme.signedText`: what is signed.
* `Raw.CurrentScheme.check`, `Raw.CurrentScheme.key`: the parameters and secrets that may be used.
* `Raw.Scheme`: the two schemes under one roof, as far as they sign.
* `Scheme.raw`: the schemes whose header names have no lone surrogates.
-/

set_option autoImplicit false

namespace SignedHttp
namespace Raw

open Points (ofString join)

/-! ## Queries -/

namespace Query

def decodePair (piece : Points) : Points × Points :=
  match Text.cutFirst (.scalar '=') piece with
  | some (name, value) => (Points.decodeForm name, Points.decodeForm value)
  | none => (Points.decodeForm piece, [])

def pairs (query : Points) : List (Points × Points) :=
  ((Text.pieces (· == .scalar '&') query).filter (!·.isEmpty)).map decodePair

/-- Code point order of the names, then of the values. -/
def pairLe (p q : Points × Points) : Bool :=
  if p.1 = q.1 then p.2.le q.2 else p.1.le q.1

def sortPairs (ps : List (Points × Points)) : List (Points × Points) := ps.mergeSort pairLe

/-- A pair as it is written, the name first. -/
def encodePair (p : Points × Points) : Except EncodeError String := do
  let name ← p.1.quote
  let value ← p.2.quote
  return name ++ "=" ++ value

def normalize (query : Points) : Except EncodeError String := do
  let written ← (sortPairs (pairs query)).mapM encodePair
  return "&".intercalate written

end Query

/-! ## The first scheme -/

namespace LegacyScheme

def render (a : Authorization) : Points :=
  ofString (SignedHttp.LegacyScheme.token ++ " ") ++ a.id ++ ofString ":" ++ a.signature

/-- A further header field in the signed text. -/
def headerLine (r : Request) (name : Points) : Points :=
  name.lower ++ ofString ": " ++ r.headers.getD name

def signedLines (r : Request) (a : Authorization) : List Points :=
  [r.method.upper,
   ofString (Algorithm.md5.hashHex r.body),
   r.headers.getD (ofString Headers.contentType),
   r.headers.getD (ofString Headers.date),
   join "\n" (a.headers.map (headerLine r)),
   r.resource]

def signedText (r : Request) (a : Authorization) : Except EncodeError Octets :=
  (join "\n" (signedLines r a)).encode

def key (c : Credential) : Except EncodeError Octets := c.secret.encode

end LegacyScheme

/-! ## The second scheme -/

structure CurrentScheme where
  digest : Algorithm
  allowed : List Points
  deriving DecidableEq

namespace CurrentScheme

def version : Points := ofString SignedHttp.CurrentScheme.version

def allows (s : CurrentScheme) (name : Points) : Bool :=
  s.allowed.isEmpty || s.allowed.any (Headers.sameName · name)

def disallowed (s : CurrentScheme) (names : List Points) : List Points :=
  names.filter (!s.allows ·)

/-- The names of the blank parameters among those that must not be blank. -/
def blankParameters (a : Authorization) : List String :=
  ([("id", a.id), ("nonce", a.nonce), ("version", a.version)].filter (·.2.isEmpty)).map (·.1)

def check (s : CurrentScheme) (a : Authorization) : Except ParameterFault Unit :=
  if !(blankParameters a).isEmpty then .error (.missing (blankParameters a))
  else if a.version ≠ version then .error (.unsupportedVersion a.version)
  else if !(s.disallowed a.headers).isEmpty then
    .error (.headersNotAllowed (s.disallowed a.headers))
  else .ok ()

/-- The octets that a text in base 64 stands for.  A surrogate is foreign to the alphabet. -/
def decodeStrict? (t : Points) : Option Octets := t.text?.bind Base64.decodeStrict?

def key (c : Credential) : Except SecretFault Octets :=
  match decodeStrict? c.secret with
  | none => .error (.notBase64 c.id)
  | some bytes => if bytes.isEmpty then .error (.empty c.id) else .ok bytes

/-- A field of an Authorization value, unless it is blank. -/
def renderField (name : String) (value : Points) : Option Points :=
  if value.isEmpty then none else some (ofString (name ++ "=\"") ++ value ++ ofString "\"")

def render (a : Authorization) : Except EncodeError Points := do
  let headers ← a.headers.mapM Points.quote
  let id ← a.id.quote
  let nonce ← a.nonce.quote
  let realm ← a.realm.quote
  let fields :=
    [("headers", ofString (",".intercalate headers)), ("id", ofString id),
     ("nonce", ofString nonce), ("realm", ofString realm), ("signature", a.signature),
     ("version", a.version)]
  let present := fields.filterMap fun (name, value) => renderField name value
  return ofString (SignedHttp.CurrentScheme.token ++ " ") ++ join "," present

/-! ### The signed text -/

def slash : Point := .scalar '/'

/-- A path without the slashes at its end; the root keeps its own. -/
def normalizePath (path : Points) : Points :=
  match (path.reverse.dropWhile (· == slash)).reverse with
  | [] => [slash]
  | trimmed => trimmed

/-- A parameter in the line that binds them. -/
def encodeParameter (p : String × Points) : Except EncodeError String :=
  p.2.quote.map fun value => p.1 ++ "=" ++ value

/-- The line that binds the parameters. -/
def parameterLine (a : Authorization) : Except EncodeError String :=
  ([("id", a.id), ("nonce", a.nonce), ("realm", a.realm), ("version", a.version)].mapM
    encodeParameter).map ("&".intercalate ·)

def signedHeaderLine (r : Request) (name : Points) : Except MissingHeader Points :=
  match r.headers.get? name with
  | some value => .ok (name.lower ++ ofString ":" ++ value)
  | none => .error (.signed name)

def requiredValue (r : Request) (name : String) : Except MissingHeader Points :=
  match r.headers.get? (ofString name) with
  | some value => .ok value
  | none => .error (.required name)

/-- The lines for the body, which a request without one does not have. -/
def bodyLines (r : Request) : Except MissingHeader (List Points) :=
  if r.body.isEmpty then .ok []
  else
    (requiredValue r Headers.contentDigest).map fun digest =>
      [r.headers.getD (ofString Headers.contentType), digest]

/-- The lines for the header fields, the named ones first. -/
def fieldLines (r : Request) (a : Authorization) : Except MissingHeader (List Points) := do
  let headerLines ← a.headers.mapM (signedHeaderLine r)
  let timestamp ← requiredValue r Headers.timestamp
  let bodyLines ← bodyLines r
  return headerLines ++ timestamp :: bodyLines

/-- What is signed.  The query and the parameters are percent-encoded before any header field is
looked for, and all the lines are written in UTF-8 after that. -/
def signedText (r : Request) (a : Authorization) : Except (Failure MissingHeader) Octets := do
  let query ← (Query.normalize r.query).mapError .encoding
  let parameters ← (parameterLine a).mapError .encoding
  let fields ← (fieldLines r a).mapError .cause
  let first :=
    [r.method.upper, r.host.lower, normalizePath r.path, ofString query, ofString parameters]
  (join "\n" (first ++ fields)).encode.mapError .encoding

/-- The header fields without which a request is not verified. -/
def requiredHeaders (r : Request) (a : Authorization) : List Points :=
  ofString Headers.timestamp ::
    (if r.body.isEmpty then [] else [ofString Headers.contentDigest]) ++ a.headers

/-! ### Responses -/

def responseText (r : Response) (a : Authorization) (timestamp : Points) :
    Except EncodeError Octets :=
  (a.nonce ++ ofString "\n" ++ timestamp ++ ofString "\n").encode.map (· ++ r.body)

/-- The signature of a response.  Its key is the signature of the request. -/
def signResponse (s : CurrentScheme) (r : Response) (signature : Points) (a : Authorization)
    (timestamp : Points) : Except (Failure SigningError) String :=
  match decodeStrict? signature with
  | none => .error (.cause .signatureNotBase64)
  | some key =>
    if key.isEmpty then .error (.cause .signatureEmpty)
    else ((responseText r a timestamp).mapError .encoding).map (s.digest.macBase64 key)

end CurrentScheme

/-! ## Both schemes -/

/-- The header fields of the first scheme matter for reading and for new parameters only. -/
inductive Scheme
  | legacy (digest : Algorithm)
  | current (scheme : CurrentScheme)
  deriving DecidableEq

namespace Scheme

def id : Scheme → String
  | legacy _ => SignedHttp.LegacyScheme.id
  | current _ => SignedHttp.CurrentScheme.id

def digest : Scheme → Algorithm
  | legacy digest => digest
  | current s => s.digest

def check (s : Scheme) (a : Authorization) : Except ParameterFault Unit :=
  match s with
  | legacy _ => .ok ()
  | current s => s.check a

def key (s : Scheme) (c : Credential) : Except (Failure SecretFault) Octets :=
  match s with
  | legacy _ => (LegacyScheme.key c).mapError .encoding
  | current _ => (CurrentScheme.key c).mapError .cause

def signedText (s : Scheme) (r : Request) (a : Authorization) :
    Except (Failure MissingHeader) Octets :=
  match s with
  | legacy _ => (LegacyScheme.signedText r a).mapError .encoding
  | current _ => CurrentScheme.signedText r a

/-- The header fields without which a request is not verified. -/
def requiredHeaders (s : Scheme) (r : Request) (a : Authorization) : List Points :=
  match s with
  | legacy _ => []
  | current _ => CurrentScheme.requiredHeaders r a

def render (s : Scheme) (a : Authorization) : Except EncodeError Points :=
  match s with
  | legacy _ => .ok (LegacyScheme.render a)
  | current _ => CurrentScheme.render a

def signResponse (s : Scheme) (r : Response) (signature : Points) (a : Authorization)
    (timestamp : Points) : Except (Failure SigningError) String :=
  match s with
  | legacy _ => .error (.cause (.responsesUnsigned SignedHttp.LegacyScheme.id))
  | current s => s.signResponse r signature a timestamp

end Scheme
end Raw

open Points (ofString)

def CurrentScheme.raw (s : CurrentScheme) : Raw.CurrentScheme := ⟨s.digest, s.allowed.map ofString⟩

def Scheme.raw : Scheme → Raw.Scheme
  | legacy s => .legacy s.digest
  | current s => .current s.raw

end SignedHttp
