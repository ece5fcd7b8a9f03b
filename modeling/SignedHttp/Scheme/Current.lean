import SignedHttp.Digest.Algorithm
import SignedHttp.Error
import SignedHttp.Message
import SignedHttp.Query
import SignedHttp.Scheme.Fields
import SignedHttp.Scheme.Token

/-!
# The second scheme

An Authorization value holds quoted fields in the order of their names, with empty ones left out:
`acquia-http-hmac headers="…",id="…",nonce="…",realm="…",signature="…",version="2.0"`. The signed
text is the request in a normal form, one component a line. Responses are signed too, under the
signature of the request that they answer.

* `CurrentScheme.parse`, `CurrentScheme.render`: reading and writing the Authorization value.
* `CurrentScheme.check`: the parameters that may be signed.
* `CurrentScheme.signedLines`, `CurrentScheme.signedText`: what is signed.
* `CurrentScheme.requiredHeaders`, `CurrentScheme.signingHeaders`: the header fields that a request
  must have, and those that it gets before it is signed.
* `CurrentScheme.responseText`, `CurrentScheme.signResponse`: responses.
-/

set_option autoImplicit false

namespace SignedHttp

/-- The scheme with its digest and the header fields that may be signed; none named allows any. -/
structure CurrentScheme where
  digest : Algorithm
  allowed : List String
  deriving DecidableEq

namespace CurrentScheme

def id : String := "v2"

def token : String := "acquia-http-hmac"

def version : String := "2.0"

/-! ## The Authorization value -/

def allows (s : CurrentScheme) (name : String) : Bool :=
  s.allowed.isEmpty || s.allowed.any (Headers.sameName · name)

/-- The allowed names in lower case, sorted, each once. -/
def allowedNames (s : CurrentScheme) : List String :=
  (s.allowed.map Text.lower).eraseDups.mergeSort fun a b => decide (a ≤ b)

def disallowed (s : CurrentScheme) (names : List String) : List String :=
  names.filter (!s.allows ·)

/-- The names among the given fields whose value is blank. -/
def blankNames (fields : List (String × String)) : List String :=
  (fields.filter (·.2.isEmpty)).map (·.1)

/-- The names in a list that commas or semicolons separate, without blanks around them. -/
def splitNames (names : String) : List String :=
  let trimmed := (Text.pieces (fun c => c == ',' || c == ';') names.toList).map Text.trim
  (trimmed.filter (!·.isEmpty)).map String.ofList

/-- The faults of parameters in order: blank ones, the version, header names. -/
def checkParameters (s : CurrentScheme) (fields : List (String × String)) (version : String)
    (headers : List String) : Except ParameterFault Unit :=
  if !(blankNames fields).isEmpty then .error (.missing (blankNames fields))
  else if version ≠ CurrentScheme.version then .error (.unsupportedVersion version)
  else if !(s.disallowed headers).isEmpty then .error (.headersNotAllowed (s.disallowed headers))
  else .ok ()

/-- The parameters that quoted fields give, checked or not. -/
def ofFields (fields : List (List Char × List Char)) : Authorization where
  id := Fields.lastD fields "id"
  realm := Fields.lastD fields "realm"
  nonce := Fields.lastD fields "nonce"
  version := Fields.lastD fields "version"
  headers := splitNames (Fields.lastD fields "headers")
  signature := Fields.lastD fields "signature"

def parse (s : CurrentScheme) (value : String) : Except AuthError Authorization :=
  if !Token.begins token value then .error (.wrongScheme token)
  else
    let a := ofFields (Fields.scan (Token.credentials value))
    let needed :=
      [("id", a.id), ("nonce", a.nonce), ("version", a.version), ("signature", a.signature)]
    match s.checkParameters needed a.version a.headers with
    | .ok () => .ok a
    | .error fault => .error (.parameters fault)

/-- The fields of an Authorization value in the order of their names. -/
def fields (a : Authorization) : List (String × String) :=
  [("headers", ",".intercalate (a.headers.map Percent.encode)),
   ("id", Percent.encode a.id),
   ("nonce", Percent.encode a.nonce),
   ("realm", Percent.encode a.realm),
   ("signature", a.signature),
   ("version", a.version)]

def render (a : Authorization) : String :=
  let present := (fields a).filter (!·.2.isEmpty)
  token ++ " " ++ ",".intercalate (present.map fun (name, value) => Fields.render name value)

/-- Parameters that cannot be read back are not signed. -/
def check (s : CurrentScheme) (a : Authorization) : Except ParameterFault Unit :=
  s.checkParameters [("id", a.id), ("nonce", a.nonce), ("version", a.version)] a.version a.headers

/-- Parameters for a new signature, with a fresh nonce where none is given. -/
def newParameters (freshNonce id realm : String) (nonce : Option String) (headers : List String) :
    Authorization where
  id
  realm
  nonce := if (nonce.getD "").isEmpty then freshNonce else nonce.getD ""
  version := version
  headers
  signature := ""

/-! ## The signed text -/

/-- A path without the slashes at its end; the root keeps its own. -/
def normalizePath (path : String) : String :=
  match (path.toList.reverse.dropWhile (· == '/')).reverse with
  | [] => "/"
  | cs => String.ofList cs

/-- The line that binds the parameters. -/
def parameterLine (a : Authorization) : String :=
  "&".intercalate <|
    [("id", a.id), ("nonce", a.nonce), ("realm", a.realm), ("version", a.version)].map
      fun (name, value) => name ++ "=" ++ Percent.encode value

def signedHeaderLine (r : Request) (name : String) : Except MissingHeader String :=
  match r.headers.get? name with
  | some value => .ok (Text.lower name ++ ":" ++ value)
  | none => .error (.signed name)

def requiredValue (r : Request) (name : String) : Except MissingHeader String :=
  match r.headers.get? name with
  | some value => .ok value
  | none => .error (.required name)

/-- The lines for the body, which a request without one does not have. -/
def bodyLines (r : Request) : Except MissingHeader (List String) :=
  if r.body.isEmpty then .ok []
  else
    (requiredValue r Headers.contentDigest).map fun digest =>
      [r.headers.getD Headers.contentType "", digest]

/-- The lines of the signed text, or the first header field that one of them lacks. -/
def signedLines (r : Request) (a : Authorization) : Except MissingHeader (List String) := do
  let headerLines ← a.headers.mapM (signedHeaderLine r)
  let timestamp ← requiredValue r Headers.timestamp
  let bodyLines ← bodyLines r
  let first :=
    [Text.upper r.method, Text.lower r.host, normalizePath r.path, Query.normalize r.query,
     parameterLine a]
  return first ++ headerLines ++ timestamp :: bodyLines

def signedText (r : Request) (a : Authorization) : Except MissingHeader Octets :=
  (signedLines r a).map fun lines => Utf8.encode ("\n".intercalate lines)

/-- The secret in base 64. A key for the first scheme is usually not of that form. -/
def key (c : Credential) : Except SecretFault Octets :=
  match Base64.decodeStrict? c.secret with
  | none => .error (.notBase64 c.id)
  | some bytes => if bytes.isEmpty then .error (.empty c.id) else .ok bytes

def requiredHeaders (r : Request) (a : Authorization) : List String :=
  Headers.timestamp :: (if r.body.isEmpty then [] else [Headers.contentDigest]) ++ a.headers

def signingHeaders (r : Request) (timestamp : Int) : List (String × String) :=
  (Headers.timestamp, toString timestamp) ::
    if r.body.isEmpty then [] else [(Headers.contentDigest, Algorithm.sha256.hashBase64 r.body)]

/-! ## Responses -/

/-- What is signed of a response: the nonce and the timestamp of the request, and the body. -/
def responseText (r : Response) (a : Authorization) (timestamp : String) : Octets :=
  Utf8.encode (a.nonce ++ "\n" ++ timestamp ++ "\n") ++ r.body

/-- The signature of a response. Its key is the signature of the request. -/
def signResponse (s : CurrentScheme) (r : Response) (signature : String) (a : Authorization)
    (timestamp : String) : Except SigningError String :=
  match Base64.decodeStrict? signature with
  | none => .error .signatureNotBase64
  | some key =>
    if key.isEmpty then .error .signatureEmpty
    else .ok (s.digest.macBase64 key (responseText r a timestamp))

end CurrentScheme
end SignedHttp
