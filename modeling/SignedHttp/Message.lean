import SignedHttp.Headers
import SignedHttp.Text.Utf8
import SignedHttp.Url.Split

/-!
# Requests, responses and what authenticates them

* `Request`, `Response`: the messages that are signed.
* `Request.ofUrl`: a request for a URL.
* `Request.withHeaders`: a request with some header fields set.
* `RequestSource`: the two ways to give a request.
* `Authorization`: what an Authorization header says.
* `Credential`: an id and the secret that its holder shares with the server.
-/

set_option autoImplicit false

namespace SignedHttp

/-- A request as signer and verifier see it. -/
structure Request where
  method : String
  host : String
  path : String
  query : String
  headers : Headers
  body : Octets
  deriving DecidableEq

/-- A response whose body has been captured. -/
structure Response where
  status : Int
  headers : Headers
  body : Octets
  deriving DecidableEq

/-- The fields of an Authorization header. `headers` names the further header fields that are
signed, in the order of signing. -/
structure Authorization where
  id : String
  realm : String
  nonce : String
  version : String
  headers : List String
  signature : String
  deriving DecidableEq

structure Credential where
  id : String
  secret : String
  deriving DecidableEq

namespace Request

/-- A request for a URL. A Host header with a value takes the place of the URL's host. -/
def ofUrl (method url : String) (headers : Headers) (body : Octets) : Except UrlError Request := do
  let parts ← Url.split url
  let given := headers.getD Headers.host ""
  let host := if given.isEmpty then String.ofList (Url.hostPort parts.authority.toList) else given
  return {
    method := Text.upper method
    host
    path := if parts.path.isEmpty then "/" else parts.path
    query := parts.query
    headers
    body }

/-- The path with the query after it, if there is one. -/
def resource (r : Request) : String :=
  if r.query.isEmpty then r.path else r.path ++ "?" ++ r.query

def withHeaders (r : Request) (fields : List (String × String)) : Request :=
  { r with headers := r.headers.setAll fields }

end Request

/-- How a request is given: by its URL, or part by part. -/
inductive RequestSource
  | url (method address : String) (headers : Headers) (body : Octets)
  | parts (request : Request)

def RequestSource.build : RequestSource → Except UrlError Request
  | .url method address headers body => Request.ofUrl method address headers body
  | .parts request => .ok request

def Authorization.withSignature (a : Authorization) (signature : String) : Authorization :=
  { a with signature }

end SignedHttp
