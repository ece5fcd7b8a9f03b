import SignedHttp.Message
import SignedHttp.Raw.Points

/-!
# Messages with raw texts

Requests, responses and what authenticates them, where each text may hold lone surrogates.

* `Raw.Headers`, `Raw.Request`, `Raw.Response`, `Raw.Authorization`, `Raw.Credential`.
* `Headers.raw`, `Request.raw`, `Response.raw`, `Authorization.raw`, `Credential.raw`: the messages
  without lone surrogates among them.
-/

set_option autoImplicit false

namespace SignedHttp
namespace Raw

/-- Header fields in order. -/
structure Headers where
  items : List (Points × Points)
  deriving DecidableEq

namespace Headers

/-- Whether two names differ in letter case at most. -/
def sameName (a b : Points) : Bool := a.lower == b.lower

/-- The first value of a name. -/
def get? (h : Headers) (name : Points) : Option Points :=
  (h.items.find? (sameName ·.1 name)).map (·.2)

/-- The first value of a name, empty if there is none. -/
def getD (h : Headers) (name : Points) : Points := (h.get? name).getD []

def contains (h : Headers) (name : Points) : Bool := (h.get? name).isSome

end Headers

structure Request where
  method : Points
  host : Points
  path : Points
  query : Points
  headers : Headers
  body : Octets
  deriving DecidableEq

/-- The path with the query after it, if there is one. -/
def Request.resource (r : Request) : Points :=
  if r.query.isEmpty then r.path else r.path ++ Points.ofString "?" ++ r.query

structure Response where
  status : Int
  headers : Headers
  body : Octets
  deriving DecidableEq

/-- The fields of an Authorization header. -/
structure Authorization where
  id : Points
  realm : Points
  nonce : Points
  version : Points
  headers : List Points
  signature : Points
  deriving DecidableEq

def Authorization.withSignature (a : Authorization) (signature : Points) : Authorization :=
  { a with signature }

structure Credential where
  id : Points
  secret : Points
  deriving DecidableEq

end Raw

open Points (ofString)

def Headers.raw (h : Headers) : Raw.Headers :=
  ⟨h.items.map fun (name, value) => (ofString name, ofString value)⟩

def Request.raw (r : Request) : Raw.Request where
  method := ofString r.method
  host := ofString r.host
  path := ofString r.path
  query := ofString r.query
  headers := r.headers.raw
  body := r.body

def Response.raw (r : Response) : Raw.Response where
  status := r.status
  headers := r.headers.raw
  body := r.body

def Authorization.raw (a : Authorization) : Raw.Authorization where
  id := ofString a.id
  realm := ofString a.realm
  nonce := ofString a.nonce
  version := ofString a.version
  headers := a.headers.map ofString
  signature := ofString a.signature

def Credential.raw (c : Credential) : Raw.Credential where
  id := ofString c.id
  secret := ofString c.secret

end SignedHttp
