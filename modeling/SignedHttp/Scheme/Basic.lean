import SignedHttp.Scheme.Current
import SignedHttp.Scheme.Legacy

/-!
# Schemes

The two schemes under one roof. Each has its own Authorization value, signed text and use of the
secret.

* `Scheme`: one of the two, with its settings.
* `Scheme.identifies`: whether an Authorization value belongs to it.
* `Scheme.parse`, `Scheme.render`, `Scheme.signedText`, `Scheme.key` and so on: what the schemes
  have in common.
-/

set_option autoImplicit false

namespace SignedHttp

inductive Scheme
  | legacy (scheme : LegacyScheme)
  | current (scheme : CurrentScheme)
  deriving DecidableEq

namespace Scheme

/-- The id under which a scheme is registered. -/
def id : Scheme → String
  | legacy _ => LegacyScheme.id
  | current _ => CurrentScheme.id

def token : Scheme → String
  | legacy _ => LegacyScheme.token
  | current _ => CurrentScheme.token

def digest : Scheme → Algorithm
  | legacy s => s.digest
  | current s => s.digest

/-- How a scheme is shown, for instance `LegacyProtocol(SHA1)`. -/
def shown : Scheme → String
  | legacy s => s!"LegacyProtocol({s.digest.name})"
  | current s => s!"CurrentProtocol({s.digest.name})"

def identifies (s : Scheme) (value : String) : Bool := Token.begins s.token value

/-- A value that is no text belongs to no scheme. -/
def identifiesValue (s : Scheme) (v : Value) : Bool := v.text?.any s.identifies

def parse (s : Scheme) (value : String) : Except AuthError Authorization :=
  match s with
  | legacy s => s.parse value
  | current s => s.parse value

def render (s : Scheme) (a : Authorization) : String :=
  match s with
  | legacy _ => LegacyScheme.render a
  | current _ => CurrentScheme.render a

def signedText (s : Scheme) (r : Request) (a : Authorization) : Except MissingHeader Octets :=
  match s with
  | legacy _ => .ok (LegacyScheme.signedText r a)
  | current _ => CurrentScheme.signedText r a

def key (s : Scheme) (c : Credential) : Except SecretFault Octets :=
  match s with
  | legacy _ => .ok (LegacyScheme.key c)
  | current _ => CurrentScheme.key c

/-- Whether the scheme signs under these parameters. -/
def check (s : Scheme) (a : Authorization) : Except ParameterFault Unit :=
  match s with
  | legacy _ => .ok ()
  | current s => s.check a

/-- Parameters for a new signature. -/
def newParameters (s : Scheme) (freshNonce id realm : String) (nonce : Option String)
    (headers : List String) : Authorization :=
  match s with
  | legacy s => s.newParameters id headers
  | current _ => CurrentScheme.newParameters freshNonce id realm nonce headers

/-- The header fields without which a request is not verified. -/
def requiredHeaders (s : Scheme) (r : Request) (a : Authorization) : List String :=
  match s with
  | legacy _ => []
  | current _ => CurrentScheme.requiredHeaders r a

/-- The header fields that a request gets before it is signed. -/
def signingHeaders (s : Scheme) (r : Request) (timestamp : Int) :
    Except DateError (List (String × String)) :=
  match s with
  | legacy _ => LegacyScheme.signingHeaders r timestamp
  | current _ => .ok (CurrentScheme.signingHeaders r timestamp)

def signResponse (s : Scheme) (r : Response) (signature : String) (a : Authorization)
    (timestamp : String) : Except SigningError String :=
  match s with
  | legacy _ => .error (.responsesUnsigned LegacyScheme.id)
  | current s => s.signResponse r signature a timestamp

end Scheme
end SignedHttp
