import SignedHttp.Environment
import SignedHttp.Registry

/-!
# Signing

* `Scheme.sign`: the signature and the Authorization value of a request under given parameters.
* `Scheme.createHeaders`: every header field that a request needs to be sent signed.
* `Registry.sign`, `Registry.createHeaders`, `Registry.signResponse`: the same with the scheme
  chosen by its id.
* `Environment.createHeaders`: the same with what is not given taken from the surroundings.
-/

set_option autoImplicit false

namespace SignedHttp

structure SignedRequest where
  signature : String
  /-- The Authorization value. -/
  header : String
  deriving DecidableEq

/-- Why the header fields of a signed request cannot be made. -/
inductive CreationError
  | signing (error : SigningError)
  | date (error : DateError)
  | clock (error : ClockError)
  | config (error : ConfigError)
  deriving DecidableEq

def CreationError.message : CreationError → String
  | .signing error => error.message
  | .date error => error.message
  | .clock error => error.message
  | .config error => error.message

namespace Scheme

/-- The key under which a credential signs with these parameters. -/
def signingKey (s : Scheme) (c : Credential) (a : Authorization) : Except SigningError Octets := do
  (s.check a).mapError .parameters
  (s.key c).mapError .secret

/-- The signature of a request, whose faults are looked for in the parameters first, then in the
secret, then in the header fields. -/
def signature (s : Scheme) (r : Request) (c : Credential) (a : Authorization) :
    Except SigningError String := do
  let key ← s.signingKey c a
  let text ← (s.signedText r a).mapError .missingHeader
  return s.digest.macBase64 key text

def sign (s : Scheme) (r : Request) (c : Credential) (a : Authorization) :
    Logged (Except SigningError SignedRequest) :=
  match s.signature r c a with
  | .error e => ⟨.error e, []⟩
  | .ok signature =>
    ⟨.ok ⟨signature, s.render (a.withSignature signature)⟩, [.requestSigned s.id c.id r.method]⟩

/-- The scheme's own header fields and, last, the Authorization value of the request that carries
them. -/
def createHeaders (s : Scheme) (r : Request) (c : Credential) (freshNonce realm : String)
    (nonce : Option String) (headersToSign : List String) (timestamp : Int) :
    Logged (Except CreationError (List (String × String))) :=
  match s.signingHeaders r timestamp with
  | .error e => ⟨.error (.date e), []⟩
  | .ok own =>
    let a := s.newParameters freshNonce c.id realm nonce headersToSign
    let signed := s.sign (r.withHeaders own) c a
    match signed.value with
    | .error e => ⟨.error (.signing e), signed.log⟩
    | .ok done => ⟨.ok (own ++ [(Headers.authorization, done.header)]), signed.log⟩

end Scheme

namespace Registry

def scheme (reg : Registry) (version : String) : Except SigningError Scheme :=
  match reg.find? version with
  | some s => .ok s
  | none => .error (.unknownVersion version)

def sign (reg : Registry) (r : Request) (c : Credential) (a : Authorization) (version : String) :
    Logged (Except SigningError SignedRequest) :=
  match reg.scheme version with
  | .error e => ⟨.error e, []⟩
  | .ok s => s.sign r c a

def createHeaders (reg : Registry) (r : Request) (c : Credential) (version : String)
    (freshNonce realm : String) (nonce : Option String) (headersToSign : List String)
    (timestamp : Int) : Logged (Except CreationError (List (String × String))) :=
  match reg.scheme version with
  | .error e => ⟨.error (.signing e), []⟩
  | .ok s => s.createHeaders r c freshNonce realm nonce headersToSign timestamp

/-- The signature of a response to a request with the given signature and parameters. -/
def signResponse (reg : Registry) (r : Response) (signature : String) (a : Authorization)
    (timestamp version : String) : Logged (Except SigningError String) :=
  match reg.scheme version with
  | .error e => ⟨.error e, []⟩
  | .ok s =>
    match s.signResponse r signature a timestamp with
    | .error e => ⟨.error e, []⟩
    | .ok signed => ⟨.ok signed, [.responseSigned s.id r.status]⟩

end Registry

namespace Environment

/-- The time of a new signature: the given one, or that of the clock. -/
def timestamp (env : Environment) : Option Int → Except ClockError Int
  | some n => .ok n
  | none => env.clock.seconds

/-- The scheme, the time and the realm of a new signature. What is not given is looked for in this
order: the registry, the time, the realm. -/
def prepare (env : Environment) (registry : Option Registry) (version : String)
    (realm : Option String) (timestamp : Option Int) :
    Except CreationError (Scheme × Int × String) := do
  let reg ← (env.registry registry).mapError .config
  let s ← (reg.scheme version).mapError .signing
  let time ← (env.timestamp timestamp).mapError .clock
  let realm ← (env.realm realm).mapError .config
  return (s, time, realm)

def createHeaders (env : Environment) (registry : Option Registry) (r : Request) (c : Credential)
    (version : String) (realm nonce : Option String) (headersToSign : List String)
    (timestamp : Option Int) : Logged (Except CreationError (List (String × String))) :=
  match env.prepare registry version realm timestamp with
  | .error e => ⟨.error e, []⟩
  | .ok (s, time, realm) => s.createHeaders r c env.freshNonce realm nonce headersToSign time

end Environment
end SignedHttp
