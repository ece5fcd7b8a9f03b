import SignedHttp.CredentialStore
import SignedHttp.Signing
import SignedHttp.Verification

/-!
# Exchanges

A client and a server that talk to each other: a request is made, changed, signed and verified, a
response to it is signed and verified, and the credentials behind it all come and go.

* `Exchange`: what the two sides hold at a moment.
* `Exchange.Step`, `Exchange.Reply`: what may happen, and what comes of it.
* `Exchange.perform`: one step.
-/

set_option autoImplicit false

namespace SignedHttp

structure Exchange where
  environment : Environment
  verifier : Verifier
  store : CredentialStore
  request : Option Request
  response : Option Response
  /-- The signature of the last request that was signed or parsed. -/
  signature : Option String
  /-- The parameters that went with it. -/
  parameters : Option Authorization

namespace Exchange

/-- Changes to single parts of a request. -/
structure Edit where
  method : Option String
  host : Option String
  path : Option String
  query : Option String
  body : Option Octets

def Edit.apply (e : Edit) (r : Request) : Request where
  method := e.method.getD r.method
  host := e.host.getD r.host
  path := e.path.getD r.path
  query := e.query.getD r.query
  headers := r.headers
  body := e.body.getD r.body

inductive Step
  | request (source : RequestSource)
  | setHeaders (fields : List (String × String))
  | addHeader (name value : String)
  | removeHeader (name : String)
  | edit (changes : Edit)
  | store (command : CredentialStore.Command)
  | create (id secret version : String) (realm nonce : Option String) (headersToSign : List String)
      (timestamp : Option Int)
  | sign (id secret : String) (parameters : Authorization) (version : String)
  | parse
  | verify (value : Option String)
  | respond (response : Response) (signed : Bool) (timestamp : String)
  | verifyResponse (timestamp : String) (claimed : Option String) (version : String)
      (body : Option Octets)

/-- Why a step comes to nothing. -/
inductive StepError
  | url (error : UrlError)
  | creation (error : CreationError)
  | signing (error : SigningError)
  | authorization (error : AuthError)
  | numeric (fault : NumericFault)
  | noMessage
  | nothingToEdit
  | noSignature

inductive Reply
  | done
  | request (request : Request)
  | fields (fields : List (String × String))
  | signed (signed : SignedRequest)
  | parameters (parameters : Authorization)
  | verdict (verdict : Verdict)
  | stored (reply : CredentialStore.Reply)
  | signature (signature : String)
  | failed (error : StepError)

/-- The beginning of an exchange. -/
def start (environment : Environment) (verifier : Verifier) (store : CredentialStore) :
    Exchange where
  environment
  verifier
  store
  request := none
  response := none
  signature := none
  parameters := none

/-- The stored credential for an id, else one with the given secret. -/
def credential (x : Exchange) (id secret : String) : Credential :=
  (x.store.get? id).getD ⟨id, secret⟩

/-- The reply to a step, the exchange after it, and what it logged. -/
structure Outcome where
  reply : Reply
  exchange : Exchange
  log : List LogEntry

def Outcome.fail (x : Exchange) (error : StepError) (log : List LogEntry) : Outcome :=
  ⟨.failed error, x, log⟩

/-- A change of the request in place. -/
def update (x : Exchange) (f : Request → Request) : Outcome :=
  match x.request with
  | some r => ⟨.done, { x with request := some (f r) }, []⟩
  | none => .fail x .noMessage []

def edit (x : Exchange) (changes : Edit) : Outcome :=
  match x.request with
  | some r => ⟨.request (changes.apply r), { x with request := some (changes.apply r) }, []⟩
  | none => .fail x .nothingToEdit []

def create (x : Exchange) (c : Credential) (version : String) (realm nonce : Option String)
    (headersToSign : List String) (timestamp : Option Int) : Outcome :=
  match x.request with
  | some r =>
    let made := x.environment.createHeaders (some x.verifier.registry) r c version realm nonce
      headersToSign timestamp
    match made.value with
    | .ok fields => ⟨.fields fields, { x with request := some (r.withHeaders fields) }, made.log⟩
    | .error e => .fail x (.creation e) made.log
  | none =>
    match x.environment.prepare (some x.verifier.registry) version realm timestamp with
    | .ok _ => .fail x .noMessage []
    | .error e => .fail x (.creation e) []

/-- The parameters are kept even if they cannot be signed. -/
def sign (x : Exchange) (c : Credential) (a : Authorization) (version : String) : Outcome :=
  let x := { x with parameters := some a }
  match x.request with
  | some r =>
    let signed := x.verifier.registry.sign r c a version
    match signed.value with
    | .ok done =>
      let r := r.withHeaders [(Headers.authorization, done.header)]
      ⟨.signed done, { x with request := some r, signature := some done.signature }, signed.log⟩
    | .error e => .fail x (.signing e) signed.log
  | none =>
    match x.verifier.registry.scheme version >>= (·.signingKey c a) with
    | .ok _ => .fail x .noMessage []
    | .error e => .fail x (.signing e) []

/-- Reads the Authorization value of the request, unless it belongs to no scheme. -/
def parse (x : Exchange) : Outcome :=
  match x.request with
  | some r =>
    let value := r.headers.get? Headers.authorization
    let found := x.verifier.registry.identify value
    match found.value with
    | some s =>
      match s.parse (value.getD "") with
      | .ok a =>
        ⟨.parameters a, { x with parameters := some a, signature := some a.signature }, found.log⟩
      | .error e => .fail x (.authorization e) found.log
    | none => ⟨.done, x, found.log⟩
  | none => .fail x .noMessage []

/-- What the log says of a given Authorization value before the request is looked at. -/
def identificationLog (x : Exchange) : Option String → List LogEntry
  | none => []
  | some value => (x.verifier.registry.identify (some value)).log

def verify (x : Exchange) (value : Option String) : Outcome :=
  match x.request with
  | some r =>
    let result := x.verifier.verify x.environment.clock x.store.get? r value
    match result.outcome with
    | .ok verdict => ⟨.verdict verdict, x, result.log⟩
    | .error fault => .fail x (.numeric fault) result.log
  | none => .fail x .noMessage (x.identificationLog value)

/-- A response is signed if that is asked for and a request was signed before. -/
def respond (x : Exchange) (response : Response) (signed : Bool) (timestamp : String) : Outcome :=
  let x := { x with response := some response }
  match signed, x.signature, x.parameters with
  | true, some signature, some a =>
    let made := x.verifier.registry.signResponse response signature a timestamp CurrentScheme.id
    match made.value with
    | .ok value =>
      let headers := response.headers.set Headers.responseSignature value
      ⟨.signature value, { x with response := some { response with headers } }, made.log⟩
    | .error e => .fail x (.signing e) made.log
  | _, _, _ => ⟨.done, x, []⟩

/-- Whether verifying a claimed value cannot do without the signature of a request, of which there
is none. -/
def lacksSignature (x : Exchange) (claimed : Option String) (version : String) : Bool :=
  x.signature.isNone && claimed.isSome &&
    match x.verifier.registry.find? version with
    | some (.current _) => true
    | _ => false

def verifyResponse (x : Exchange) (timestamp : String) (claimed : Option String)
    (version : String) (body : Option Octets) : Outcome :=
  match x.response with
  | some response =>
    let response := { response with body := body.getD response.body }
    let unknown : Authorization := ⟨"", "", "", "", [], ""⟩
    if x.lacksSignature (claimed.or (response.headers.get? Headers.responseSignature)) version then
      .fail x .noSignature []
    else
      let result := x.verifier.verifyResponse response (x.signature.getD "")
        (x.parameters.getD unknown) timestamp claimed version
      ⟨.verdict result.value, x, result.log⟩
  | none =>
    if body.isSome then .fail x .nothingToEdit []
    else if x.lacksSignature claimed version then .fail x .noSignature []
    else .fail x .noMessage []

def perform (x : Exchange) : Step → Outcome
  | .request source =>
    match source.build with
    | .ok r => ⟨.request r, { x with request := some r }, []⟩
    | .error e => .fail x (.url e) []
  | .setHeaders fields => x.update (·.withHeaders fields)
  | .addHeader name value => x.update fun r => { r with headers := r.headers.push name value }
  | .removeHeader name => x.update fun r => { r with headers := r.headers.erase name }
  | .edit changes => x.edit changes
  | .store command =>
    let (reply, store) := x.store.perform command
    ⟨.stored reply, { x with store }, []⟩
  | .create id secret version realm nonce headersToSign timestamp =>
    x.create (x.credential id secret) version realm nonce headersToSign timestamp
  | .sign id secret a version => x.sign (x.credential id secret) a version
  | .parse => x.parse
  | .verify value => x.verify value
  | .respond response signed timestamp => x.respond response signed timestamp
  | .verifyResponse timestamp claimed version body =>
    x.verifyResponse timestamp claimed version body

/-- Sets the clock for what follows. -/
def setClock (x : Exchange) (clock : Clock) : Exchange :=
  { x with environment := { x.environment with clock } }

end Exchange
end SignedHttp
