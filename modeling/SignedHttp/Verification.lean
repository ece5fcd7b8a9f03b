import SignedHttp.Environment
import SignedHttp.Registry
import SignedHttp.Timestamp

/-!
# Verification

A request is verified in one pass. The checks run in a fixed order and the first failure ends it:
scheme, Authorization value, required header fields, credential, secret, time window, content
digest, signature. Responses are verified against the request that they answer.

* `Verdict`: acceptance, or rejection with its cause.
* `Verification`: a verdict, with the ids whose credential was asked for and the log.
* `Scheme.authorize`, `Scheme.judge`: the checks before and after the credential is known.
* `Verifier.verify`, `Verifier.verifyResponse`: the whole pass.
-/

set_option autoImplicit false

namespace SignedHttp

inductive Verdict
  | accepted (version identity : String)
  | rejected (version : Option String) (error : AuthError)

namespace Verdict

def isOk : Verdict → Bool
  | accepted .. => true
  | rejected .. => false

/-- The version that was recognized, if any. -/
def version? : Verdict → Option String
  | accepted version _ => some version
  | rejected version _ => version

def identity? : Verdict → Option String
  | accepted _ identity => some identity
  | rejected .. => none

def error? : Verdict → Option AuthError
  | accepted .. => none
  | rejected _ error => some error

end Verdict

/-- What verifying a request came to. -/
structure Verification where
  outcome : Except NumericFault Verdict
  /-- The ids whose credential was asked for. -/
  asked : List String
  log : List LogEntry

/-- A body's digest must be declared exactly as it is written in base 64, and only for a body. -/
def checkContentDigest (alg : Algorithm) (body : Octets) (claimed : String) :
    Except AuthError Unit :=
  if body.isEmpty then .error .digestWithoutBody
  else if alg.hashBase64 body = claimed then .ok ()
  else .error .digestMismatch

namespace Scheme

/-- The parameters of an Authorization value, provided that the request has every header field that
they ask for. -/
def authorize (s : Scheme) (r : Request) (value : String) : Except AuthError Authorization := do
  let a ← s.parse value
  let missing := (s.requiredHeaders r a).filter (!r.headers.contains ·)
  if missing.isEmpty then return a else .error (.missingHeaders missing)

/-- The time window of the second scheme. -/
def checkTime (s : Scheme) (clock : Clock) (tolerance : Int) (r : Request) : Except Halt Unit :=
  match s with
  | legacy _ => .ok ()
  | current _ =>
    let declared := LogEntry.optional (r.headers.get? Headers.timestamp)
    (Timestamp.check clock tolerance declared).map fun _ => ()

/-- The content digest of the second scheme, where one is declared. -/
def checkBody (s : Scheme) (r : Request) : Except AuthError Unit :=
  match s, r.headers.get? Headers.contentDigest with
  | current _, some claimed => checkContentDigest .sha256 r.body claimed
  | _, _ => .ok ()

def checkSignature (s : Scheme) (r : Request) (a : Authorization) (key : Octets) :
    Except AuthError Unit := do
  let text ← (s.signedText r a).mapError .missingHeader
  if s.digest.macBase64 key text = a.signature then return else .error .signatureMismatch

/-- The checks for which the credential is needed. -/
def judge (s : Scheme) (clock : Clock) (tolerance : Int) (r : Request) (a : Authorization)
    (c : Credential) : Except Halt Unit := do
  let key ← (s.key c).mapError fun fault => .rejected (.secret fault)
  s.checkTime clock tolerance r
  (s.checkBody r).mapError .rejected
  (s.checkSignature r a key).mapError .rejected

end Scheme

/-- What a server verifies with. -/
structure Verifier where
  registry : Registry
  /-- The accepted difference between clock and timestamp in seconds. -/
  tolerance : Int

namespace Verifier

/-- A rejection, which the log reports. -/
def reject (r : Request) (version : Option String) (error : AuthError) (asked : List String)
    (log : List LogEntry) : Verification where
  outcome := .ok (.rejected version error)
  asked
  log := log ++ [.requestRejected version error r.method (.text r.path)]

/-- The pass from the credential on. -/
def conclude (v : Verifier) (clock : Clock) (s : Scheme) (r : Request) (a : Authorization)
    (found : Option Credential) : Verification :=
  match found with
  | none => reject r (some s.id) (.unknownId a.id) [a.id] []
  | some c =>
    match s.judge clock v.tolerance r a c with
    | .ok () => ⟨.ok (.accepted s.id c.id), [a.id], [.requestVerified s.id c.id]⟩
    | .error (.rejected error) => reject r (some s.id) error [a.id] []
    | .error (.fault fault) => ⟨.error fault, [a.id], []⟩

/-- Verifies a request under a given Authorization value. -/
def verifyValue (v : Verifier) (clock : Clock) (lookup : String → Option Credential)
    (r : Request) (value : Option String) : Verification :=
  let found := v.registry.identify value
  match found.value with
  | none =>
    let blank := (value.getD "").isEmpty
    reject r none (if blank then .missingAuthorization else .unrecognizedScheme) [] found.log
  | some s =>
    match s.authorize r (value.getD "") with
    | .error error => reject r (some s.id) error [] []
    | .ok a => v.conclude clock s r a (lookup a.id)

/-- Verifies a request under the given Authorization value, else under its own. -/
def verify (v : Verifier) (clock : Clock) (lookup : String → Option Credential) (r : Request)
    (value : Option String) : Verification :=
  v.verifyValue clock lookup r (value.or (r.headers.get? Headers.authorization))

/-- The check of a response's signature, the given one or else its own. -/
def checkResponse (v : Verifier) (r : Response) (signature : String) (a : Authorization)
    (timestamp : String) (claimed : Option String) (version : String) : Except AuthError Unit := do
  match claimed.or (r.headers.get? Headers.responseSignature) with
  | none => .error (.missingHeader (.required Headers.responseSignature))
  | some claimed =>
    let s ←
      match v.registry.find? version with
      | some s => pure s
      | none => .error (.responseUnsignable (.unknownVersion version))
    let expected ← (s.signResponse r signature a timestamp).mapError .responseUnsignable
    if expected = claimed then return else .error .responseSignatureMismatch

/-- Verifies a response to a request that had the given signature, parameters and timestamp. -/
def verifyResponse (v : Verifier) (r : Response) (signature : String) (a : Authorization)
    (timestamp : String) (claimed : Option String) (version : String) : Logged Verdict :=
  match v.checkResponse r signature a timestamp claimed version with
  | .ok () => ⟨.accepted version a.id, []⟩
  | .error error =>
    ⟨.rejected (some version) error, [.responseRejected version error r.status]⟩

end Verifier

/-- A verifier with what is not given taken from the settings, the registry first. -/
def Environment.verifier (env : Environment) (registry : Option Registry)
    (tolerance : Option Int) : Except ConfigError Verifier := do
  let registry ← env.registry registry
  let tolerance ← env.tolerance tolerance
  return { registry, tolerance }

end SignedHttp
