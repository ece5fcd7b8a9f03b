import SignedHttp.Base64
import SignedHttp.Query
import SignedHttp.Verification

/-!
# Gateway events

A gateway hands a request over as an event: a dictionary with the method, the path, the header
fields, the query parameters and the body, which may be in base 64.

* `Gateway.request`: the request that an event describes.
* `Gateway.answer`: acceptance, or the response that refuses the request.
-/

set_option autoImplicit false

namespace SignedHttp
namespace Gateway

abbrev Event := List (String × Value)

/-- Why an event describes no request, or none that can be signed. -/
inductive EventError
  | headersNotADict
  | bodyNotAText
  | bodyNotDecodable
  | body (error : Base64.DecodeError)
  | queryNotADict
  | methodNotAText
  | pathNotNormalizable
  | pathNotAText
  deriving DecidableEq

/-- A value of an event, null if it is absent. -/
def field (event : Event) (name : String) : Value := (event.lookup name).getD .null

/-- The header fields with a value; values that are no texts are written as one. -/
def headers (event : Event) : Except EventError Headers :=
  match field event "headers" with
  | .dict entries =>
    .ok ⟨(entries.filter (!·.2.isNull)).map fun (name, v) => (name, v.plain)⟩
  | v => if v.isTruthy then .error .headersNotADict else .ok .empty

def body (event : Event) : Except EventError Octets :=
  let given := field event "body"
  let encoded := (field event "isBase64Encoded").isTruthy
  if !given.isTruthy then .ok []
  else
    match given, encoded with
    | .text s, true => (Base64.decode s).mapError .body
    | .text s, false => .ok (Utf8.encode s)
    | _, true => .error .bodyNotDecodable
    | _, false => .error .bodyNotAText

/-- The values of a parameter that may have several: the items of a list, the keys of a dictionary,
or the value itself. -/
def values : Value → List String
  | .list items => items.map Value.plain
  | .dict entries => entries.map (·.1)
  | v => [v.plain]

/-- The query of the parameters with several values, if there are any, else of those with one. -/
def query (event : Event) : Except EventError String :=
  let several := field event "multiValueQueryStringParameters"
  let single := field event "queryStringParameters"
  if several.isTruthy then
    match several with
    | .dict entries =>
      .ok (Query.encodePairs (entries.flatMap fun (name, v) => (values v).map (name, ·)))
    | _ => .error .queryNotADict
  else
    match single with
    | .dict entries => .ok (Query.encodePairs (entries.map fun (name, v) => (name, v.plain)))
    | v => if v.isTruthy then .error .queryNotADict else .ok ""

def method (event : Event) : Except EventError String :=
  match (event.lookup "httpMethod").getD (.text "GET") with
  | .text s => .ok (Text.upper s)
  | _ => .error .methodNotAText

/-- The request of an event. Its path may be any value; `request.path` is the text of it. -/
structure EventRequest where
  request : Request
  path : Value

def request (event : Event) : Except EventError EventRequest := do
  let headers ← headers event
  let body ← body event
  let query ← query event
  let method ← method event
  let path := (event.lookup "path").getD (.text "/")
  return {
    path
    request := {
      method
      host := headers.getD Headers.host ""
      path := path.plain
      query
      headers
      body } }

/-- The path with the query after it; without a query it is the path itself. -/
def EventRequest.resource (r : EventRequest) : Value :=
  if r.request.query.isEmpty then r.path else .text r.request.resource

/-- Why the request cannot be put into the form that a scheme signs. -/
def EventRequest.unsignable? (r : EventRequest) (version : Option String) : Option EventError :=
  match r.path with
  | .text _ => none
  | _ =>
    if version == some CurrentScheme.id then some .pathNotNormalizable
    else if r.request.query.isEmpty then some .pathNotAText
    else none

/-! ## The answer to an event -/

/-- The response that refuses a request. -/
structure Refusal where
  status : Nat
  body : String
  deriving DecidableEq

def refusalText : ErrorKind → String
  | .invalidAuthHeader => "Invalid Authorization header"
  | .missingRequiredHeader => "Missing required header"
  | .invalidRequiredHeader => "Invalid required header"
  | .timestampRange => "Timestamp validation failed"
  | .outdatedKeypair => "Outdated keypair"
  | .signatureMismatch => "Signature mismatch"

def refusal (error : AuthError) : Refusal where
  status := 401
  body := refusalText error.kind ++ ": " ++ error.message

inductive Answer
  | accepted
  | refused (response : Refusal)
  deriving DecidableEq

def Answer.ofVerdict : Verdict → Answer
  | .accepted .. => .accepted
  | .rejected _ error => .refused (refusal error)

/-- Why an event gets no answer. -/
inductive AnswerError
  | event (error : EventError)
  | numeric (fault : NumericFault)
  deriving DecidableEq

/-- Whether a verdict rests on the signed text. -/
def reachedSignature : Verdict → Bool
  | .accepted .. | .rejected _ .signatureMismatch => true
  | .rejected .. => false

/-- What an event came to. -/
structure Handling where
  outcome : Except AnswerError Answer
  /-- The ids whose credential was asked for. -/
  asked : List String
  /-- The log, which shows the path as the event gave it. -/
  log : List LogEntry

def answer (v : Verifier) (clock : Clock) (lookup : String → Option Credential) (event : Event) :
    Handling :=
  match request event with
  | .error e => ⟨.error (.event e), [], []⟩
  | .ok r =>
    let result := v.verify clock lookup r.request none
    let log := result.log.map (LogEntry.withPath r.path)
    match result.outcome with
    | .error fault => ⟨.error (.numeric fault), result.asked, log⟩
    | .ok verdict =>
      match r.unsignable? verdict.version?, reachedSignature verdict with
      | some e, true => ⟨.error (.event e), result.asked, []⟩
      | _, _ => ⟨.ok (Answer.ofVerdict verdict), result.asked, log⟩

end Gateway
end SignedHttp
