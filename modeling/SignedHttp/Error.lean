import SignedHttp.Number.Binary64
import SignedHttp.Value

/-!
# What can go wrong

Causes, each with one wording. The causes that signing and verification share are types of their
own.

* `ParameterFault`, `SecretFault`, `MissingHeader`: the shared causes.
* `SigningError`: why a message cannot be signed.
* `AuthError`: why a message is not accepted; `AuthError.kind` sorts it into one of six kinds.
* `NumericFault`: a number in a message that is too large to be judged.
-/

set_option autoImplicit false

namespace SignedHttp

/-- Texts in a row, with commas between them. -/
def commaList (names : List String) : String := ", ".intercalate names

/-! ## Shared causes -/

/-- What is wrong with authorization parameters. -/
inductive ParameterFault
  | missing (names : List String)
  | unsupportedVersion (version : String)
  | headersNotAllowed (names : List String)
  deriving DecidableEq

/-- The wording of a fault of the parameters found in a certain place. -/
def ParameterFault.message (place : String) : ParameterFault → String
  | .missing names => s!"Missing {commaList names} in {place}"
  | .unsupportedVersion version => s!"Unsupported version: {version}"
  | .headersNotAllowed names => s!"Headers not allowed in signature: {commaList names}"

/-- Why the secret of a credential gives no key. -/
inductive SecretFault
  | notBase64 (id : String)
  | empty (id : String)
  deriving DecidableEq

def SecretFault.message : SecretFault → String
  | .notBase64 id =>
    s!"Secret for '{id}' is not base64 encoded; legacy keys cannot sign 2.0 requests"
  | .empty id => s!"Secret for '{id}' is empty"

/-- A header field that the signed text needs: one that the parameters name, or one that the scheme
asks for. -/
inductive MissingHeader
  | signed (name : String)
  | required (name : String)
  deriving DecidableEq

def MissingHeader.message : MissingHeader → String
  | .signed name => s!"Signed header '{name}' not found in request"
  | .required name => s!"Missing required {name} header"

/-! ## Signing -/

inductive SigningError
  | unknownVersion (version : String)
  | parameters (fault : ParameterFault)
  | secret (fault : SecretFault)
  | missingHeader (header : MissingHeader)
  | responsesUnsigned (version : String)
  | signatureNotBase64
  | signatureEmpty
  deriving DecidableEq

def unknownVersionMessage (version : String) : String := s!"Unknown protocol version: {version}"

def SigningError.message : SigningError → String
  | .unknownVersion version => unknownVersionMessage version
  | .parameters fault => fault.message "authorization parameters"
  | .secret fault => fault.message
  | .missingHeader header => header.message
  | .responsesUnsigned version => s!"Protocol {version} does not sign responses"
  | .signatureNotBase64 => "Request signature is not base64 encoded"
  | .signatureEmpty => "Request signature is empty"

/-! ## Verification -/

/-- The kinds of failure that a caller can tell apart. -/
inductive ErrorKind
  | invalidAuthHeader
  | missingRequiredHeader
  | invalidRequiredHeader
  | timestampRange
  | outdatedKeypair
  | signatureMismatch
  deriving DecidableEq

def ErrorKind.code : ErrorKind → String
  | .invalidAuthHeader => "invalid_auth_header"
  | .missingRequiredHeader => "missing_required_header"
  | .invalidRequiredHeader => "invalid_required_header"
  | .timestampRange => "timestamp_range_error"
  | .outdatedKeypair => "outdated_keypair"
  | .signatureMismatch => "signature_mismatch"

/-- The side of the time window on which a moment lies. -/
inductive Direction
  | past
  | future
  deriving DecidableEq

def Direction.word : Direction → String
  | .past => "past"
  | .future => "future"

inductive AuthError
  | missingAuthorization
  | unrecognizedScheme
  | wrongScheme (scheme : String)
  | malformedLegacy
  | parameters (fault : ParameterFault)
  | missingHeaders (names : List String)
  | unknownId (id : String)
  | secret (fault : SecretFault)
  | invalidTimestamp (value : Value)
  | outsideWindow (direction : Direction) (distance : Binary64) (tolerance : Int)
  | digestWithoutBody
  | digestMismatch
  | missingHeader (header : MissingHeader)
  | signatureMismatch
  | responseUnsignable (cause : SigningError)
  | responseSignatureMismatch

namespace AuthError

def kind : AuthError → ErrorKind
  | missingAuthorization | unrecognizedScheme | wrongScheme _ | malformedLegacy | parameters _
  | unknownId _ | responseUnsignable _ => .invalidAuthHeader
  | missingHeaders _ | missingHeader _ => .missingRequiredHeader
  | invalidTimestamp _ | digestWithoutBody | digestMismatch => .invalidRequiredHeader
  | outsideWindow .. => .timestampRange
  | secret _ => .outdatedKeypair
  | signatureMismatch | responseSignatureMismatch => .signatureMismatch

def message : AuthError → String
  | missingAuthorization => "Missing Authorization header"
  | unrecognizedScheme => "Unrecognized authorization scheme"
  | wrongScheme scheme => s!"Not an {scheme} authorization header"
  | malformedLegacy => "Invalid Acquia header format, expected 'Acquia <id>:<signature>'"
  | parameters fault => fault.message "authorization header"
  | missingHeaders names => s!"Missing required header(s): {commaList names}"
  | unknownId id => s!"Unknown id: {id}"
  | secret fault => fault.message
  | invalidTimestamp value => s!"Invalid timestamp header: {value.quoted}"
  | outsideWindow direction distance tolerance =>
    s!"Request timestamp too far in the {direction.word}: {distance.wholeText} seconds" ++
      s!" (max: {tolerance})"
  | digestWithoutBody => "Content digest declared for a request without a body"
  | digestMismatch => "Content digest does not match request body"
  | missingHeader header => header.message
  | signatureMismatch => "Signature mismatch"
  | responseUnsignable cause => cause.message
  | responseSignatureMismatch => "Response signature mismatch"

end AuthError

/-! ## Numbers beyond bounds -/

/-- Numerals have a greatest length. Where one is read, its own length is told. -/
inductive NumericFault
  | tooManyDigits (count : Option Nat)
  | beyondFloat
  deriving DecidableEq

def NumericFault.message : NumericFault → String
  | .tooManyDigits count =>
    let found := match count with
      | some n => s!": value has {n} digits"
      | none => ""
    s!"Exceeds the limit (4300 digits) for integer string conversion{found};" ++
      " use sys.set_int_max_str_digits() to increase the limit"
  | .beyondFloat => "int too large to convert to float"

end SignedHttp
