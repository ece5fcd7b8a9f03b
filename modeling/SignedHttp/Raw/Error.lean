import SignedHttp.Error
import SignedHttp.Raw.Points

/-!
# What can go wrong with raw texts

* `Raw.Failure`: a cause of its own, or a text that UTF-8 cannot write.
* `Raw.ParameterFault`, `Raw.SecretFault`, `Raw.MissingHeader`, `Raw.SigningError`: the causes for
  which a message is not signed, with the texts that they name.
* `Raw.ResponseError`: the causes for which a response is not accepted.
-/

set_option autoImplicit false

namespace SignedHttp
namespace Raw

open Points (ofString join)

/-- How something fails.  The causes are told to the caller as errors of this library; a text that
cannot be written is not among them. -/
inductive Failure (ε : Type)
  | cause (error : ε)
  | encoding (error : EncodeError)
  deriving DecidableEq

def Failure.map {ε ε' : Type} (f : ε → ε') : Failure ε → Failure ε'
  | .cause error => .cause (f error)
  | .encoding error => .encoding error

/-! ## Signing -/

inductive ParameterFault
  | missing (names : List String)
  | unsupportedVersion (version : Points)
  | headersNotAllowed (names : List Points)
  deriving DecidableEq

def ParameterFault.message (place : String) : ParameterFault → Points
  | .missing names => ofString s!"Missing {commaList names} in {place}"
  | .unsupportedVersion version => ofString "Unsupported version: " ++ version
  | .headersNotAllowed names => ofString "Headers not allowed in signature: " ++ join ", " names

inductive SecretFault
  | notBase64 (id : Points)
  | empty (id : Points)
  deriving DecidableEq

def SecretFault.message : SecretFault → Points
  | .notBase64 id =>
    ofString "Secret for '" ++ id ++
      ofString "' is not base64 encoded; legacy keys cannot sign 2.0 requests"
  | .empty id => ofString "Secret for '" ++ id ++ ofString "' is empty"

inductive MissingHeader
  | signed (name : Points)
  | required (name : String)
  deriving DecidableEq

def MissingHeader.message : MissingHeader → Points
  | .signed name => ofString "Signed header '" ++ name ++ ofString "' not found in request"
  | .required name => ofString s!"Missing required {name} header"

inductive SigningError
  | unknownVersion (version : Points)
  | parameters (fault : ParameterFault)
  | secret (fault : SecretFault)
  | missingHeader (header : MissingHeader)
  | responsesUnsigned (version : String)
  | signatureNotBase64
  | signatureEmpty
  deriving DecidableEq

def SigningError.message : SigningError → Points
  | .unknownVersion version => ofString "Unknown protocol version: " ++ version
  | .parameters fault => fault.message "authorization parameters"
  | .secret fault => fault.message
  | .missingHeader header => header.message
  | .responsesUnsigned version => ofString s!"Protocol {version} does not sign responses"
  | .signatureNotBase64 => ofString "Request signature is not base64 encoded"
  | .signatureEmpty => ofString "Request signature is empty"

/-! ## Responses -/

inductive ResponseError
  | unclaimed
  | unsignable (cause : SigningError)
  | mismatch
  deriving DecidableEq

namespace ResponseError

def kind : ResponseError → ErrorKind
  | unclaimed => .missingRequiredHeader
  | unsignable _ => .invalidAuthHeader
  | mismatch => .signatureMismatch

def message : ResponseError → Points
  | unclaimed => (MissingHeader.required "X-Server-Authorization-HMAC-SHA256").message
  | unsignable cause => cause.message
  | mismatch => ofString "Response signature mismatch"

end ResponseError
end Raw

open Points (ofString)

/-! ## The causes without lone surrogates -/

def ParameterFault.raw : ParameterFault → Raw.ParameterFault
  | missing names => .missing names
  | unsupportedVersion version => .unsupportedVersion (ofString version)
  | headersNotAllowed names => .headersNotAllowed (names.map ofString)

def SecretFault.raw : SecretFault → Raw.SecretFault
  | notBase64 id => .notBase64 (ofString id)
  | empty id => .empty (ofString id)

def MissingHeader.raw : MissingHeader → Raw.MissingHeader
  | signed name => .signed (ofString name)
  | required name => .required name

def SigningError.raw : SigningError → Raw.SigningError
  | unknownVersion version => .unknownVersion (ofString version)
  | parameters fault => .parameters fault.raw
  | secret fault => .secret fault.raw
  | missingHeader header => .missingHeader header.raw
  | responsesUnsigned version => .responsesUnsigned version
  | signatureNotBase64 => .signatureNotBase64
  | signatureEmpty => .signatureEmpty

end SignedHttp
