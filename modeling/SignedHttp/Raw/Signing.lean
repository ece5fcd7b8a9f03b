import SignedHttp.Raw.Scheme
import SignedHttp.Registry

/-!
# Signing and checking with raw texts

* `Raw.Registry`: schemes with distinct ids; `Registry.raw` gives one of the same schemes.
* `Raw.Registry.sign`, `Raw.Registry.signResponse`: signing, which fails for a cause that is told or
  at a text that cannot be written.
* `Raw.Registry.verifyResponse`: the verdict over a response, if there is one.

The entries of the log are left out here.
-/

set_option autoImplicit false

namespace SignedHttp
namespace Raw

open Points (ofString)

structure SignedRequest where
  signature : String
  /-- The Authorization value. -/
  header : Points
  deriving DecidableEq

/-- The signature and the Authorization value of a request.  Faults are looked for in the
parameters, in the secret and in the signed text, and nothing of what is looked at later matters
before. -/
def Scheme.sign (s : Scheme) (r : Request) (c : Credential) (a : Authorization) :
    Except (Failure SigningError) SignedRequest := do
  (s.check a).mapError fun fault => .cause (.parameters fault)
  let key ← (s.key c).mapError (.map .secret)
  let text ← (s.signedText r a).mapError (.map .missingHeader)
  let signature := s.digest.macBase64 key text
  let header ← (s.render (a.withSignature (ofString signature))).mapError .encoding
  return { signature, header }

structure Registry where
  schemes : List Scheme
  distinct : (schemes.map Scheme.id).Nodup

namespace Registry

def find? (reg : Registry) (version : Points) : Option Scheme :=
  reg.schemes.find? (ofString ·.id == version)

def scheme (reg : Registry) (version : Points) : Except SigningError Scheme :=
  match reg.find? version with
  | some s => .ok s
  | none => .error (.unknownVersion version)

def sign (reg : Registry) (r : Request) (c : Credential) (a : Authorization) (version : Points) :
    Except (Failure SigningError) SignedRequest := do
  let s ← (reg.scheme version).mapError .cause
  s.sign r c a

def signResponse (reg : Registry) (r : Response) (signature : Points) (a : Authorization)
    (timestamp version : Points) : Except (Failure SigningError) String := do
  let s ← (reg.scheme version).mapError .cause
  s.signResponse r signature a timestamp

end Registry

/-! ## Responses -/

inductive Verdict
  | accepted (version identity : Points)
  | rejected (version : Points) (error : ResponseError)
  deriving DecidableEq

namespace Verdict

def isOk : Verdict → Bool
  | accepted .. => true
  | rejected .. => false

def version : Verdict → Points
  | accepted version _ => version
  | rejected version _ => version

def identity? : Verdict → Option Points
  | accepted _ identity => some identity
  | rejected .. => none

def error? : Verdict → Option ResponseError
  | accepted .. => none
  | rejected _ error => some error

end Verdict

namespace Registry

/-- The signature that a response is to be checked against: the given one, or else its own. -/
def claim (r : Response) (claimed : Option Points) : Option Points :=
  claimed.or (r.headers.get? (ofString Headers.responseSignature))

/-- The check of a response's signature.  The two signatures are compared in their octets. -/
def checkResponse (reg : Registry) (r : Response) (signature : Points) (a : Authorization)
    (timestamp : Points) (claimed : Option Points) (version : Points) :
    Except (Failure ResponseError) Unit := do
  match claim r claimed with
  | none => .error (.cause .unclaimed)
  | some claimed =>
    let s ← (reg.scheme version).mapError fun error => .cause (.unsignable error)
    let expected ← (s.signResponse r signature a timestamp).mapError (.map .unsignable)
    let octets ← claimed.encode.mapError .encoding
    if Utf8.encode expected = octets then return else .error (.cause .mismatch)

/-- Verifies a response to a request that had the given signature, parameters and timestamp. -/
def verifyResponse (reg : Registry) (r : Response) (signature : Points) (a : Authorization)
    (timestamp : Points) (claimed : Option Points) (version : Points) :
    Except EncodeError Verdict :=
  match reg.checkResponse r signature a timestamp claimed version with
  | .ok () => .ok (.accepted version a.id)
  | .error (.cause error) => .ok (.rejected version error)
  | .error (.encoding error) => .error error

end Registry
end Raw

theorem Scheme.id_raw (s : Scheme) : s.raw.id = s.id := by
  cases s with
  | legacy s => rfl
  | current s => rfl

def Registry.raw (reg : Registry) : Raw.Registry where
  schemes := reg.schemes.map Scheme.raw
  distinct := by
    have hid : Raw.Scheme.id ∘ Scheme.raw = Scheme.id := funext Scheme.id_raw
    rw [List.map_map, hid]
    exact reg.distinct

end SignedHttp
