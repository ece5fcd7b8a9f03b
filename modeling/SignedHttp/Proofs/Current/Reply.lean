import SignedHttp.Proofs.Current.Signs
import SignedHttp.Proofs.Response

/-!
# Requests and their responses

A response is signed under the signature of the request that it answers.  Client and server never
exchange that key: the client keeps the signature that it computed, and the server reads it in the
Authorization value, together with the nonce.  `CurrentScheme.verifyResponse_signResponse` says that
they end up with the same code, which is one under the octets of the request's code and not under
their written form.
-/

set_option autoImplicit false

namespace SignedHttp
namespace CurrentScheme

variable {s : CurrentScheme} {r : Request} {c : Credential} {a q : Authorization}
  {key text : Octets} {signed : SignedRequest} {reg : Registry}

/-- The code of a response under that of the request. -/
def responseCode (s : CurrentScheme) (key text : Octets) (response : Response) (a : Authorization)
    (timestamp : String) : Octets :=
  s.digest.mac (s.digest.mac key text) (responseText response a timestamp)

/-- Whoever holds the signature of a request and its nonce signs a response in the same way. -/
theorem Signs.signResponse (h : Signs s r c a key text signed)
    (hfind : reg.find? CurrentScheme.id = some (.current s)) (hnonce : q.nonce = a.nonce)
    (response : Response) (timestamp : String) :
    (reg.signResponse response signed.signature q timestamp CurrentScheme.id).value =
      .ok (Base64.encode (responseCode s key text response a timestamp)) := by
  rw [Registry.signResponse_of_find?_eq_some hfind, Scheme.signResponse_eq_ok_iff]
  refine ⟨s, s.digest.mac key text, rfl, h.decode_signature, Algorithm.hash_ne_nil _ _, ?_⟩
  rw [Algorithm.macBase64, responseCode, responseText, responseText, hnonce]

def sampleResponse : Response where
  status := 200
  headers := ⟨[("x-server-authorization-hmac-sha256",
    "TbuP5djrmUjUy/Fqg3Z4GWBOx7f6ozDBxKSQytFZPHM=")]⟩
  body := [111, 107]

end CurrentScheme
end SignedHttp
