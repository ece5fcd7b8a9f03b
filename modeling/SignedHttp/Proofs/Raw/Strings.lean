import SignedHttp.Proofs.Raw.SignedText
import SignedHttp.Raw.Signing
import SignedHttp.Signing

/-!
# Where there are no lone surrogates

Signing over raw texts is signing over strings wherever the texts are strings.  Each step is carried
over on its own: what it yields and what it fails for are those of the step over strings
(`carry`), and the text that a step over strings always writes can be written.

* `Scheme.signedText_raw`, `Scheme.sign_raw`, `Registry.sign_raw`: requests.
* `Registry.signResponse_raw`: responses.
* `SigningError.message_raw`: the wording of the causes.
-/

set_option autoImplicit false

namespace SignedHttp

open Points (ofString)

/-! ## Steps that are carried over -/

section Carry

variable {ε ε' α α' β β' : Type} {u : ε → ε'} {v : α → α'} {w : β → β'}

/-- A step with its failures and what it yields in another form. -/
def carry (u : ε → ε') (v : α → α') : Except ε α → Except ε' α'
  | .ok a => .ok (v a)
  | .error e => .error (u e)

theorem carry_bind {x : Except ε α} {x' : Except ε' α'} {f : α → Except ε β}
    {f' : α' → Except ε' β'} (hx : x' = carry u v x) (hf : ∀ a, f' (v a) = carry u w (f a)) :
    x' >>= f' = carry u w (x >>= f) := by
  subst hx
  cases x with
  | error e => rfl
  | ok a => exact hf a

theorem carry_mapM {f : α → Except ε β} {f' : α' → Except ε' β'}
    (hf : ∀ a, f' (v a) = carry u w (f a)) (as : List α) :
    (as.map v).mapM f' = carry u (List.map w) (as.mapM f) := by
  induction as with
  | nil => rfl
  | cons a as ih =>
    rw [List.map_cons, List.mapM_cons, List.mapM_cons]
    exact carry_bind (hf a) fun b => carry_bind ih fun bs => rfl

end Carry

/-! ## Header fields -/

namespace Headers

variable (h : Headers) (name : String)

theorem sameName_ofString (a b : String) :
    Raw.Headers.sameName (ofString a) (ofString b) = sameName a b := by
  rw [Raw.Headers.sameName, sameName, Points.lower_ofString, Points.lower_ofString, Bool.eq_iff_iff,
    beq_iff_eq, beq_iff_eq, Points.ofString_inj]

theorem get?_raw : h.raw.get? (ofString name) = (h.get? name).map ofString := by
  rw [Raw.Headers.get?, raw, List.find?_map, Option.map_map, get?, Option.map_map]
  simp only [Function.comp_def, sameName_ofString]

theorem getD_raw : h.raw.getD (ofString name) = ofString (h.getD name "") := by
  rw [Raw.Headers.getD, get?_raw, getD]
  cases h.get? name with
  | none => rfl
  | some value => rfl

end Headers

/-! ## The signed texts -/

theorem Request.resource_raw (r : Request) : r.raw.resource = ofString r.resource := by
  rw [Raw.Request.resource, resource]
  show (if (ofString r.query).isEmpty then ofString r.path
    else ofString r.path ++ ofString "?" ++ ofString r.query) = _
  rw [Points.isEmpty_ofString]
  split
  · rfl
  · rw [Points.ofString_append, Points.ofString_append]

namespace LegacyScheme

variable (r : Request) (a : Authorization)

theorem headerLine_raw (name : String) :
    Raw.LegacyScheme.headerLine r.raw (ofString name) = ofString (headerLine r name) := by
  have hvalue : r.raw.headers.getD (ofString name) = _ := Headers.getD_raw r.headers name
  rw [Raw.LegacyScheme.headerLine, hvalue, headerLine, Points.lower_ofString,
    Points.ofString_append, Points.ofString_append]

theorem signedText_raw : Raw.LegacyScheme.signedText r.raw a.raw = .ok (signedText r a) := by
  have hfields : a.raw.headers.map (Raw.LegacyScheme.headerLine r.raw) =
      (a.headers.map (headerLine r)).map ofString := by
    show (a.headers.map ofString).map (Raw.LegacyScheme.headerLine r.raw) = _
    simp only [List.map_map, Function.comp_def, headerLine_raw]
  have hlines : Raw.LegacyScheme.signedLines r.raw a.raw = (signedLines r a).map ofString := by
    rw [Raw.LegacyScheme.signedLines, hfields, Points.join_ofString, Request.resource_raw]
    show [(ofString r.method).upper, _, r.headers.raw.getD (ofString Headers.contentType),
      r.headers.raw.getD (ofString Headers.date), _, _] = _
    rw [Points.upper_ofString, Headers.getD_raw, Headers.getD_raw]
    rfl
  rw [Raw.LegacyScheme.signedText, hlines, Points.join_ofString, Points.encode_ofString]
  rfl

end LegacyScheme

namespace CurrentScheme

variable (r : Request) (a : Authorization)

theorem normalizePath_ofString (path : String) :
    Raw.CurrentScheme.normalizePath (ofString path) = ofString (normalizePath path) := by
  have hslash : (· == Raw.CurrentScheme.slash) ∘ Point.scalar = (· == '/') :=
    funext fun c => by
      rw [Function.comp_apply, Raw.CurrentScheme.slash, Bool.eq_iff_iff, beq_iff_eq, beq_iff_eq,
        Point.scalar.injEq]
  have htrimmed : ((ofString path).reverse.dropWhile (· == Raw.CurrentScheme.slash)).reverse =
      Points.ofChars (path.toList.reverse.dropWhile (· == '/')).reverse := by
    rw [ofString, Points.ofChars, ← List.map_reverse, List.dropWhile_map, hslash, ← List.map_reverse]
    rfl
  rw [Raw.CurrentScheme.normalizePath, htrimmed, normalizePath]
  cases (path.toList.reverse.dropWhile (· == '/')).reverse with
  | nil => rfl
  | cons c cs =>
    rw [ofString, String.toList_ofList]
    rfl

theorem parameterLine_raw : Raw.CurrentScheme.parameterLine a.raw = .ok (parameterLine a) := by
  simp only [Raw.CurrentScheme.parameterLine, Authorization.raw, List.mapM_cons, List.mapM_nil,
    Raw.CurrentScheme.encodeParameter, Points.quote_ofString]
  rfl

theorem signedHeaderLine_raw (name : String) :
    Raw.CurrentScheme.signedHeaderLine r.raw (ofString name) =
      carry MissingHeader.raw ofString (signedHeaderLine r name) := by
  have hget : r.raw.headers.get? (ofString name) = _ := Headers.get?_raw r.headers name
  rw [Raw.CurrentScheme.signedHeaderLine, signedHeaderLine, hget]
  cases r.headers.get? name with
  | none => rfl
  | some value =>
    show Except.ok _ = Except.ok (ofString _)
    rw [Points.lower_ofString, Points.ofString_append, Points.ofString_append]

theorem requiredValue_raw (name : String) :
    Raw.CurrentScheme.requiredValue r.raw name =
      carry MissingHeader.raw ofString (requiredValue r name) := by
  have hget : r.raw.headers.get? (ofString name) = _ := Headers.get?_raw r.headers name
  rw [Raw.CurrentScheme.requiredValue, requiredValue, hget]
  cases r.headers.get? name with
  | none => rfl
  | some value => rfl

theorem bodyLines_raw :
    Raw.CurrentScheme.bodyLines r.raw = carry MissingHeader.raw (List.map ofString) (bodyLines r) := by
  rw [Raw.CurrentScheme.bodyLines, bodyLines, requiredValue_raw]
  show (if r.body.isEmpty then _ else _) = _
  split
  · rfl
  · cases requiredValue r Headers.contentDigest with
    | error e => rfl
    | ok digest => exact congrArg (fun t => Except.ok [t, _]) (Headers.getD_raw _ _)

/-- The lines for the header fields, the named ones first. -/
def fieldLines : Except MissingHeader (List String) := do
  let headerLines ← a.headers.mapM (signedHeaderLine r)
  let timestamp ← requiredValue r Headers.timestamp
  let bodyLines ← bodyLines r
  return headerLines ++ timestamp :: bodyLines

theorem fieldLines_raw : Raw.CurrentScheme.fieldLines r.raw a.raw =
    carry MissingHeader.raw (List.map ofString) (fieldLines r a) := by
  have hheaders : a.raw.headers.mapM (Raw.CurrentScheme.signedHeaderLine r.raw) = _ :=
    carry_mapM (signedHeaderLine_raw r) a.headers
  refine carry_bind hheaders fun headerLines => ?_
  refine carry_bind (requiredValue_raw r Headers.timestamp) fun timestamp => ?_
  refine carry_bind (bodyLines_raw r) fun bodyLines => ?_
  show Except.ok _ = Except.ok _
  rw [List.map_append, List.map_cons]

/-- The lines before those for the header fields. -/
def firstLines : List String :=
  [Text.upper r.method, Text.lower r.host, normalizePath r.path, Query.normalize r.query,
   parameterLine a]

theorem signedLines_eq_map : signedLines r a = (fieldLines r a).map (firstLines r a ++ ·) := by
  rw [signedLines, fieldLines]
  cases a.headers.mapM (signedHeaderLine r) with
  | error e => rfl
  | ok headerLines =>
    cases requiredValue r Headers.timestamp with
    | error e => rfl
    | ok timestamp =>
      cases bodyLines r with
      | error e => rfl
      | ok bodyLines => exact congrArg Except.ok (List.append_assoc _ _ _)

/-- **The signed text over strings**, where nothing is in the way of writing. -/
theorem signedText_raw : Raw.CurrentScheme.signedText r.raw a.raw =
    (signedText r a).mapError fun e => .cause e.raw := by
  have hquery : Raw.Query.normalize r.raw.query = _ := Raw.Query.normalize_ofString r.query
  rw [Raw.CurrentScheme.signedText, hquery, parameterLine_raw, fieldLines_raw, signedText,
    signedLines_eq_map]
  cases fieldLines r a with
  | error e => rfl
  | ok fields =>
    have hfirst : [r.raw.method.upper, r.raw.host.lower,
        Raw.CurrentScheme.normalizePath r.raw.path, ofString (Query.normalize r.query),
        ofString (parameterLine a)] = (firstLines r a).map ofString := by
      show [(ofString r.method).upper, (ofString r.host).lower,
        Raw.CurrentScheme.normalizePath (ofString r.path), _, _] = _
      rw [Points.upper_ofString, Points.lower_ofString, normalizePath_ofString]
      rfl
    show (Points.encode (Points.join "\n" (_ ++ fields.map ofString))).mapError _ = _
    rw [hfirst, ← List.map_append, Points.join_ofString, Points.encode_ofString]
    rfl

end CurrentScheme

/-- Everything in a request over strings can be percent-encoded. -/
theorem CurrentScheme.quotable_raw (r : Request) (a : Authorization) :
    Raw.CurrentScheme.Quotable r.raw a.raw where
  query := Points.isText_ofString r.query
  id := Points.isText_ofString a.id
  nonce := Points.isText_ofString a.nonce
  realm := Points.isText_ofString a.realm
  version := Points.isText_ofString a.version

/-- Everything in a request over strings can stand in a line. -/
theorem CurrentScheme.writable_raw (r : Request) (a : Authorization) :
    Raw.CurrentScheme.Writable r.raw a.raw := by
  have hvalue (name : String) : (r.raw.headers.getD (ofString name)).IsText := by
    have hgetD : r.raw.headers.getD (ofString name) = _ := Headers.getD_raw r.headers name
    rw [hgetD]
    exact Points.isText_ofString _
  exact {
    method := Points.isText_ofString r.method
    host := Points.isText_ofString r.host
    path := Points.isText_ofString r.path
    names := List.forall_mem_map.2 fun name _ => Points.isText_ofString name
    values := List.forall_mem_map.2 fun name _ => hvalue name
    timestamp := hvalue _
    contentType := fun _ => hvalue _
    contentDigest := fun _ => hvalue _ }

/-! ## The parameters and the secret -/

namespace CurrentScheme

variable (s : CurrentScheme) (c : Credential) (a : Authorization)

theorem disallowed_raw (names : List String) :
    s.raw.disallowed (names.map ofString) = (s.disallowed names).map ofString := by
  have hallows (name : String) : s.raw.allows (ofString name) = s.allows name := by
    rw [Raw.CurrentScheme.allows, raw, List.isEmpty_map, List.any_map, allows]
    simp only [Function.comp_def, Headers.sameName_ofString]
  rw [Raw.CurrentScheme.disallowed, List.filter_map, disallowed]
  simp only [Function.comp_def, hallows]

theorem blankParameters_raw : Raw.CurrentScheme.blankParameters a.raw =
    blankNames [("id", a.id), ("nonce", a.nonce), ("version", a.version)] := by
  simp only [Raw.CurrentScheme.blankParameters, blankNames, Authorization.raw, List.filter_cons,
    Points.isEmpty_ofString]
  split <;> split <;> split <;> rfl

theorem check_raw : s.raw.check a.raw = (s.check a).mapError ParameterFault.raw := by
  have hversion : a.raw.version ≠ Raw.CurrentScheme.version ↔ a.version ≠ CurrentScheme.version :=
    not_congr Points.ofString_inj
  have hdisallowed : s.raw.disallowed a.raw.headers = _ := disallowed_raw s a.headers
  rw [Raw.CurrentScheme.check, blankParameters_raw, hdisallowed, List.isEmpty_map, check,
    checkParameters]
  simp only [hversion]
  split
  · rfl
  · split
    · rfl
    · split
      · rfl
      · rfl

theorem decodeStrict?_ofString (t : String) :
    Raw.CurrentScheme.decodeStrict? (ofString t) = Base64.decodeStrict? t := by
  rw [Raw.CurrentScheme.decodeStrict?, Points.text?_ofString]
  rfl

theorem key_raw : Raw.CurrentScheme.key c.raw = (key c).mapError SecretFault.raw := by
  have hsecret : Raw.CurrentScheme.decodeStrict? c.raw.secret = _ := decodeStrict?_ofString c.secret
  rw [Raw.CurrentScheme.key, hsecret, key]
  cases Base64.decodeStrict? c.secret with
  | none => rfl
  | some bytes =>
    show (if bytes.isEmpty then _ else _) = (if bytes.isEmpty then _ else _ : Except _ _).mapError _
    split
    · rfl
    · rfl

theorem renderField_ofString (name value : String) :
    Raw.CurrentScheme.renderField name (ofString value) =
      if value.isEmpty then none else some (ofString (Fields.render name value)) := by
  simp only [Raw.CurrentScheme.renderField, Points.isEmpty_ofString, Fields.render,
    Points.ofString_append]

theorem render_raw : Raw.CurrentScheme.render a.raw = .ok (ofString (render a)) := by
  have hheaders : a.raw.headers.mapM Points.quote = .ok (a.headers.map Percent.encode) :=
    mapM_map_eq_ok Points.quote_ofString a.headers
  have hpresent (fields : List (String × String)) :
      (fields.map fun field => (field.1, ofString field.2)).filterMap
          (fun field => Raw.CurrentScheme.renderField field.1 field.2) =
        ((fields.filter (!·.2.isEmpty)).map fun field =>
          Fields.render field.1 field.2).map ofString := by
    induction fields with
    | nil => rfl
    | cons field fields ih =>
      rw [List.map_cons, List.filterMap_cons, renderField_ofString, ih, List.filter_cons]
      cases field.2.isEmpty with
      | true => rfl
      | false => rfl
  have hid : a.raw.id.quote = _ := Points.quote_ofString a.id
  have hnonce : a.raw.nonce.quote = _ := Points.quote_ofString a.nonce
  have hrealm : a.raw.realm.quote = _ := Points.quote_ofString a.realm
  rw [Raw.CurrentScheme.render, hheaders, hid, hnonce, hrealm]
  have hfields := congrArg (Points.join ",") (hpresent (fields a))
  rw [Points.join_ofString] at hfields
  refine congrArg Except.ok ((congrArg (ofString (token ++ " ") ++ ·) hfields).trans ?_)
  exact (Points.ofString_append _ _).symm

end CurrentScheme

/-! ## Requests -/

def SignedRequest.raw (signed : SignedRequest) : Raw.SignedRequest where
  signature := signed.signature
  header := ofString signed.header

namespace Scheme

variable (s : Scheme) (r : Request) (c : Credential) (a : Authorization)

theorem check_raw : s.raw.check a.raw = (s.check a).mapError ParameterFault.raw := by
  cases s with
  | legacy s => rfl
  | current s => exact CurrentScheme.check_raw s a

theorem key_raw : s.raw.key c.raw = (s.key c).mapError fun fault => .cause fault.raw := by
  cases s with
  | legacy s =>
    show (Points.encode (ofString c.secret)).mapError _ = _
    rw [Points.encode_ofString]
    rfl
  | current s =>
    show (Raw.CurrentScheme.key c.raw).mapError _ = (CurrentScheme.key c).mapError _
    rw [CurrentScheme.key_raw]
    cases CurrentScheme.key c with
    | error fault => rfl
    | ok key => rfl

theorem signedText_raw :
    s.raw.signedText r.raw a.raw = (s.signedText r a).mapError fun e => .cause e.raw := by
  cases s with
  | legacy s =>
    show (Raw.LegacyScheme.signedText r.raw a.raw).mapError _ = _
    rw [LegacyScheme.signedText_raw]
    rfl
  | current s => exact CurrentScheme.signedText_raw r a

theorem render_raw : s.raw.render a.raw = .ok (ofString (s.render a)) := by
  cases s with
  | legacy s =>
    show Except.ok (ofString (LegacyScheme.token ++ " ") ++ ofString a.id ++ ofString ":" ++
      ofString a.signature) = Except.ok (ofString (LegacyScheme.render a))
    simp only [LegacyScheme.render, Points.ofString_append]
  | current s => exact CurrentScheme.render_raw a

/-- **A request is signed as over strings.** -/
theorem sign_raw : s.raw.sign r.raw c.raw a.raw =
    carry (fun e => .cause e.raw) SignedRequest.raw (s.sign r c a).value := by
  have hdigest : s.raw.digest = s.digest := by
    cases s with
    | legacy s => rfl
    | current s => rfl
  rw [Raw.Scheme.sign, check_raw, key_raw, signedText_raw, hdigest, sign, signature, signingKey]
  cases s.check a with
  | error fault => rfl
  | ok _ =>
    cases s.key c with
    | error fault => rfl
    | ok key =>
      cases s.signedText r a with
      | error e => rfl
      | ok text =>
        have hheader : s.raw.render (a.raw.withSignature (ofString (s.digest.macBase64 key text))) =
            .ok (ofString (s.render (a.withSignature (s.digest.macBase64 key text)))) :=
          render_raw s (a.withSignature (s.digest.macBase64 key text))
        show (Except.mapError _ (s.raw.render (a.raw.withSignature _)) >>= _) = _
        rw [hheader]
        rfl

end Scheme

namespace Registry

variable (reg : Registry) (version : String)

theorem find?_raw : reg.raw.find? (ofString version) = (reg.find? version).map Scheme.raw := by
  have hid (s : Scheme) : (ofString s.raw.id == ofString version) = (s.id == version) := by
    rw [Scheme.id_raw, Bool.eq_iff_iff, beq_iff_eq, beq_iff_eq, Points.ofString_inj]
  rw [Raw.Registry.find?, raw, List.find?_map, find?]
  simp only [Function.comp_def, hid]

theorem scheme_raw :
    reg.raw.scheme (ofString version) = carry SigningError.raw Scheme.raw (reg.scheme version) := by
  rw [Raw.Registry.scheme, find?_raw, scheme]
  cases reg.find? version with
  | none => rfl
  | some s => rfl

/-- **A registry signs a request as over strings.** -/
theorem sign_raw (r : Request) (c : Credential) (a : Authorization) :
    reg.raw.sign r.raw c.raw a.raw (ofString version) =
      carry (fun e => .cause e.raw) SignedRequest.raw (reg.sign r c a version).value := by
  rw [Raw.Registry.sign, scheme_raw, sign]
  cases reg.scheme version with
  | error e => rfl
  | ok s => exact Scheme.sign_raw s r c a

end Registry

/-! ## Responses -/

section Responses

variable (r : Response) (signature : String) (a : Authorization) (timestamp version : String)

theorem CurrentScheme.responseText_raw :
    Raw.CurrentScheme.responseText r.raw a.raw (ofString timestamp) =
      .ok (responseText r a timestamp) := by
  show (Points.encode (ofString a.nonce ++ ofString "\n" ++ ofString timestamp ++
    ofString "\n")).map (· ++ r.body) = _
  rw [← Points.ofString_append, ← Points.ofString_append, ← Points.ofString_append,
    Points.encode_ofString]
  rfl

theorem Scheme.signResponse_raw (s : Scheme) :
    s.raw.signResponse r.raw (ofString signature) a.raw (ofString timestamp) =
      (s.signResponse r signature a timestamp).mapError fun e => .cause e.raw := by
  cases s with
  | legacy s => rfl
  | current s =>
    show Raw.CurrentScheme.signResponse s.raw r.raw _ a.raw _ =
      (CurrentScheme.signResponse s r signature a timestamp).mapError _
    rw [Raw.CurrentScheme.signResponse, CurrentScheme.decodeStrict?_ofString,
      CurrentScheme.responseText_raw, CurrentScheme.signResponse]
    cases Base64.decodeStrict? signature with
    | none => rfl
    | some key =>
      cases key with
      | nil => rfl
      | cons b key => rfl

/-- **A registry signs a response as over strings.** -/
theorem Registry.signResponse_raw (reg : Registry) :
    reg.raw.signResponse r.raw (ofString signature) a.raw (ofString timestamp) (ofString version) =
      (reg.signResponse r signature a timestamp version).value.mapError fun e => .cause e.raw := by
  rw [Raw.Registry.signResponse, scheme_raw, signResponse]
  cases reg.scheme version with
  | error e => rfl
  | ok s =>
    show s.raw.signResponse _ _ _ _ = _
    rw [Scheme.signResponse_raw]
    cases hsigned : s.signResponse r signature a timestamp with
    | error e => simp only [hsigned]
    | ok signed => simp only [hsigned]

end Responses

/-! ## The wording of causes -/

theorem ParameterFault.message_raw (place : String) (fault : ParameterFault) :
    fault.raw.message place = ofString (fault.message place) := by
  cases fault with
  | missing names => rfl
  | unsupportedVersion version => exact (Points.ofString_append _ _).symm
  | headersNotAllowed names =>
    show ofString _ ++ Points.join ", " (names.map ofString) = _
    rw [Points.join_ofString, ← Points.ofString_append]
    rfl

theorem SecretFault.message_raw (fault : SecretFault) :
    fault.raw.message = ofString fault.message := by
  cases fault with
  | notBase64 id =>
    show ofString _ ++ ofString _ ++ ofString _ = _
    rw [← Points.ofString_append, ← Points.ofString_append]
    rfl
  | empty id =>
    show ofString _ ++ ofString _ ++ ofString _ = _
    rw [← Points.ofString_append, ← Points.ofString_append]
    rfl

theorem MissingHeader.message_raw (header : MissingHeader) :
    header.raw.message = ofString header.message := by
  cases header with
  | signed name =>
    show ofString _ ++ ofString _ ++ ofString _ = _
    rw [← Points.ofString_append, ← Points.ofString_append]
    rfl
  | required name => rfl

/-- **The causes are told in the same words.** -/
theorem SigningError.message_raw (e : SigningError) : e.raw.message = ofString e.message := by
  cases e with
  | unknownVersion version => exact (Points.ofString_append _ _).symm
  | parameters fault => exact fault.message_raw _
  | secret fault => exact fault.message_raw
  | missingHeader header => exact header.message_raw
  | responsesUnsigned version => rfl
  | signatureNotBase64 => rfl
  | signatureEmpty => rfl

end SignedHttp
