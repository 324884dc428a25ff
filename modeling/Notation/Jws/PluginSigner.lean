import Notation.Basic

/-!
# `jws.PluginSigner`

`PluginSigner.Sign` asks the plugin for its metadata and, for a signature generator,
describes the key, derives the signing algorithm from the key spec, builds the JWS
signing input under that algorithm, has the plugin sign it, checks the response
(key ID, algorithm support, chain, signature, extended key usage) and packs the
envelope. The plugin is a function from requests to responses of any type; the model
records every request it is sent and every signature check, in order.

The key-spec and algorithm tables of `spec/plugin`, the JWT helpers and the x509
checks are not among the sources and are functions given to the model (`Env`).
-/

namespace Notation.Jws
open Go

/-- Modelled from the spec: the signature-generator capability of the plugin contract,
`plugin.CapabilitySignatureGenerator` of the plugin package, which is not among the sources. -/
def capabilitySignatureGenerator : String := "SIGNATURE_GENERATOR"

/-- Modelled from the spec: the envelope-generator capability of the plugin contract,
`plugin.CapabilityEnvelopeGenerator` of the plugin package, which is not among the sources. -/
def capabilityEnvelopeGenerator : String := "SIGNATURE_ENVELOPE_GENERATOR"

/-- Modelled from the spec: `plugin.Metadata`, the answer to `get-plugin-metadata`. -/
structure Metadata where
  name : String
  version : String
  capabilities : List String
deriving DecidableEq

/-- Modelled from the spec: `Metadata.HasCapability` of the plugin package, whether the
metadata lists the capability. -/
def Metadata.hasCapability (m : Metadata) (capability : String) : Bool :=
  m.capabilities.contains capability

/-- Modelled from the spec: `plugin.DescribeKeyRequest`, the request of `describe-key`. -/
structure DescribeKeyRequest where
  contractVersion : String
  keyID : String
  pluginConfig : StrMap
deriving DecidableEq

/-- Modelled from the spec: `plugin.DescribeKeyResponse`, the answer to `describe-key`. -/
structure DescribeKeyResponse where
  keyID : String
  keySpec : String
deriving DecidableEq

/-- Modelled from the spec: `plugin.GenerateSignatureRequest`, the request of
`generate-signature`; `hash` is the hash's name. -/
structure GenerateSignatureRequest where
  contractVersion : String
  keyID : String
  keySpec : String
  hash : String
  payload : String
  pluginConfig : StrMap
deriving DecidableEq

/-- Modelled from the spec: `plugin.GenerateSignatureResponse`, the answer to
`generate-signature`. -/
structure GenerateSignatureResponse where
  keyID : String
  signature : Bytes
  signingAlgorithm : String
  certificateChain : List Bytes
deriving DecidableEq

/-- Modelled from the spec: a command of the plugin contract the signer runs
(`get-plugin-metadata`, `describe-key`, `generate-signature`), with its request. -/
inductive Request where
  | getMetadata
  | describeKey (req : DescribeKeyRequest)
  | generateSignature (req : GenerateSignatureRequest)
deriving DecidableEq

/-- Modelled from the spec: what `Runner.Run` returns, one of the three responses of the
plugin contract or a value of another type, by the name `%T` prints for it. -/
inductive Response where
  | metadata (m : Metadata)
  | describeKey (resp : DescribeKeyResponse)
  | generateSignature (resp : GenerateSignatureResponse)
  | other (typeName : String)

/-- `%T` of a response; the type names are those of the plugin package. -/
def Response.typeName : Response → String
  | .metadata _ => "*plugin.Metadata"
  | .describeKey _ => "*plugin.DescribeKeyResponse"
  | .generateSignature _ => "*plugin.GenerateSignatureResponse"
  | .other typeName => typeName

/-- `notation.SignOptions` as the JWS signer takes it. -/
structure SignOptions where
  expiry : Int
  pluginConfig : StrMap

/-- The functions the signer calls whose code is not among the sources. -/
structure Env where
  /-- `plugin.Metadata.Validate` -/
  validateMetadata : Metadata → Option Error
  /-- `KeySpec.SignatureAlgorithm`, `""` for an unknown key spec -/
  signatureAlgorithm : String → String
  /-- `SignatureAlgorithm.JWS`, `""` for an unsupported algorithm -/
  jws : String → String
  /-- `SignatureAlgorithm.Hash`, by name -/
  hash : String → String
  /-- `packPayload`, as the payload's JSON -/
  packPayload : Descriptor → SignOptions → String
  /-- `payload.Valid` -/
  payloadValid : String → Option Error
  /-- `jwtToken(alg, payload).SigningString()`: the signing input with `alg` in its header -/
  signingString : String → String → Except Error String
  /-- `x509.ParseCertificate` -/
  parseCertificate : Bytes → Except Error Certificate
  /-- `base64.RawURLEncoding.EncodeToString` -/
  base64Url : Bytes → String
  /-- `jwt.GetSigningMethod(alg).Verify(signingString, signature, publicKey)` -/
  methodVerify : String → String → String → Certificate → Option Error
  /-- `verifyCertExtKeyUsage(cert, x509.ExtKeyUsageCodeSigning)` -/
  verifyCertExtKeyUsage : Certificate → Option Error
  /-- `jwtEnvelope` -/
  jwtEnvelope : SignOptions → String → List Bytes → Except Error Bytes

/-- `PluginSigner`: the plugin's runner, the key ID and the signer's plugin config. -/
structure PluginSigner where
  run : Request → Except Error Response
  keyID : String
  pluginConfig : StrMap

/-- A step of the signer the model records: a command run, or a signature check. -/
inductive Call where
  | run (req : Request)
  | verifyJWT (sigAlg : String) (payload : String) (sig : String) (signingCert : Certificate)
deriving DecidableEq

variable (env : Env) (s : PluginSigner)

/-- `PluginSigner.mergeConfig`: a copy of the signer's config, then `config` written
over it, each visited in its listing's order. -/
def PluginSigner.mergeConfig (config : StrMap) (base : Listing s.pluginConfig)
    (overrides : Listing config) : StrMap :=
  insertAll (insertAll ∅ base.entries) overrides.entries

/-- `PluginSigner.describeKey`: the response, and the request sent. -/
def PluginSigner.describeKey (config : StrMap) : Except Error DescribeKeyResponse × Request :=
  let req := Request.describeKey ⟨"1", s.keyID, config⟩
  match s.run req with
  | .error e => (.error (.other ("describe-key command failed: " ++ e.error)), req)
  | .ok (.describeKey resp) => (.ok resp, req)
  | .ok out =>
    (.error (.other ("plugin runner returned incorrect describe-key response type \x27" ++
      out.typeName ++ "\x27")), req)

/-- `parseCertChain`. -/
def parseCertChain (certChain : List Bytes) : Except Error (List Certificate) :=
  certChain.mapM env.parseCertificate

/-- `verifyJWT`. -/
def verifyJWT (sigAlg payload sig : String) (signingCert : Certificate) : Option Error :=
  env.methodVerify sigAlg payload sig signingCert

/-- `PluginSigner.generateSignature`, merging the configs in the orders given: the
envelope, and the steps taken. -/
def PluginSigner.generateSignature (desc : Descriptor) (opts : SignOptions)
    (base : Listing s.pluginConfig) (overrides : Listing opts.pluginConfig) :
    Except Error Bytes × List Call :=
  let config := s.mergeConfig opts.pluginConfig base overrides
  match s.describeKey config with
  | (.error e, req) => (.error e, [.run req])
  | (.ok key, req) =>
    let calls := [Call.run req]
    if s.keyID ≠ key.keyID then (.error (.other "keyID mismatch"), calls)
    else
      let alg := env.signatureAlgorithm key.keySpec
      if alg = "" then (.error (.other ("keySpec " ++ goQuote key.keySpec ++ " not supported: ")), calls)
      else
        let payload := env.packPayload desc opts
        match env.payloadValid payload with
        | some e => (.error e, calls)
        | none =>
          match env.signingString (env.jws alg) payload with
          | .error e => (.error (.other ("failed to marshal signing payload: " ++ e.error)), calls)
          | .ok signing =>
            let req := Request.generateSignature ⟨"1", s.keyID, key.keySpec, env.hash alg, signing, config⟩
            let calls := calls ++ [.run req]
            match s.run req with
            | .error e => (.error (.other ("generate-signature command failed: " ++ e.error)), calls)
            | .ok (.generateSignature resp) =>
              if s.keyID ≠ resp.keyID then (.error (.other "keyID mismatch"), calls)
              else
                let jwsAlg := env.jws resp.signingAlgorithm
                if jwsAlg = "" then
                  (.error (.other ("signing algorithm " ++ goQuote resp.signingAlgorithm ++
                    " not supported")), calls)
                else if resp.certificateChain.length = 0 then
                  (.error (.other "empty certificate chain"), calls)
                else
                  match parseCertChain env resp.certificateChain with
                  | .error e => (.error e, calls)
                  | .ok [] => (.error (.other "empty certificate chain"), calls)
                  | .ok (leaf :: _) =>
                    let signed64Url := env.base64Url resp.signature
                    let calls := calls ++ [.verifyJWT jwsAlg signing signed64Url leaf]
                    match verifyJWT env jwsAlg signing signed64Url leaf with
                    | some e => (.error (.other ("verification error: " ++ e.error)), calls)
                    | none =>
                      match env.verifyCertExtKeyUsage leaf with
                      | some e =>
                        (.error (.other ("signing certificate does not meet the minimum requirements: " ++
                          e.error)), calls)
                      | none =>
                        (env.jwtEnvelope opts (signing ++ "." ++ signed64Url) resp.certificateChain, calls)
            | .ok out =>
              (.error (.other ("plugin runner returned incorrect generate-signature response type \x27" ++
                out.typeName ++ "\x27")), calls)

/-- `PluginSigner.Sign`: the envelope, and the steps taken. -/
def PluginSigner.sign (desc : Descriptor) (opts : SignOptions) (base : Listing s.pluginConfig)
    (overrides : Listing opts.pluginConfig) : Except Error Bytes × List Call :=
  let calls := [Call.run .getMetadata]
  match s.run .getMetadata with
  | .error e => (.error (.other ("metadata command failed: " ++ e.error)), calls)
  | .ok (.metadata metadata) =>
    match env.validateMetadata metadata with
    | some e => (.error (.other ("invalid plugin metadata: " ++ e.error)), calls)
    | none =>
      if metadata.hasCapability capabilitySignatureGenerator then
        let r := s.generateSignature env desc opts base overrides
        (r.1, calls ++ r.2)
      else if metadata.hasCapability capabilityEnvelopeGenerator then
        (.error (.other "not implemented"), calls)
      else (.error (.other "plugin does not have signing capabilities"), calls)
  | .ok out =>
    (.error (.other ("plugin runner returned incorrect get-plugin-metadata response type \x27" ++
      out.typeName ++ "\x27")), calls)

/-- The merged config is the request's config over the signer's, whatever the orders
the loops visit them in. -/
theorem PluginSigner.mergeConfig_eq (config : StrMap) (base : Listing s.pluginConfig)
    (overrides : Listing config) : s.mergeConfig config base overrides = config ∪ s.pluginConfig := by
  rw [PluginSigner.mergeConfig, insertAll_listing, insertAll_listing, Finmap.union_empty]

/-- **`mergeConfig` in any orders**: the merged config, built in a map of its own from `∅`,
has the keys of both maps, the request's value for each of the request's keys and the
signer's value for every other key, whatever the orders the two loops visit the maps
in. -/
theorem PluginSigner.mergeConfig_spec (config : StrMap) (base : Listing s.pluginConfig)
    (overrides : Listing config) :
    (∀ k, k ∈ s.mergeConfig config base overrides ↔ k ∈ s.pluginConfig ∨ k ∈ config) ∧
    (∀ k ∈ config, (s.mergeConfig config base overrides).lookup k = config.lookup k) ∧
    (∀ k ∉ config, (s.mergeConfig config base overrides).lookup k = s.pluginConfig.lookup k) ∧
    ∀ (base' : Listing s.pluginConfig) (overrides' : Listing config),
      s.mergeConfig config base' overrides' = s.mergeConfig config base overrides := by
  simp only [s.mergeConfig_eq]
  exact ⟨fun k => Finmap.mem_union.trans or_comm, fun k hk => Finmap.lookup_union_left hk,
    fun k hk => Finmap.lookup_union_right hk, fun _ _ => trivial⟩

/-! ## The describe-key step -/

theorem PluginSigner.describeKey_snd (config : StrMap) :
    (s.describeKey config).2 = .describeKey ⟨"1", s.keyID, config⟩ := by
  unfold PluginSigner.describeKey
  dsimp only
  split <;> rfl

theorem PluginSigner.describeKey_of_ok {config : StrMap} {key : DescribeKeyResponse}
    (h : (s.describeKey config).1 = .ok key) :
    s.run (.describeKey ⟨"1", s.keyID, config⟩) = .ok (.describeKey key) := by
  unfold PluginSigner.describeKey at h
  dsimp only at h
  split at h <;> cases h
  assumption

/-! ## A plugin that answers under another algorithm -/

/-- `spec/plugin`'s tables for RSA-2048 and the two RSASSA-PSS algorithms, a signing
input that is the header's algorithm, a dot and the payload, certificates parsed from
any bytes, and checks that pass: the plugin's signature is valid under the algorithm
it names. -/
def pssEnv : Env where
  validateMetadata _ := none
  signatureAlgorithm keySpec := if keySpec = "RSA-2048" then "RSASSA-PSS-SHA-256" else ""
  jws alg :=
    if alg = "RSASSA-PSS-SHA-256" then "PS256" else if alg = "RSASSA-PSS-SHA-384" then "PS384" else ""
  hash alg := if alg = "RSASSA-PSS-SHA-256" then "SHA-256" else "SHA-384"
  packPayload _ _ := "payload"
  payloadValid _ := none
  signingString alg payload := .ok (alg ++ "." ++ payload)
  parseCertificate raw := .ok ⟨raw, [], [], "leaf", false⟩
  base64Url _ := "c2ln"
  methodVerify _ _ _ _ := none
  verifyCertExtKeyUsage _ := none
  jwtEnvelope _ compact _ := .ok (compact.data.map fun c => c.toNat.toUInt8)

/-- A plugin whose key is RSA-2048 and which signs under RSASSA-PSS-SHA-384. -/
def pss384Plugin : PluginSigner where
  run
    | .getMetadata => .ok (.metadata ⟨"pss", "1.0.0", [capabilitySignatureGenerator]⟩)
    | .describeKey _ => .ok (.describeKey ⟨"key", "RSA-2048"⟩)
    | .generateSignature _ => .ok (.generateSignature ⟨"key", [7], "RSASSA-PSS-SHA-384", [[1]]⟩)
  keyID := "key"
  pluginConfig := ∅

/-- The empty config, in its only order. -/
def noConfig : Listing ∅ := ⟨[], rfl⟩

/-- `Sign` accepts a response under another algorithm than the key spec's: with an
RSA-2048 key (RSASSA-PSS-SHA-256, `PS256`) and a response naming RSASSA-PSS-SHA-384,
it writes `PS256` into the signing input's header, checks the signature under `PS384`,
and returns the envelope. -/
theorem pluginSigner_sign_other_algorithm :
    pssEnv.signatureAlgorithm "RSA-2048" = "RSASSA-PSS-SHA-256" ∧
      (pss384Plugin.sign pssEnv ⟨"application/vnd.oci.image.manifest.v1+json", "sha256:aa", 7, none⟩
          ⟨0, ∅⟩ noConfig noConfig).1 = .ok ("PS256.payload.c2ln".data.map fun c => c.toNat.toUInt8) ∧
      (pss384Plugin.sign pssEnv ⟨"application/vnd.oci.image.manifest.v1+json", "sha256:aa", 7, none⟩
          ⟨0, ∅⟩ noConfig noConfig).2 =
        [.run .getMetadata, .run (.describeKey ⟨"1", "key", ∅⟩),
          .run (.generateSignature ⟨"1", "key", "RSA-2048", "SHA-256", "PS256.payload", ∅⟩),
          .verifyJWT "PS384" "PS256.payload" "c2ln" ⟨[1], [], [], "leaf", false⟩] :=
  ⟨rfl, rfl, rfl⟩

end Notation.Jws
