import Notation.Jws.PluginSigner

/-!
# The plugin contract `PluginSigner` follows

`PluginSigner.Sign` takes the steps of the signing contract in order, each at most once,
and each exactly when the plugin's answers before it passed the signer's checks:
`get-plugin-metadata`; `describe-key` once the metadata is valid and declares the
signature generator (`MetadataAccepted`); `generate-signature` once the key described is
the signer's, its key spec has a signing algorithm and the signing input was built under
it (`KeyAccepted`); and the JWT check of the plugin's signature once the response is for
the signer's key, under an algorithm with a JWS name, with a chain that parsed
(`ResponseAccepted`).

`SignSteps` and `GenerateSteps` list the runs the contract allows, one constructor per
check that can stop a run, each with the check that stopped it; they allow exactly one
run for each behaviour of the plugin (`SignSteps.unique`). `sign_calls` says every run of
`PluginSigner.Sign` is that run.
-/

namespace Notation.Jws
open Go

variable (env : Env) (s : PluginSigner)

/-! ## The checks each step passes -/

/-- The plugin's metadata lets `Sign` go on to `describe-key`. -/
structure MetadataAccepted (metadata : Metadata) : Prop where
  run : s.run .getMetadata = .ok (.metadata metadata)
  valid : env.validateMetadata metadata = none
  capability : metadata.hasCapability capabilitySignatureGenerator = true

/-- The key the plugin described lets `generateSignature` go on to `generate-signature`,
with the signing input `signing`. -/
structure KeyAccepted (config : StrMap) (desc : Descriptor) (opts : SignOptions)
    (key : DescribeKeyResponse) (signing : String) : Prop where
  run : s.run (.describeKey ⟨"1", s.keyID, config⟩) = .ok (.describeKey key)
  keyID : key.keyID = s.keyID
  keySpec : env.signatureAlgorithm key.keySpec ≠ ""
  payloadValid : env.payloadValid (env.packPayload desc opts) = none
  signingInput :
    env.signingString (env.jws (env.signatureAlgorithm key.keySpec)) (env.packPayload desc opts) = .ok signing

/-- The `generate-signature` request for `key` and the signing input `signing`. -/
def signatureRequest (config : StrMap) (key : DescribeKeyResponse) (signing : String) : Request :=
  .generateSignature ⟨"1", s.keyID, key.keySpec, env.hash (env.signatureAlgorithm key.keySpec), signing, config⟩

/-- The plugin's signature lets `generateSignature` go on to the JWT check against the
leaf `leaf` of its chain. -/
structure ResponseAccepted (config : StrMap) (key : DescribeKeyResponse) (signing : String)
    (resp : GenerateSignatureResponse) (leaf : Certificate) : Prop where
  run : s.run (signatureRequest env s config key signing) = .ok (.generateSignature resp)
  keyID : resp.keyID = s.keyID
  algorithm : env.jws resp.signingAlgorithm ≠ ""
  chain : ∃ rest, parseCertChain env resp.certificateChain = .ok (leaf :: rest)

/-- The JWT check of the plugin's signature over `signing` against `leaf`. -/
def jwtCheck (signing : String) (resp : GenerateSignatureResponse) (leaf : Certificate) : Call :=
  .verifyJWT (env.jws resp.signingAlgorithm) signing (env.base64Url resp.signature) leaf

section Unique

variable {env s} {config : StrMap} {desc : Descriptor} {opts : SignOptions}

theorem KeyAccepted.unique {key key' : DescribeKeyResponse} {signing signing' : String}
    (h : KeyAccepted env s config desc opts key signing) (h' : KeyAccepted env s config desc opts key' signing') :
    key = key' ∧ signing = signing' := by
  obtain rfl : key = key' := Response.describeKey.inj (Except.ok.inj (h.run.symm.trans h'.run))
  exact ⟨rfl, Except.ok.inj (h.signingInput.symm.trans h'.signingInput)⟩

theorem ResponseAccepted.unique {key : DescribeKeyResponse} {signing : String}
    {resp resp' : GenerateSignatureResponse} {leaf leaf' : Certificate}
    (h : ResponseAccepted env s config key signing resp leaf)
    (h' : ResponseAccepted env s config key signing resp' leaf') : resp = resp' ∧ leaf = leaf' := by
  obtain rfl : resp = resp' := Response.generateSignature.inj (Except.ok.inj (h.run.symm.trans h'.run))
  obtain ⟨rest, hp⟩ := h.chain
  obtain ⟨rest', hp'⟩ := h'.chain
  exact ⟨rfl, (List.cons.inj (Except.ok.inj (hp.symm.trans hp'))).1⟩

end Unique

/-! ## The runs the contract allows -/

/-- The steps of `generateSignature` the contract allows under the merged config
`config`: `describe-key` alone when no key passes its checks; then `generate-signature`
alone when no response does; and otherwise the JWT check last. -/
inductive GenerateSteps (config : StrMap) (desc : Descriptor) (opts : SignOptions) : List Call → Prop where
  | keyRejected (h : ∀ key signing, ¬KeyAccepted env s config desc opts key signing) :
      GenerateSteps config desc opts [.run (.describeKey ⟨"1", s.keyID, config⟩)]
  | responseRejected (key : DescribeKeyResponse) (signing : String)
      (hkey : KeyAccepted env s config desc opts key signing)
      (h : ∀ resp leaf, ¬ResponseAccepted env s config key signing resp leaf) :
      GenerateSteps config desc opts
        [.run (.describeKey ⟨"1", s.keyID, config⟩), .run (signatureRequest env s config key signing)]
  | checked (key : DescribeKeyResponse) (signing : String) (resp : GenerateSignatureResponse)
      (leaf : Certificate) (hkey : KeyAccepted env s config desc opts key signing)
      (hresp : ResponseAccepted env s config key signing resp leaf) :
      GenerateSteps config desc opts
        [.run (.describeKey ⟨"1", s.keyID, config⟩), .run (signatureRequest env s config key signing),
          jwtCheck env signing resp leaf]

/-- The steps of `PluginSigner.Sign` the contract allows: `get-plugin-metadata` alone
when the metadata does not pass its checks, and otherwise it followed by the steps of
`generateSignature`. -/
inductive SignSteps (config : StrMap) (desc : Descriptor) (opts : SignOptions) : List Call → Prop where
  | metadataRejected (h : ∀ metadata, ¬MetadataAccepted env s metadata) :
      SignSteps config desc opts [.run .getMetadata]
  | generated (metadata : Metadata) (hmeta : MetadataAccepted env s metadata) {calls : List Call}
      (h : GenerateSteps env s config desc opts calls) :
      SignSteps config desc opts (.run .getMetadata :: calls)

section Unique

variable {env s} {config : StrMap} {desc : Descriptor} {opts : SignOptions}

/-- The contract allows one run of `generateSignature` for each behaviour of the plugin. -/
theorem GenerateSteps.unique {calls calls' : List Call} (h : GenerateSteps env s config desc opts calls)
    (h' : GenerateSteps env s config desc opts calls') : calls = calls' := by
  cases h with
  | keyRejected hno =>
    cases h' with
    | keyRejected => rfl
    | responseRejected key signing hkey => exact (hno key signing hkey).elim
    | checked key signing _ _ hkey => exact (hno key signing hkey).elim
  | responseRejected key signing hkey hno =>
    cases h' with
    | keyRejected hno' => exact (hno' key signing hkey).elim
    | responseRejected key' signing' hkey' =>
      obtain ⟨rfl, rfl⟩ := hkey.unique hkey'
      rfl
    | checked key' signing' resp leaf hkey' hresp =>
      obtain ⟨rfl, rfl⟩ := hkey.unique hkey'
      exact (hno resp leaf hresp).elim
  | checked key signing resp leaf hkey hresp =>
    cases h' with
    | keyRejected hno' => exact (hno' key signing hkey).elim
    | responseRejected key' signing' hkey' hno' =>
      obtain ⟨rfl, rfl⟩ := hkey.unique hkey'
      exact (hno' resp leaf hresp).elim
    | checked key' signing' resp' leaf' hkey' hresp' =>
      obtain ⟨rfl, rfl⟩ := hkey.unique hkey'
      obtain ⟨rfl, rfl⟩ := hresp.unique hresp'
      rfl

/-- The contract allows one run of `PluginSigner.Sign` for each behaviour of the plugin. -/
theorem SignSteps.unique {calls calls' : List Call} (h : SignSteps env s config desc opts calls)
    (h' : SignSteps env s config desc opts calls') : calls = calls' := by
  cases h with
  | metadataRejected hno =>
    cases h' with
    | metadataRejected => rfl
    | generated metadata hmeta => exact (hno metadata hmeta).elim
  | generated metadata hmeta hgen =>
    cases h' with
    | metadataRejected hno => exact (hno metadata hmeta).elim
    | generated _ _ hgen' => rw [hgen.unique hgen']

end Unique

/-! ## The runs the signer takes -/

theorem PluginSigner.describeKey_of_run {config : StrMap} {key : DescribeKeyResponse}
    (h : s.run (.describeKey ⟨"1", s.keyID, config⟩) = .ok (.describeKey key)) :
    s.describeKey config = (.ok key, .describeKey ⟨"1", s.keyID, config⟩) := by
  simp [PluginSigner.describeKey, h]

/-- The steps `generateSignature` takes are the ones the contract allows, whatever the
plugin answers. -/
theorem PluginSigner.generateSignature_calls (desc : Descriptor) (opts : SignOptions)
    (base : Listing s.pluginConfig) (overrides : Listing opts.pluginConfig) {config : StrMap}
    (hc : s.mergeConfig opts.pluginConfig base overrides = config) :
    GenerateSteps env s config desc opts (s.generateSignature env desc opts base overrides).2 := by
  unfold PluginSigner.generateSignature
  rw [hc]
  dsimp only
  rcases hd : s.describeKey config with ⟨_ | key, req⟩ <;>
    obtain rfl : req = .describeKey ⟨"1", s.keyID, config⟩ := by rw [← s.describeKey_snd config, hd]
  · -- describe-key fails: no key is described
    exact .keyRejected fun _ _ hacc => nomatch hd.symm.trans (s.describeKey_of_run hacc.run)
  have hdk := s.describeKey_of_ok (by rw [hd])
  have hkey : ∀ {key' signing}, KeyAccepted env s config desc opts key' signing → key' = key :=
    fun hacc => Response.describeKey.inj (Except.ok.inj (hacc.run.symm.trans hdk))
  dsimp only
  -- the key's checks and the signing input
  by_cases hk : key.keyID = s.keyID
  swap
  · rw [if_pos (Ne.symm hk)]
    exact .keyRejected fun _ _ hacc => by obtain rfl := hkey hacc; exact hk hacc.keyID
  by_cases ha : env.signatureAlgorithm key.keySpec = ""
  · simp only [hk, ha, ne_eq, not_true_eq_false, if_false, if_true]
    exact .keyRejected fun _ _ hacc => by obtain rfl := hkey hacc; exact hacc.keySpec ha
  rcases hv : env.payloadValid (env.packPayload desc opts) with _ | e
  swap
  · simp only [hk, ha, hv, ne_eq, not_true_eq_false, if_false]
    exact .keyRejected fun _ _ hacc => nomatch hv.symm.trans hacc.payloadValid
  rcases hsg : env.signingString (env.jws (env.signatureAlgorithm key.keySpec)) (env.packPayload desc opts)
    with e | signing
  · simp only [hk, ha, hv, hsg, ne_eq, not_true_eq_false, if_false]
    exact .keyRejected fun _ _ hacc => by obtain rfl := hkey hacc; exact nomatch hsg.symm.trans hacc.signingInput
  have hacc : KeyAccepted env s config desc opts key signing := ⟨hdk, hk, ha, hv, hsg⟩
  simp only [hk, ha, hv, hsg, ne_eq, not_true_eq_false, if_false]
  -- the response's checks and the chain
  rcases hg : s.run (.generateSignature ⟨"1", s.keyID, key.keySpec,
    env.hash (env.signatureAlgorithm key.keySpec), signing, config⟩) with e | (_ | _ | resp | _)
  all_goals try exact .responseRejected key signing hacc fun _ _ hr => nomatch hg.symm.trans hr.run
  have hresp : ∀ {resp' leaf}, ResponseAccepted env s config key signing resp' leaf → resp' = resp :=
    fun hr => Response.generateSignature.inj (Except.ok.inj (hr.run.symm.trans hg))
  dsimp only
  by_cases hr : resp.keyID = s.keyID
  swap
  · rw [if_pos (Ne.symm hr)]
    exact .responseRejected key signing hacc fun _ _ h => by obtain rfl := hresp h; exact hr h.keyID
  by_cases hj : env.jws resp.signingAlgorithm = ""
  · simp only [hr, hj, ne_eq, not_true_eq_false, if_false, if_true]
    exact .responseRejected key signing hacc fun _ _ h => by obtain rfl := hresp h; exact h.algorithm hj
  by_cases hch : resp.certificateChain = []
  · simp only [hr, hj, hch, ne_eq, not_true_eq_false, if_false, List.length_nil, if_true]
    refine .responseRejected key signing hacc fun _ _ h => ?_
    obtain rfl := hresp h
    obtain ⟨_, hp⟩ := h.chain
    rw [hch] at hp
    exact nomatch hp
  rcases hp : parseCertChain env resp.certificateChain with e | _ | ⟨leaf, rest⟩ <;>
    simp only [hr, hj, hch, hp, ne_eq, not_true_eq_false, if_false, List.length_eq_zero]
  any_goals
    refine .responseRejected key signing hacc fun _ _ h => ?_
    obtain rfl := hresp h
    obtain ⟨_, hp'⟩ := h.chain
    exact nomatch hp.symm.trans hp'
  -- the JWT check is taken, whatever its result
  have hcheck := GenerateSteps.checked key signing resp leaf hacc ⟨hg, hr, hj, rest, hp⟩
  split
  · exact hcheck
  · split <;> exact hcheck

/-- **The plugin contract, over every run**: whatever the plugin answers, the steps
`PluginSigner.Sign` takes are the one run the contract allows, with the request's config
over the signer's: `get-plugin-metadata`, then `describe-key` exactly when the metadata
passes its checks, then `generate-signature` exactly when the key passes its checks,
then the JWT check exactly when the plugin's signature passes its checks. -/
theorem PluginSigner.sign_calls (desc : Descriptor) (opts : SignOptions) (base : Listing s.pluginConfig)
    (overrides : Listing opts.pluginConfig) :
    SignSteps env s (opts.pluginConfig ∪ s.pluginConfig) desc opts (s.sign env desc opts base overrides).2 ∧
      ∀ calls, SignSteps env s (opts.pluginConfig ∪ s.pluginConfig) desc opts calls →
        calls = (s.sign env desc opts base overrides).2 := by
  have hsteps : SignSteps env s (opts.pluginConfig ∪ s.pluginConfig) desc opts
      (s.sign env desc opts base overrides).2 := by
    unfold PluginSigner.sign
    rcases hm : s.run .getMetadata with e | (metadata | _ | _ | _)
    all_goals try exact .metadataRejected fun _ h => nomatch hm.symm.trans h.run
    dsimp only
    have hmeta : ∀ {m}, MetadataAccepted env s m → m = metadata :=
      fun h => Response.metadata.inj (Except.ok.inj (h.run.symm.trans hm))
    rcases hv : env.validateMetadata metadata with _ | e
    swap
    · exact .metadataRejected fun _ h => by obtain rfl := hmeta h; exact nomatch hv.symm.trans h.valid
    by_cases hs : metadata.hasCapability capabilitySignatureGenerator
    · simp only [hs, if_true, List.singleton_append]
      exact .generated metadata ⟨hm, hv, hs⟩
        (s.generateSignature_calls env desc opts base overrides (s.mergeConfig_eq _ _ _))
    · -- no signature generator: only the metadata was asked for
      have hno : ∀ m, ¬MetadataAccepted env s m := fun _ h => by obtain rfl := hmeta h; exact hs h.capability
      simp only [hs, Bool.false_eq_true, if_false]
      split_ifs <;> exact .metadataRejected hno
  exact ⟨hsteps, fun _ h => h.unique hsteps⟩

end Notation.Jws
