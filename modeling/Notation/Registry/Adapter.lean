import Notation.Registry.Push
import Notation.Sign.Flow
import Notation.Verify.Flow

/-!
# `Verify` and `Sign` over the repository adapter

`NewRepository` wraps the registry's stores as the `Repository` the flows take:
`Resolve` is the manifest store's, `ListSignatures` the referrers API's pages,
`FetchSignatureBlob` the capped fetch of `Notation.Registry.Repository` and
`PushSignature` the uploads of `Notation.Registry.Push`. Run over it, `Verify` hands the
verifier only envelopes that a listed signature manifest names as its one blob, read
within both caps; and `Sign` reports success only once the envelope and a manifest
naming it and the signed descriptor are in the repository.
-/

namespace Notation.Registry
open Go Verify Sign

/-- `NewRepository` over the stores `reg`; `referrers` are the pages the referrers API
serves for a subject and `pushSignature` is `PushSignature` (the verify flow does not
call it; the sign flow runs it as `pushSignature` of the uploads). -/
def repositoryClient (reg : Stores) (json : Json) (referrers : Descriptor → List (List Descriptor))
    (pushSignature : String → Bytes → Descriptor → StrMap → Except Error (Descriptor × Descriptor)) :
    Repository where
  isRemote := true
  resolve := reg.resolveManifest
  signaturePages := referrers
  fetchSignatureBlob d := (fetchSignatureBlob reg json d).1
  pushSignature := pushSignature

/-- **`Verify` over the adapter checks only capped envelopes**: every envelope handed to
the verifier is, for a signature manifest listed for the artifact, the one blob that
manifest lists, read after the manifest was fetched within 4 MiB and the blob found
within 32 MiB. -/
theorem verify_repositoryClient_envelopes (parseReference : String → Except Error Reference)
    (verifier : Verifier) (reg : Stores) (json : Json)
    (referrers : Descriptor → List (List Descriptor))
    (pushSignature : String → Bytes → Descriptor → StrMap → Except Error (Descriptor × Descriptor))
    (remoteOpts : RemoteVerifyOptions) (a : Descriptor) (sig : Bytes) (opts : VerifyOptions)
    (h : Call.verify a sig opts ∈
      (verify parseReference verifier (repositoryClient reg json referrers pushSignature) remoteOpts).2.1) :
    ∃ d b, d ∈ (referrers a).flatten ∧ BlobListed reg json d b ∧ reg.fetchBlob b = .ok sig := by
  rcases hp : verifyPreamble parseReference verifier (repositoryClient reg json referrers pushSignature)
      remoteOpts with r | ⟨artifactDescriptor, opts'⟩
  · simp [verify, hp] at h
  obtain ⟨hm, hv⟩ := verifyPreamble_resolved hp
  rw [hv, Loop.verifySignatures_calls hm] at h
  obtain ⟨d, hd, hc⟩ := List.mem_flatMap.1 h
  obtain ⟨rfl, sigDesc, hf, -⟩ := Loop.callsOf_verify hc
  obtain ⟨hlisted, hblob⟩ := ((fetchSignatureBlob_spec reg json d).2 sig sigDesc).1 hf
  exact ⟨d, sigDesc, List.mem_of_mem_take hd, hlisted, hblob⟩

/-- **`Sign` over the adapter succeeds only after both uploads**: when `Sign` returns
`d`, `d` is the descriptor the reference resolved to with the user metadata added, the
signer signed `d`, its envelope was pushed to the blob store, and then a manifest was
packed with that envelope as its one blob, `d` as its subject and the annotations
generated from the signer's chain. -/
theorem sign_repositoryClient_uploads (parseReference : String → Except Error Reference)
    (sha256 : Bytes → Bytes) (signer : Signer) (reg : Stores) (json : Json)
    (referrers : Descriptor → List (List Descriptor)) (up : Uploads) (artifactType : String)
    (ociImageManifest : Bool) (remoteOpts : RemoteSignOptions) (order : Listing remoteOpts.userMetadata)
    (d : Descriptor)
    (h : (sign parseReference sha256 signer
      (some (repositoryClient reg json referrers fun mediaType blob subject annotations =>
        (pushSignature up artifactType mediaType blob subject annotations ociImageManifest).1))
      remoteOpts order).1 = .ok d) :
    ∃ resolved sig signerInfo blobDesc manifestDesc,
      reg.resolveManifest remoteOpts.artifactReference = .ok resolved ∧
      d = withMetadata resolved remoteOpts.userMetadata ∧
      signer.sign d remoteOpts.toSignOptions = .ok (sig, signerInfo) ∧
      up.pushBytes remoteOpts.signatureMediaType sig = .ok blobDesc ∧
      up.pack artifactType [blobDesc] d (generateAnnotations sha256 signerInfo signer.pluginAnnotations)
        ociImageManifest = .ok manifestDesc := by
  obtain ⟨-, -, repo', resolved, sig, signerInfo, hrepo, hres, -, hsig, -, hresult⟩ :=
    sign_of_push parseReference sha256 signer _ remoteOpts order (.inr ⟨d, h⟩)
  obtain rfl := Option.some.inj hrepo
  rcases hresult with ⟨⟨⟨blobDesc, manifestDesc⟩, hpush⟩, hd⟩ | ⟨e, -, he⟩
  · obtain rfl := Except.ok.inj (h.symm.trans hd)
    obtain ⟨hb, hm⟩ := ((pushSignature_spec up artifactType _ _ _ _ _).2 _ _).1 hpush
    exact ⟨resolved, sig, signerInfo, blobDesc, manifestDesc, hres, rfl, hsig, hb, hm⟩
  · cases h.symm.trans he

/-- A signature manifest of 100 bytes. -/
def capManifest : Descriptor := ⟨mediaTypeImageManifest, "sha256:bb", 100, none⟩

/-- Its one layer, a JWS envelope of 3 bytes. -/
def capEnvelope : Descriptor := ⟨"application/jose+json", "sha256:cc", 3, none⟩

/-- Stores that resolve every reference to `sampleSubject` and serve one manifest and
one blob. -/
def capStores : Stores where
  resolveManifest _ := .ok sampleSubject
  resolveBlob _ := .error (.other "blob unknown")
  fetchManifest _ := .ok [0]
  fetchBlob _ := .ok [1, 2, 3]

/-- A decoder reading every manifest as an image manifest with the layer `capEnvelope`. -/
def capJson : Json where
  artifactBlobs _ := .ok []
  manifestLayers _ := .ok [capEnvelope]
  orasArtifact _ := .error (.other "not an artifact manifest")

theorem verify_repositoryClient_envelopes_cap :
    Call.verify sampleSubject [1, 2, 3] ⟨"registry.io/foo:v1", "application/jose+json", ∅, ∅, false, ""⟩ ∈
        (verify tagReference (acceptingVerifier none)
          (repositoryClient capStores capJson (fun _ => [[capManifest]]) fun _ _ _ _ => .error (.other "refused"))
          (sampleRemoteOpts 1)).2.1 ∧
      ∃ d b, d ∈ [[capManifest]].flatten ∧ BlobListed capStores capJson d b ∧ capStores.fetchBlob b = .ok [1, 2, 3] :=
  have h : Call.verify sampleSubject [1, 2, 3] ⟨"registry.io/foo:v1", "application/jose+json", ∅, ∅, false, ""⟩ ∈
      (verify tagReference (acceptingVerifier none)
        (repositoryClient capStores capJson (fun _ => [[capManifest]]) fun _ _ _ _ => .error (.other "refused"))
        (sampleRemoteOpts 1)).2.1 := by
    decide
  ⟨h, verify_repositoryClient_envelopes _ _ _ _ _ _ _ _ _ _ h⟩

/-- Uploads that take everything: the envelope is stored as `sha256:dd` and the manifest
as `sha256:ee`. -/
def acceptingUploads : Uploads where
  pushBytes mediaType blob := .ok ⟨mediaType, "sha256:dd", blob.length, none⟩
  pushBlob _ _ := none
  pack _ _ _ _ _ := .ok ⟨mediaTypeImageManifest, "sha256:ee", 100, none⟩

theorem sign_repositoryClient_uploads_accepting :
    (sign tagReference id constantSigner
        (some (repositoryClient capStores capJson (fun _ => [[capManifest]])
          fun mediaType blob subject annotations =>
            (pushSignature acceptingUploads "application/vnd.cncf.notary.signature" mediaType blob
              subject annotations false).1))
        (plainLocalOpts.toRemote "registry.io/foo:v1") plainMetadata).1 =
        .ok (withMetadata sampleSubject plain) ∧
      ∃ resolved sig signerInfo blobDesc manifestDesc,
        capStores.resolveManifest "registry.io/foo:v1" = .ok resolved ∧
        withMetadata sampleSubject plain = withMetadata resolved plain ∧
        constantSigner.sign (withMetadata sampleSubject plain)
          (plainLocalOpts.toRemote "registry.io/foo:v1").toSignOptions = .ok (sig, signerInfo) ∧
        acceptingUploads.pushBytes "application/jose+json" sig = .ok blobDesc ∧
        acceptingUploads.pack "application/vnd.cncf.notary.signature" [blobDesc]
          (withMetadata sampleSubject plain)
          (generateAnnotations id signerInfo constantSigner.pluginAnnotations) false = .ok manifestDesc :=
  have h : (sign tagReference id constantSigner
      (some (repositoryClient capStores capJson (fun _ => [[capManifest]])
        fun mediaType blob subject annotations =>
          (pushSignature acceptingUploads "application/vnd.cncf.notary.signature" mediaType blob
            subject annotations false).1))
      (plainLocalOpts.toRemote "registry.io/foo:v1") plainMetadata).1 =
      .ok (withMetadata sampleSubject plain) := rfl
  ⟨h, sign_repositoryClient_uploads _ _ _ _ _ _ _ _ _ _ _ _ h⟩

end Notation.Registry
