import Notation.Registry.Adapter
import Notation.Verify.Guarantees

/-!
# An OCI registry to push to and read from

The adapters of `Notation.Registry` read and write a registry through functions given
to the model. Here the registry itself is modelled, as the environment the adapters
run in: the references it resolves, the blobs and the manifests pushed to it, newest
first, and the referrers API over them. `oras.PushBytes` stores a blob under its
`digest.FromBytes`; `oras.Pack` stores the manifest it writes, an image manifest when
asked and an OCI artifact manifest otherwise, under the digest of its JSON. The JSON
text of a manifest (`marshal`) and SHA-256 are parameters, and `json.Unmarshal` reading
a manifest back is a hypothesis (`PackedManifest.ReadBy`). Pushing tags nothing, so the
references resolve as before. `oras` is not among the sources: `PushBytes` and `Pack` are
modelled as the versions the `go.mod` files require behave.

Over this registry what `PushSignature` writes, `FetchSignatureBlob` reads back, from
any prior content (`fetchSignatureBlob_pushSignature`), and a signature `Sign` pushes
is the one `Verify` then fetches and hands to the verifier
(`verify_after_sign`).
-/

namespace Notation.Registry
open Go Verify Sign

/-- A manifest as `oras.Pack` writes it: the artifact type, the blobs, the subject, the
manifest annotations, and whether it is an image manifest. -/
structure PackedManifest where
  artifactType : String
  blobs : List Descriptor
  subject : Descriptor
  annotations : StrMap
  imageManifest : Bool

/-- The content of an OCI registry: how it resolves references, and the blobs and the
manifests pushed to it, newest first. -/
structure RegistryState where
  resolve : String → Except Error Descriptor
  blobs : List (Descriptor × Bytes)
  manifests : List (Descriptor × PackedManifest)

/-! `marshal` is the JSON text `oras.Pack` writes for a manifest. -/

variable (sha256 : Bytes → Bytes) (marshal : PackedManifest → Bytes)

/-- `content.NewDescriptorFromBytes`: the media type, `digest.FromBytes` and the length. -/
def descriptorFromBytes (mediaType : String) (content : Bytes) : Descriptor :=
  ⟨mediaType, digestFromBytes sha256 content, content.length, none⟩

/-- The media type of the manifest `oras.Pack` writes, as oras-go v2.4.0 and v2.5.0, the
versions the two `go.mod` files among the sources require, write it: an image manifest
under `PackImageManifest`, and otherwise an OCI artifact manifest. -/
def packMediaType (imageManifest : Bool) : String :=
  if imageManifest then mediaTypeImageManifest else mediaTypeArtifactManifest

/-- The descriptor `oras.Pack` returns for the manifest `m`. -/
def packDescriptor (m : PackedManifest) : Descriptor :=
  descriptorFromBytes sha256 (packMediaType m.imageManifest) (marshal m)

/-- `json.Unmarshal` reads back the blobs of `m` from its JSON text: as the `Blobs` of an
artifact manifest, or as the `Layers` of an image manifest. -/
def PackedManifest.ReadBy (json : Json) (m : PackedManifest) : Prop :=
  (if m.imageManifest then json.manifestLayers (marshal m) else json.artifactBlobs (marshal m)) = .ok m.blobs

/-- The manifest `PushSignature` packs for the envelope `blob` of `mediaType`: that
envelope's descriptor as its one blob. -/
def signatureManifest (artifactType mediaType : String) (blob : Bytes) (subject : Descriptor)
    (annotations : StrMap) (imageManifest : Bool) : PackedManifest :=
  ⟨artifactType, [descriptorFromBytes sha256 mediaType blob], subject, annotations, imageManifest⟩

/-- The uploads to such a registry, which accept every push. -/
def memUploads : Uploads where
  pushBytes mediaType blob := .ok (descriptorFromBytes sha256 mediaType blob)
  pushBlob _ _ := none
  pack artifactType blobs subject annotations imageManifest :=
    .ok (packDescriptor sha256 marshal ⟨artifactType, blobs, subject, annotations, imageManifest⟩)

namespace RegistryState

/-- The newest blob pushed under `digest`. -/
def findBlob (r : RegistryState) (digest : String) : Option (Descriptor × Bytes) :=
  r.blobs.find? fun e => e.1.digest = digest

/-- The newest manifest pushed under `digest`. -/
def findManifest (r : RegistryState) (digest : String) : Option (Descriptor × PackedManifest) :=
  r.manifests.find? fun e => e.1.digest = digest

/-- The registry's stores: `Resolve` of a reference or of a blob digest, and
`content.FetchAll` of a manifest or a blob by its digest. -/
def stores (r : RegistryState) : Stores where
  resolveManifest := r.resolve
  resolveBlob digest :=
    match r.findBlob digest with
    | some (desc, _) => .ok desc
    | none => .error (.other "blob unknown")
  fetchManifest desc :=
    match r.findManifest desc.digest with
    | some (_, m) => .ok (marshal m)
    | none => .error (.other "manifest unknown")
  fetchBlob desc :=
    match r.findBlob desc.digest with
    | some (_, blob) => .ok blob
    | none => .error (.other "blob unknown")

/-- The manifests of `artifactType` pushed with the digest of `subject` as their subject,
newest first. -/
def referrerList (r : RegistryState) (artifactType : String) (subject : Descriptor) : List Descriptor :=
  (r.manifests.filter fun e => e.2.subject.digest = subject.digest ∧ e.2.artifactType = artifactType).map
    Prod.fst

/-- The referrers API: those manifests, in one page. -/
def referrers (r : RegistryState) (artifactType : String) (subject : Descriptor) : List (List Descriptor) :=
  [r.referrerList artifactType subject]

/-- An upload, applied to the registry. -/
def apply (r : RegistryState) : Upload → RegistryState
  | .pushBytes mediaType blob => { r with blobs := (descriptorFromBytes sha256 mediaType blob, blob) :: r.blobs }
  | .pushBlob desc blob => { r with blobs := (desc, blob) :: r.blobs }
  | .pack artifactType blobs subject annotations imageManifest =>
    let m : PackedManifest := ⟨artifactType, blobs, subject, annotations, imageManifest⟩
    { r with manifests := (packDescriptor sha256 marshal m, m) :: r.manifests }

/-- The registry after the uploads `uploads`, in order. -/
def applyAll (r : RegistryState) (uploads : List Upload) : RegistryState :=
  uploads.foldl (apply sha256 marshal) r

/-! `artifactType` is `ArtifactTypeNotation` and `ociImageManifest` the flag the sign flow
pushes with. -/

variable (json : Json) (artifactType : String) (ociImageManifest : Bool)

/-- `NewRepository` over the registry, pushing with `PushSignature`. -/
def repository (r : RegistryState) : Repository :=
  repositoryClient (r.stores marshal) json (r.referrers artifactType) fun mediaType blob subject annotations =>
    (pushSignature (memUploads sha256 marshal) artifactType mediaType blob subject annotations
      ociImageManifest).1

/-- The registry after the calls `Sign` made to it: each push applies its uploads. -/
def afterCalls (r : RegistryState) : List Sign.Call → RegistryState
  | [] => r
  | .pushSignature mediaType blob subject annotations :: calls =>
    afterCalls (r.applyAll sha256 marshal (pushSignature (memUploads sha256 marshal) artifactType mediaType
      blob subject annotations ociImageManifest).2) calls
  | _ :: calls => afterCalls r calls

end RegistryState

/-! ## Reading back what was pushed -/

section Readback

variable {sha256 marshal}

namespace RegistryState

@[simp] theorem resolve_apply (r : RegistryState) (u : Upload) :
    (r.apply sha256 marshal u).resolve = r.resolve := by
  cases u <;> rfl

@[simp] theorem resolve_applyAll (r : RegistryState) (uploads : List Upload) :
    (r.applyAll sha256 marshal uploads).resolve = r.resolve := by
  induction uploads generalizing r with
  | nil => rfl
  | cons u us ih => exact (ih _).trans (resolve_apply r u)

theorem findManifest_pack (r : RegistryState) (m : PackedManifest) :
    (r.apply sha256 marshal (.pack m.artifactType m.blobs m.subject m.annotations m.imageManifest)).findManifest
        (packDescriptor sha256 marshal m).digest = some (packDescriptor sha256 marshal m, m) := by
  simp [apply, findManifest]

theorem findBlob_pack (r : RegistryState) (artifactType : String) (blobs : List Descriptor)
    (subject : Descriptor) (annotations : StrMap) (imageManifest : Bool) :
    (r.apply sha256 marshal (.pack artifactType blobs subject annotations imageManifest)).findBlob =
      r.findBlob :=
  rfl

theorem findBlob_pushBytes (r : RegistryState) (mediaType : String) (blob : Bytes) :
    (r.apply sha256 marshal (.pushBytes mediaType blob)).findBlob (descriptorFromBytes sha256 mediaType blob).digest =
      some (descriptorFromBytes sha256 mediaType blob, blob) := by
  simp [apply, findBlob]

/-- A pack adds its manifest, first, to the referrers of every descriptor with its
subject's digest, under its artifact type. -/
theorem referrerList_pack (r : RegistryState) (m : PackedManifest) {s : Descriptor}
    (hs : m.subject.digest = s.digest) :
    (r.apply sha256 marshal (.pack m.artifactType m.blobs m.subject m.annotations m.imageManifest)).referrerList
        m.artifactType s =
      packDescriptor sha256 marshal m :: r.referrerList m.artifactType s := by
  simp [apply, referrerList, hs]

end RegistryState

/-- A manifest the registry holds under its pack descriptor, read back by `json`, within
the cap: `getSignatureBlobsDesc` lists its blobs. -/
theorem getSignatureBlobsDesc_packed {r : RegistryState} {json : Json} {m : PackedManifest}
    (hfind : r.findManifest (packDescriptor sha256 marshal m).digest = some (packDescriptor sha256 marshal m, m))
    (hread : m.ReadBy marshal json)
    (hsize : ((marshal m).length : Int) ≤ maxManifestSizeLimit) :
    getSignatureBlobsDesc (r.stores marshal) json (packDescriptor sha256 marshal m) =
      (.ok m.blobs, [.fetchManifest (packDescriptor sha256 marshal m)]) := by
  have hsize' : ¬(packDescriptor sha256 marshal m).size > maxManifestSizeLimit := not_lt.2 hsize
  have hfetch : (r.stores marshal).fetchManifest (packDescriptor sha256 marshal m) = .ok (marshal m) := by
    simp only [RegistryState.stores, hfind]
  unfold PackedManifest.ReadBy at hread
  unfold getSignatureBlobsDesc
  rw [if_neg hsize', hfetch]
  cases him : m.imageManifest <;> simp only [him, if_true, if_false, Bool.false_eq_true] at hread <;>
    simp [packDescriptor, descriptorFromBytes, packMediaType, him, hread, mediaTypeImageManifest,
      mediaTypeArtifactManifest]

/-- After `PushSignature` to the registry, the manifest it packed heads the referrers of
every descriptor with its subject's digest, and `FetchSignatureBlob` of it reads the
manifest and then the envelope, and returns the envelope and its descriptor. -/
theorem pushSignature_readback (r : RegistryState) (json : Json) (artifactType mediaType : String)
    (blob : Bytes) (subject : Descriptor) (annotations : StrMap) (ociImageManifest : Bool)
    (hread : (signatureManifest sha256 artifactType mediaType blob subject annotations ociImageManifest).ReadBy
      marshal json)
    (hblob : (blob.length : Int) ≤ maxBlobSizeLimit)
    (hmanifest : ((marshal (signatureManifest sha256 artifactType mediaType blob subject annotations
      ociImageManifest)).length : Int) ≤ maxManifestSizeLimit)
    {s : Descriptor} (hs : subject.digest = s.digest) :
    (r.applyAll sha256 marshal (pushSignature (memUploads sha256 marshal) artifactType mediaType blob subject
        annotations ociImageManifest).2).referrerList artifactType s =
      packDescriptor sha256 marshal
          (signatureManifest sha256 artifactType mediaType blob subject annotations ociImageManifest) ::
        r.referrerList artifactType s ∧
    fetchSignatureBlob ((r.applyAll sha256 marshal (pushSignature (memUploads sha256 marshal) artifactType
        mediaType blob subject annotations ociImageManifest).2).stores marshal) json
        (packDescriptor sha256 marshal
          (signatureManifest sha256 artifactType mediaType blob subject annotations ociImageManifest)) =
      (.ok (blob, descriptorFromBytes sha256 mediaType blob),
        [.fetchManifest (packDescriptor sha256 marshal
            (signatureManifest sha256 artifactType mediaType blob subject annotations ociImageManifest)),
          .fetchBlob (descriptorFromBytes sha256 mediaType blob)]) := by
  set m := signatureManifest sha256 artifactType mediaType blob subject annotations ociImageManifest
  have hafter : r.applyAll sha256 marshal
      (pushSignature (memUploads sha256 marshal) artifactType mediaType blob subject annotations
        ociImageManifest).2 =
      (r.apply sha256 marshal (.pushBytes mediaType blob)).apply sha256 marshal
        (.pack m.artifactType m.blobs m.subject m.annotations m.imageManifest) := rfl
  rw [hafter]
  refine ⟨RegistryState.referrerList_pack _ m hs, ?_⟩
  -- the fetch reads the manifest, then the envelope
  have hblobSize : ¬(descriptorFromBytes sha256 mediaType blob).size > maxBlobSizeLimit := not_lt.2 hblob
  have hfetch : (((r.apply sha256 marshal (.pushBytes mediaType blob)).apply sha256 marshal
      (.pack m.artifactType m.blobs m.subject m.annotations m.imageManifest)).stores marshal).fetchBlob
        (descriptorFromBytes sha256 mediaType blob) = .ok blob := by
    simp only [RegistryState.stores, RegistryState.findBlob_pack, RegistryState.findBlob_pushBytes]
  simp only [fetchSignatureBlob, getSignatureBlobsDesc_packed (RegistryState.findManifest_pack _ m) hread
    hmanifest]
  simp only [m, signatureManifest] at hfetch
  simp [m, signatureManifest, hblobSize, hfetch]

/-- An empty registry that resolves every reference to `sampleSubject`. -/
def sampleRegistry : RegistryState := ⟨fun _ => .ok sampleSubject, [], []⟩

/-- A decoder that reads every manifest as listing the envelope `[1]` of
`application/jose+json`, under the identity as SHA-256. -/
def sampleJson : Json where
  artifactBlobs _ := .ok [descriptorFromBytes id "application/jose+json" [1]]
  manifestLayers _ := .ok [descriptorFromBytes id "application/jose+json" [1]]
  orasArtifact _ := .error (.other "not an artifact manifest")

end Readback

/-! ## Sign, then verify -/

/-- **A signature `Sign` pushes is the one `Verify` then checks**: on a registry that
held no signature manifest of the artifact, once `Sign` succeeds over it, returning
`d`, the reference resolves to an artifact of which `d` is the descriptor with the user
metadata added, and the signer signed `d`. If `json.Unmarshal` reads the manifest
`Sign` pushed back and the envelope and the manifest are within the caps, then
`Verify` of the same reference over the registry as `Sign` left it, with a positive
bound and a verifier that does not skip, makes exactly two calls. It fetches the
manifest `Sign` pushed, with its envelope, and hands that envelope to the verifier
against the resolved artifact with the envelope's media type. It succeeds exactly when
the verifier returns no error, and then returns the artifact with the verifier's
outcome. -/
theorem verify_after_sign (parseReference : String → Except Error Reference) (sha256 : Bytes → Bytes)
    (marshal : PackedManifest → Bytes) (json : Json) (artifactType : String) (ociImageManifest : Bool)
    (signer : Signer) (r : RegistryState) (remoteOpts : RemoteSignOptions)
    (order : Listing remoteOpts.userMetadata) (verifier : Verifier) (verifyOpts : RemoteVerifyOptions)
    {d : Descriptor}
    (hsign : (sign parseReference sha256 signer
      (some (r.repository sha256 marshal json artifactType ociImageManifest)) remoteOpts order).1 = .ok d)
    (hfresh : r.referrers artifactType d = [[]])
    (href : verifyOpts.artifactReference = remoteOpts.artifactReference)
    (hm : 0 < verifyOpts.maxSignatureAttempts) (hskip : verifier.skipVerify = none) :
    ∃ resolved sig signerInfo,
      r.resolve remoteOpts.artifactReference = .ok resolved ∧
      d = withMetadata resolved remoteOpts.userMetadata ∧
      signer.sign d remoteOpts.toSignOptions = .ok (sig, signerInfo) ∧
      ((signatureManifest sha256 artifactType remoteOpts.signatureMediaType sig d
          (generateAnnotations sha256 signerInfo signer.pluginAnnotations) ociImageManifest).ReadBy marshal json →
        (sig.length : Int) ≤ maxBlobSizeLimit →
        ((marshal (signatureManifest sha256 artifactType remoteOpts.signatureMediaType sig d
          (generateAnnotations sha256 signerInfo signer.pluginAnnotations) ociImageManifest)).length : Int) ≤
          maxManifestSizeLimit →
        (verify parseReference verifier
            ((r.afterCalls sha256 marshal artifactType ociImageManifest
              (sign parseReference sha256 signer
                (some (r.repository sha256 marshal json artifactType ociImageManifest)) remoteOpts order).2).repository
              sha256 marshal json artifactType ociImageManifest) verifyOpts).2.1 =
          [.fetchSignatureBlob (packDescriptor sha256 marshal (signatureManifest sha256 artifactType
              remoteOpts.signatureMediaType sig d (generateAnnotations sha256 signerInfo signer.pluginAnnotations)
              ociImageManifest)),
            .verify resolved sig (verifyOpts.verifyOptions remoteOpts.signatureMediaType)] ∧
        ((verify parseReference verifier
            ((r.afterCalls sha256 marshal artifactType ociImageManifest
              (sign parseReference sha256 signer
                (some (r.repository sha256 marshal json artifactType ociImageManifest)) remoteOpts order).2).repository
              sha256 marshal json artifactType ociImageManifest) verifyOpts).1.error = none ↔
          (verifier.verify resolved sig (verifyOpts.verifyOptions remoteOpts.signatureMediaType)).2 = none) ∧
        ∀ outcome, verifier.verify resolved sig (verifyOpts.verifyOptions remoteOpts.signatureMediaType) =
            (outcome, none) →
          (verify parseReference verifier
            ((r.afterCalls sha256 marshal artifactType ociImageManifest
              (sign parseReference sha256 signer
                (some (r.repository sha256 marshal json artifactType ociImageManifest)) remoteOpts order).2).repository
              sha256 marshal json artifactType ociImageManifest) verifyOpts).1 = ⟨resolved, [outcome], none⟩) := by
  obtain ⟨-, ⟨ref, hparse, hrefne⟩, repo', resolved, sig, signerInfo, hrepo, hres, -, hsig, htrace, hresult⟩ :=
    sign_of_push parseReference sha256 signer _ remoteOpts order (.inr ⟨d, hsign⟩)
  obtain rfl := Option.some.inj hrepo
  obtain rfl : d = withMetadata resolved remoteOpts.userMetadata := by
    rcases hresult with ⟨-, h⟩ | ⟨e, -, h⟩
    · exact Except.ok.inj (hsign.symm.trans h)
    · cases hsign.symm.trans h
  replace hres : r.resolve remoteOpts.artifactReference = .ok resolved := hres
  refine ⟨resolved, sig, signerInfo, hres, rfl, hsig, fun hread hblob hmanifest => ?_⟩
  -- the registry as `Sign` left it: the uploads of its one push
  rw [htrace]
  set r' := r.applyAll sha256 marshal (pushSignature (memUploads sha256 marshal) artifactType
    remoteOpts.signatureMediaType sig (withMetadata resolved remoteOpts.userMetadata)
    (generateAnnotations sha256 signerInfo signer.pluginAnnotations) ociImageManifest).2 with hr'
  have hafter : r.afterCalls sha256 marshal artifactType ociImageManifest
      [.resolve remoteOpts.artifactReference,
        .sign (withMetadata resolved remoteOpts.userMetadata) remoteOpts.toSignOptions,
        .pushSignature remoteOpts.signatureMediaType sig (withMetadata resolved remoteOpts.userMetadata)
          (generateAnnotations sha256 signerInfo signer.pluginAnnotations)] = r' := rfl
  rw [hafter]
  obtain ⟨hlist, hfetch⟩ := pushSignature_readback r json artifactType remoteOpts.signatureMediaType sig
    (withMetadata resolved remoteOpts.userMetadata) (generateAnnotations sha256 signerInfo signer.pluginAnnotations)
    ociImageManifest hread hblob hmanifest (s := resolved) rfl
  rw [← hr'] at hlist hfetch
  -- `Verify` resolves the reference to the same artifact, which has the one referrer
  have hpre : verifyPreamble parseReference verifier (r'.repository sha256 marshal json artifactType
      ociImageManifest) verifyOpts = .resolved resolved (verifyOpts.verifyOptions "") := by
    simp [verifyPreamble, checkSkip, hskip, not_le.2 hm, href, hparse, hrefne, RegistryState.repository,
      repositoryClient, RegistryState.stores, hr', hres, RemoteVerifyOptions.verifyOptions]
  have hpages : r'.referrers artifactType resolved = [[packDescriptor sha256 marshal (signatureManifest sha256
      artifactType remoteOpts.signatureMediaType sig (withMetadata resolved remoteOpts.userMetadata)
      (generateAnnotations sha256 signerInfo signer.pluginAnnotations) ociImageManifest)]] := by
    have hnone : r.referrerList artifactType resolved = [] := by
      simpa [RegistryState.referrers] using hfresh
    simp [RegistryState.referrers, hlist, hnone]
  rw [show verify parseReference verifier (r'.repository sha256 marshal json artifactType ociImageManifest)
    verifyOpts = _ by rw [verify, hpre]]
  exact Loop.verifySignatures_single
    (L := remoteLoop verifier (r'.repository sha256 marshal json artifactType ociImageManifest) verifyOpts
      resolved (verifyOpts.verifyOptions "")) hm hpages (congrArg Prod.fst hfetch)

theorem verify_after_sign_sample :
    (sign tagReference id constantSigner
        (some (sampleRegistry.repository id (fun _ => [0]) sampleJson "application/vnd.cncf.notary.signature"
          true))
        (plainLocalOpts.toRemote "registry.io/foo:v1") plainMetadata).1 =
        .ok (withMetadata sampleSubject plain) ∧
      sampleRegistry.referrers "application/vnd.cncf.notary.signature" (withMetadata sampleSubject plain) = [[]] ∧
      (sampleRemoteOpts 1).artifactReference = (plainLocalOpts.toRemote "registry.io/foo:v1").artifactReference ∧
      0 < (sampleRemoteOpts 1).maxSignatureAttempts ∧ (acceptingVerifier none).skipVerify = none ∧
      ∃ resolved, sampleRegistry.resolve "registry.io/foo:v1" = .ok resolved ∧
        withMetadata sampleSubject plain = withMetadata resolved plain :=
  have hsign : (sign tagReference id constantSigner
      (some (sampleRegistry.repository id (fun _ => [0]) sampleJson "application/vnd.cncf.notary.signature"
        true))
      (plainLocalOpts.toRemote "registry.io/foo:v1") plainMetadata).1 =
      .ok (withMetadata sampleSubject plain) := rfl
  have hafter := verify_after_sign tagReference id (fun _ => [0]) sampleJson "application/vnd.cncf.notary.signature"
    true constantSigner sampleRegistry (plainLocalOpts.toRemote "registry.io/foo:v1") plainMetadata
    (acceptingVerifier none) (sampleRemoteOpts 1) hsign rfl rfl (by decide) rfl
  ⟨hsign, rfl, rfl, by decide, rfl,
    let ⟨resolved, _, _, hres, hd, _⟩ := hafter
    ⟨resolved, hres, hd⟩⟩

end Notation.Registry
