import Notation.Registry.Repository

/-!
# Pushing a signature

`repositoryClient.PushSignature` pushes the envelope to the blob store with
`oras.PushBytes` and then packs a signature manifest with `oras.Pack`: the envelope's
descriptor as its one blob, the signed artifact as its subject and the annotations as
the manifest's. The older `RepositoryClient.PutSignatureManifest` does the same with its
own `uploadSignature`, which describes the envelope by its bytes, and returns the
`SignatureManifest` it wrote. The ORAS calls are functions given to the model, and each
adapter returns the uploads it made, in order.

In both, the manifest is packed only once the envelope is in the blob store, and it
lists exactly the descriptor that push returned (or, in the older client, built).
-/

namespace Notation.Registry
open Go

/-- The ORAS calls that write to a repository: `oras.PushBytes` and `Blobs().Push` to its
blob store, and `oras.Pack` to its manifest store (artifact type, blobs, subject,
manifest annotations, and whether to pack an OCI image manifest). -/
structure Uploads where
  pushBytes : String → Bytes → Except Error Descriptor
  pushBlob : Descriptor → Bytes → Option Error
  pack : String → List Descriptor → Descriptor → StrMap → Bool → Except Error Descriptor

/-- An upload an adapter makes. -/
inductive Upload where
  | pushBytes (mediaType : String) (blob : Bytes)
  | pushBlob (desc : Descriptor) (blob : Bytes)
  | pack (artifactType : String) (blobs : List Descriptor) (subject : Descriptor) (annotations : StrMap)
      (imageManifest : Bool)
deriving DecidableEq

/-- `SignatureManifest` of the older client. -/
structure SignatureManifest where
  blob : Descriptor
  annotations : StrMap
deriving DecidableEq

/-- `digest.FromBytes`: the canonical digest, `sha256:` and the hex of the content's
SHA-256. -/
def digestFromBytes (sha256 : Bytes → Bytes) (blob : Bytes) : String :=
  "sha256:" ++ hexEncode (sha256 blob)

/-- `notationDescriptorFromOCI`: the media type, digest and size. -/
def notationDescriptorFromOCI (desc : Descriptor) : Descriptor :=
  ⟨desc.mediaType, desc.digest, desc.size, none⟩

/-- `ociDescriptorFromNotation`, the same three fields the other way. -/
def ociDescriptorFromNotation (desc : Descriptor) : Descriptor :=
  ⟨desc.mediaType, desc.digest, desc.size, none⟩

/-! `artifactType` is `ArtifactTypeNotation`, which both clients pack under. -/

variable (up : Uploads) (artifactType : String)

/-- `repositoryClient.uploadSignatureManifest`. -/
def uploadSignatureManifest (subject blobDesc : Descriptor) (annotations : StrMap)
    (ociImageManifest : Bool) : Except Error Descriptor :=
  up.pack artifactType [blobDesc] subject annotations ociImageManifest

/-- `repositoryClient.PushSignature`: the envelope's and the manifest's descriptors, and
the uploads made. -/
def pushSignature (mediaType : String) (blob : Bytes) (subject : Descriptor) (annotations : StrMap)
    (ociImageManifest : Bool) : Except Error (Descriptor × Descriptor) × List Upload :=
  let calls := [Upload.pushBytes mediaType blob]
  match up.pushBytes mediaType blob with
  | .error e => (.error e, calls)
  | .ok blobDesc =>
    let calls := calls ++ [.pack artifactType [blobDesc] subject annotations ociImageManifest]
    match uploadSignatureManifest up artifactType subject blobDesc annotations ociImageManifest with
    | .error e => (.error e, calls)
    | .ok manifestDesc => (.ok (blobDesc, manifestDesc), calls)

/-- `RepositoryClient.uploadSignature`: the envelope described by its media type, digest
and length, pushed under that descriptor. -/
def RepositoryClient.uploadSignature (sha256 : Bytes → Bytes) (blob : Bytes) (mediaType : String) :
    Except Error Descriptor × List Upload :=
  let desc : Descriptor := ⟨mediaType, digestFromBytes sha256 blob, blob.length, none⟩
  match up.pushBlob desc blob with
  | some e => (.error e, [.pushBlob desc blob])
  | none => (.ok desc, [.pushBlob desc blob])

/-- `RepositoryClient.uploadSignatureManifest`: packed as an artifact manifest. -/
def RepositoryClient.uploadSignatureManifest (subject blobDesc : Descriptor) (annotations : StrMap) :
    Except Error Descriptor :=
  up.pack artifactType [blobDesc] subject annotations false

/-- `RepositoryClient.PutSignatureManifest`: the manifest's descriptor and the
`SignatureManifest` written, and the uploads made. -/
def RepositoryClient.putSignatureManifest (sha256 : Bytes → Bytes) (signature : Bytes)
    (signatureMediaType : String) (subjectManifest : Descriptor) (annotations : StrMap) :
    Except Error (Descriptor × SignatureManifest) × List Upload :=
  match RepositoryClient.uploadSignature up sha256 signature signatureMediaType with
  | (.error e, calls) => (.error e, calls)
  | (.ok signatureDesc, calls) =>
    let subject := ociDescriptorFromNotation subjectManifest
    let calls := calls ++ [.pack artifactType [signatureDesc] subject annotations false]
    match RepositoryClient.uploadSignatureManifest up artifactType subject signatureDesc annotations with
    | .error e => (.error e, calls)
    | .ok manifestDesc =>
      (.ok (notationDescriptorFromOCI manifestDesc,
          ⟨notationDescriptorFromOCI signatureDesc, annotations⟩), calls)

/-! ## The manifest follows its envelope -/

/-- **`PushSignature`** packs a manifest only after the envelope's push returned its
descriptor, and that manifest has it as its one blob; it succeeds exactly when both
uploads do, with the descriptors they returned. -/
theorem pushSignature_spec (mediaType : String) (blob : Bytes) (subject : Descriptor)
    (annotations : StrMap) (ociImageManifest : Bool) :
    ((pushSignature up artifactType mediaType blob subject annotations ociImageManifest).2 =
        [.pushBytes mediaType blob] ∨
      ∃ blobDesc, up.pushBytes mediaType blob = .ok blobDesc ∧
        (pushSignature up artifactType mediaType blob subject annotations ociImageManifest).2 =
          [.pushBytes mediaType blob, .pack artifactType [blobDesc] subject annotations ociImageManifest]) ∧
    ∀ blobDesc manifestDesc,
      (pushSignature up artifactType mediaType blob subject annotations ociImageManifest).1 =
          .ok (blobDesc, manifestDesc) ↔
        up.pushBytes mediaType blob = .ok blobDesc ∧
        up.pack artifactType [blobDesc] subject annotations ociImageManifest = .ok manifestDesc := by
  unfold pushSignature uploadSignatureManifest
  rcases hb : up.pushBytes mediaType blob with e | blobDesc
  · simp
  rcases hm : up.pack artifactType [blobDesc] subject annotations ociImageManifest with e | manifestDesc
  · simp [hm]
    rintro _ _ rfl
    simp [hm]
  simp only [hm, List.singleton_append, Except.ok.injEq, Prod.mk.injEq]
  refine ⟨.inr ⟨blobDesc, rfl, rfl⟩, fun b m => ⟨?_, ?_⟩⟩
  · rintro ⟨rfl, rfl⟩
    exact ⟨rfl, hm⟩
  · rintro ⟨rfl, h⟩
    exact ⟨rfl, Except.ok.inj (hm.symm.trans h)⟩

end Notation.Registry
