import Notation.Basic

/-!
# The repository adapters' size caps

`repositoryClient.FetchSignatureBlob` reads a signature manifest no larger than
`maxManifestSizeLimit`, takes its `blobs` (artifact manifest) or `layers` (image
manifest), insists on exactly one, and fetches it when it is no larger than
`maxBlobSizeLimit`. The older `RepositoryClient` caps `GetBlob` and
`getArtifactManifest` the same way, after resolving the digest. The registry's stores
and `json.Unmarshal` are functions given to the model; each adapter also returns the
fetches it made, in order.
-/

namespace Notation.Registry
open Go

/-- `maxBlobSizeLimit`: 32 MiB. -/
def maxBlobSizeLimit : Int := 32 * 1024 * 1024

/-- `maxManifestSizeLimit`: 4 MiB. -/
def maxManifestSizeLimit : Int := 4 * 1024 * 1024

/-- `ocispec.MediaTypeArtifactManifest`. -/
def mediaTypeArtifactManifest : String := "application/vnd.oci.artifact.manifest.v1+json"

/-- `ocispec.MediaTypeImageManifest`. -/
def mediaTypeImageManifest : String := "application/vnd.oci.image.manifest.v1+json"

/-- The registry's manifest and blob stores: `Resolve` of a reference, and
`content.FetchAll` of a descriptor. -/
structure Stores where
  resolveManifest : String → Except Error Descriptor
  resolveBlob : String → Except Error Descriptor
  fetchManifest : Descriptor → Except Error Bytes
  fetchBlob : Descriptor → Except Error Bytes

/-- An `artifactspec.Manifest` (the ORAS artifact manifest of the older client). -/
structure ArtifactManifest where
  blobs : List Descriptor
  annotations : StrMap

/-- `json.Unmarshal` of a manifest, by the type decoded into: the `Blobs` of an
`ocispec.Artifact`, the `Layers` of an `ocispec.Manifest`, and an
`artifactspec.Manifest`. -/
structure Json where
  artifactBlobs : Bytes → Except Error (List Descriptor)
  manifestLayers : Bytes → Except Error (List Descriptor)
  orasArtifact : Bytes → Except Error ArtifactManifest

/-- A fetch an adapter makes from the registry. -/
inductive Call where
  | resolveManifest (reference : String)
  | resolveBlob (reference : String)
  | fetchManifest (desc : Descriptor)
  | fetchBlob (desc : Descriptor)
deriving DecidableEq

variable (reg : Stores) (json : Json)

/-- `repositoryClient.getSignatureBlobsDesc`. -/
def getSignatureBlobsDesc (sigManifestDesc : Descriptor) : Except Error (List Descriptor) × List Call :=
  if sigManifestDesc.size > maxManifestSizeLimit then
    (.error (.other ("signature manifest too large: " ++ toString sigManifestDesc.size ++ " bytes")), [])
  else
    let calls := [Call.fetchManifest sigManifestDesc]
    match reg.fetchManifest sigManifestDesc with
    | .error e => (.error e, calls)
    | .ok manifestJSON =>
      if sigManifestDesc.mediaType = mediaTypeArtifactManifest then
        (json.artifactBlobs manifestJSON, calls)
      else if sigManifestDesc.mediaType = mediaTypeImageManifest then
        (json.manifestLayers manifestJSON, calls)
      else
        (.error (.other ("sigManifestDesc.MediaType requires " ++ goQuote mediaTypeArtifactManifest ++
          " or " ++ goQuote mediaTypeImageManifest ++ ", got " ++ goQuote sigManifestDesc.mediaType)), calls)

/-- `repositoryClient.FetchSignatureBlob`. -/
def fetchSignatureBlob (desc : Descriptor) : Except Error (Bytes × Descriptor) × List Call :=
  match getSignatureBlobsDesc reg json desc with
  | (.error e, calls) => (.error e, calls)
  | (.ok signatureBlobs, calls) =>
    match signatureBlobs with
    | [sigDesc] =>
      if sigDesc.size > maxBlobSizeLimit then
        (.error (.other ("signature blob too large: " ++ toString sigDesc.size ++ " bytes")), calls)
      else
        let calls := calls ++ [.fetchBlob sigDesc]
        match reg.fetchBlob sigDesc with
        | .error e => (.error e, calls)
        | .ok sigBlob => (.ok (sigBlob, sigDesc), calls)
    | _ =>
      (.error (.other ("signature manifest requries exactly one signature envelope blob, got " ++
        toString signatureBlobs.length)), calls)

/-- `RepositoryClient.GetBlob` of the older client. -/
def getBlob (digest : String) : Except Error Bytes × List Call :=
  let calls := [Call.resolveBlob digest]
  match reg.resolveBlob digest with
  | .error e => (.error e, calls)
  | .ok desc =>
    if desc.size > maxBlobSizeLimit then
      (.error (.other ("signature blob too large: " ++ toString desc.size)), calls)
    else (reg.fetchBlob desc, calls ++ [.fetchBlob desc])

/-- `RepositoryClient.getArtifactManifest` of the older client. -/
def getArtifactManifest (manifestDigest : String) : Except Error ArtifactManifest × List Call :=
  let calls := [Call.resolveManifest manifestDigest]
  match reg.resolveManifest manifestDigest with
  | .error e => (.error e, calls)
  | .ok desc =>
    if desc.size > maxManifestSizeLimit then
      (.error (.other ("manifest too large: " ++ toString desc.size)), calls)
    else
      let calls := calls ++ [.fetchManifest desc]
      match reg.fetchManifest desc with
      | .error e => (.error e, calls)
      | .ok manifestJSON => (json.orasArtifact manifestJSON, calls)

/-! ## What a fetch tells -/

/-- What `FetchSignatureBlob` has checked of the signature manifest `d` when it goes on
to the blob `b`. -/
structure BlobListed (d b : Descriptor) : Prop where
  manifestSize : d.size ≤ maxManifestSizeLimit
  manifest : ∃ manifestJSON, reg.fetchManifest d = .ok manifestJSON ∧
    (d.mediaType = mediaTypeArtifactManifest ∧ json.artifactBlobs manifestJSON = .ok [b] ∨
      d.mediaType = mediaTypeImageManifest ∧ json.manifestLayers manifestJSON = .ok [b])
  blobSize : b.size ≤ maxBlobSizeLimit

/-- `getSignatureBlobsDesc` fetches the manifest only within the cap, and lists what the
decoder for its media type reads. -/
theorem getSignatureBlobsDesc_cases (d : Descriptor) :
    (∃ e, getSignatureBlobsDesc reg json d = (.error e, [])) ∧ maxManifestSizeLimit < d.size ∨
      d.size ≤ maxManifestSizeLimit ∧ (getSignatureBlobsDesc reg json d).2 = [.fetchManifest d] ∧
      ∀ l, (getSignatureBlobsDesc reg json d).1 = .ok l → ∃ manifestJSON,
        reg.fetchManifest d = .ok manifestJSON ∧
        (d.mediaType = mediaTypeArtifactManifest ∧ json.artifactBlobs manifestJSON = .ok l ∨
          d.mediaType = mediaTypeImageManifest ∧ json.manifestLayers manifestJSON = .ok l) := by
  unfold getSignatureBlobsDesc
  by_cases hs : d.size > maxManifestSizeLimit
  · exact .inl ⟨⟨_, if_pos hs⟩, hs⟩
  simp only [hs, if_false]
  refine .inr ⟨not_lt.1 hs, by split <;> (try split_ifs) <;> rfl, fun l hl => ?_⟩
  split at hl
  · cases hl
  · rename_i manifestJSON hm
    refine ⟨manifestJSON, hm, ?_⟩
    split_ifs at hl with ha hi
    · exact .inl ⟨ha, hl⟩
    · exact .inr ⟨hi, hl⟩

/-- A manifest that lists `b` alone gives `[b]`. -/
theorem getSignatureBlobsDesc_of_listed {d b : Descriptor} (h : BlobListed reg json d b) :
    (getSignatureBlobsDesc reg json d).1 = .ok [b] := by
  obtain ⟨manifestJSON, hm, ⟨ht, hl⟩ | ⟨ht, hl⟩⟩ := h.manifest <;>
    simp [getSignatureBlobsDesc, not_lt.2 h.manifestSize, hm, ht, hl,
      mediaTypeImageManifest, mediaTypeArtifactManifest]

/-- **`FetchSignatureBlob` within the caps**: it fetches the manifest only when it is
within 4 MiB, and a blob only once the manifest lists exactly that blob, within 32 MiB;
it returns the blob's bytes and descriptor exactly when all of that holds and the blob
fetch succeeds. -/
theorem fetchSignatureBlob_spec (d : Descriptor) :
    ((fetchSignatureBlob reg json d).2 = [] ∨
      d.size ≤ maxManifestSizeLimit ∧ ((fetchSignatureBlob reg json d).2 = [.fetchManifest d] ∨
        ∃ b, BlobListed reg json d b ∧ (fetchSignatureBlob reg json d).2 = [.fetchManifest d, .fetchBlob b])) ∧
    ∀ bytes b, (fetchSignatureBlob reg json d).1 = .ok (bytes, b) ↔
      BlobListed reg json d b ∧ reg.fetchBlob b = .ok bytes := by
  rcases getSignatureBlobsDesc_cases reg json d with ⟨⟨e, hg⟩, hbig⟩ | ⟨hsize, htrace, hlist⟩
  · -- the manifest is too large
    have hnot : ∀ b, ¬BlobListed reg json d b := fun b h => absurd h.manifestSize (not_le.2 hbig)
    simp [fetchSignatureBlob, hg, hnot]
  rcases hg : getSignatureBlobsDesc reg json d with ⟨_ | l, calls⟩
  · -- the manifest is not fetched, or not decoded
    have hnot : ∀ b, ¬BlobListed reg json d b := fun b h => by
      simpa [hg] using getSignatureBlobsDesc_of_listed reg json h
    simp_all [fetchSignatureBlob]
  -- the manifest lists `l`
  obtain rfl : calls = [.fetchManifest d] := by simpa [hg] using htrace
  obtain ⟨manifestJSON, hm, hdec⟩ := hlist l (by simp [hg])
  have hlisted : ∀ b, BlobListed reg json d b ↔ l = [b] ∧ b.size ≤ maxBlobSizeLimit := fun b =>
    ⟨fun h => ⟨by simpa [hg] using getSignatureBlobsDesc_of_listed reg json h, h.blobSize⟩,
      fun ⟨hl, hb⟩ => ⟨hsize, ⟨manifestJSON, hm, hl ▸ hdec⟩, hb⟩⟩
  simp only [fetchSignatureBlob, hg, hlisted]
  rcases l with _ | ⟨b, _ | ⟨b', l⟩⟩
  · simp [hsize]
  · by_cases hb : b.size > maxBlobSizeLimit
    · simp [hsize, hb]
    rcases hf : reg.fetchBlob b with e | bytes
    · simp [hsize, hb, hf, not_lt.1 hb]
    simp only [hb, if_false, hf, Except.ok.injEq, Prod.mk.injEq, List.cons.injEq, and_true]
    refine ⟨.inr ⟨hsize, .inr ⟨b, ⟨rfl, not_lt.1 hb⟩, rfl⟩⟩, fun bytes' b' => ⟨?_, ?_⟩⟩
    · rintro ⟨rfl, rfl⟩
      exact ⟨⟨rfl, not_lt.1 hb⟩, hf⟩
    · rintro ⟨⟨rfl, -⟩, h⟩
      exact ⟨Except.ok.inj (hf.symm.trans h), rfl⟩
  · simp [hsize]

/-- `GetBlob` fetches only the descriptor its digest resolves to, within 32 MiB, and
returns what that fetch returns. -/
theorem getBlob_cases (digest : String) :
    (getBlob reg digest).2 = [.resolveBlob digest] ∨
      ∃ desc, reg.resolveBlob digest = .ok desc ∧ desc.size ≤ maxBlobSizeLimit ∧
        (getBlob reg digest).2 = [.resolveBlob digest, .fetchBlob desc] ∧
        (getBlob reg digest).1 = reg.fetchBlob desc := by
  unfold getBlob
  rcases hr : reg.resolveBlob digest with e | desc
  · simp
  by_cases hs : desc.size > maxBlobSizeLimit
  · simp [hs]
  · exact .inr ⟨desc, rfl, not_lt.1 hs, by simp [hs], by simp [hs]⟩

/-- `getArtifactManifest` fetches only the descriptor its digest resolves to, within
4 MiB, and returns a manifest only as decoded from what that fetch returns. -/
theorem getArtifactManifest_cases (manifestDigest : String) :
    (getArtifactManifest reg json manifestDigest).2 = [.resolveManifest manifestDigest] ∨
      ∃ desc, reg.resolveManifest manifestDigest = .ok desc ∧ desc.size ≤ maxManifestSizeLimit ∧
        (getArtifactManifest reg json manifestDigest).2 =
          [.resolveManifest manifestDigest, .fetchManifest desc] ∧
        ∀ manifest, (getArtifactManifest reg json manifestDigest).1 = .ok manifest →
          ∃ manifestJSON, reg.fetchManifest desc = .ok manifestJSON ∧
            json.orasArtifact manifestJSON = .ok manifest := by
  unfold getArtifactManifest
  rcases hr : reg.resolveManifest manifestDigest with e | desc
  · simp
  by_cases hs : desc.size > maxManifestSizeLimit
  · simp [hs]
  refine .inr ⟨desc, rfl, not_lt.1 hs, ?_⟩
  rcases hf : reg.fetchManifest desc with e | manifestJSON <;> simp [hs, hf]

/-- **The adapters stay within the caps**: `FetchSignatureBlob` fetches a manifest only
within 4 MiB and a blob only when that manifest lists exactly that blob, within 32 MiB,
and returns it exactly then; the older client's `GetBlob` and `getArtifactManifest`
fetch only a resolved descriptor within 32 MiB and 4 MiB. -/
theorem repository_fetch_caps (reg : Stores) (json : Json) (d : Descriptor) (digest : String) :
    (((fetchSignatureBlob reg json d).2 = [] ∨
      d.size ≤ maxManifestSizeLimit ∧ ((fetchSignatureBlob reg json d).2 = [.fetchManifest d] ∨
        ∃ b, BlobListed reg json d b ∧
          (fetchSignatureBlob reg json d).2 = [.fetchManifest d, .fetchBlob b])) ∧
      ∀ bytes b, (fetchSignatureBlob reg json d).1 = .ok (bytes, b) ↔
        BlobListed reg json d b ∧ reg.fetchBlob b = .ok bytes) ∧
    (∀ desc, Call.fetchBlob desc ∈ (getBlob reg digest).2 →
      reg.resolveBlob digest = .ok desc ∧ desc.size ≤ maxBlobSizeLimit) ∧
    (∀ desc, Call.fetchManifest desc ∈ (getArtifactManifest reg json digest).2 →
      reg.resolveManifest digest = .ok desc ∧ desc.size ≤ maxManifestSizeLimit) := by
  refine ⟨fetchSignatureBlob_spec reg json d, fun desc h => ?_, fun desc h => ?_⟩
  · rcases getBlob_cases reg digest with hc | ⟨desc', hr, hs, hc, -⟩ <;> simp [hc] at h
    exact h ▸ ⟨hr, hs⟩
  · rcases getArtifactManifest_cases reg json digest with hc | ⟨desc', hr, hs, hc, -⟩ <;> simp [hc] at h
    exact h ▸ ⟨hr, hs⟩

end Notation.Registry
