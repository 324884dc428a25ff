import Notation.Registry.Push

/-!
# Listing signature manifests with the older client

`RepositoryClient.ListSignatureManifests` hands a callback to the referrers API, page
by page. For each referrer that is an ORAS artifact manifest the callback fetches the
manifest (`getArtifactManifest`, within its cap) and, when it lists a blob, records the
first blob's descriptor with the manifest's annotations; any other referrer, and a
manifest with no blob, is passed over; a failed fetch stops the listing with an error.

The callback loops over its page, so the paged run is the callback over all referrers
in delivery order (`referrers_flatten`); over that list the loop records exactly the
`filterMap` of `signatureManifestOf` when no fetch fails (`listPage_cases`), and
otherwise stops with an error (`listSignatureManifests_spec`).
-/

namespace Notation.Registry
open Go

/-- `artifactspec.MediaTypeArtifactManifest`: the ORAS artifact manifest. -/
def orasMediaTypeArtifactManifest : String := "application/vnd.cncf.oras.artifact.manifest.v1+json"

/-- `notationDescriptorFromArtifact`: the media type, digest and size. -/
def notationDescriptorFromArtifact (desc : Descriptor) : Descriptor :=
  ⟨desc.mediaType, desc.digest, desc.size, none⟩

variable (reg : Stores) (json : Json)

/-- The error the callback returns when a referrer's manifest cannot be fetched. -/
def fetchManifestError (desc : Descriptor) (err : Error) : Error :=
  .other ("failed to fetch manifest: " ++ desc.digest ++ ": " ++ err.error)

/-- The callback of `ListSignatureManifests` over one page: the signature manifests
listed so far, and the error that stops the listing. -/
def listPage (signatureManifests : List SignatureManifest) :
    List Descriptor → List SignatureManifest × Option Error
  | [] => (signatureManifests, none)
  | desc :: referrers =>
    if desc.mediaType ≠ orasMediaTypeArtifactManifest then listPage signatureManifests referrers
    else
      match (getArtifactManifest reg json desc.digest).1 with
      | .error err => (signatureManifests, some (fetchManifestError desc err))
      | .ok artifact =>
        match artifact.blobs with
        | [] => listPage signatureManifests referrers
        | blob :: _ =>
          listPage (signatureManifests ++ [⟨notationDescriptorFromArtifact blob, artifact.annotations⟩])
            referrers

/-- `RepositoryClient.ListSignatureManifests`; `referrerPages` are the pages the
referrers API serves for a manifest digest. -/
def listSignatureManifests (referrerPages : String → List (List Descriptor)) (manifestDigest : String) :
    Except Error (List SignatureManifest) :=
  match referrers (listPage reg json) [] (referrerPages manifestDigest) with
  | (_, some err, _) => .error err
  | (signatureManifests, none, _) => .ok signatureManifests

/-! ## What a referrer contributes -/

/-- What a referrer contributes to the listing: for an ORAS artifact manifest that lists
a blob, the descriptor of its first blob with the manifest's annotations. -/
def signatureManifestOf (desc : Descriptor) : Option SignatureManifest :=
  if desc.mediaType = orasMediaTypeArtifactManifest then
    match (getArtifactManifest reg json desc.digest).1 with
    | .ok ⟨blob :: _, annotations⟩ => some ⟨notationDescriptorFromArtifact blob, annotations⟩
    | _ => none
  else none

/-- The referrer is an ORAS artifact manifest whose fetch fails. -/
def FetchFails (desc : Descriptor) : Prop :=
  desc.mediaType = orasMediaTypeArtifactManifest ∧ ∃ e, (getArtifactManifest reg json desc.digest).1 = .error e

theorem listPage_append (signatureManifests : List SignatureManifest) (page rest : List Descriptor) :
    listPage reg json signatureManifests (page ++ rest) =
      if (listPage reg json signatureManifests page).2.isNone then
        listPage reg json (listPage reg json signatureManifests page).1 rest
      else listPage reg json signatureManifests page := by
  induction page generalizing signatureManifests with
  | nil => rfl
  | cons desc page ih =>
    by_cases ht : desc.mediaType = orasMediaTypeArtifactManifest
    · rcases hf : (getArtifactManifest reg json desc.digest).1 with err | ⟨_ | ⟨blob, _⟩, annotations⟩ <;>
        simp [listPage, ht, hf, ih]
    · simp [listPage, ht, ih]

/-- A referrer whose fetch does not fail adds its contribution and the loop goes on. -/
theorem listPage_cons_of_not_fails {desc : Descriptor} (h : ¬FetchFails reg json desc)
    (signatureManifests : List SignatureManifest) (ds : List Descriptor) :
    listPage reg json signatureManifests (desc :: ds) =
      listPage reg json (signatureManifests ++ (signatureManifestOf reg json desc).toList) ds := by
  by_cases ht : desc.mediaType = orasMediaTypeArtifactManifest
  · rcases hf : (getArtifactManifest reg json desc.digest).1 with err | ⟨_ | ⟨blob, _⟩, annotations⟩
    · exact absurd ⟨ht, err, hf⟩ h
    all_goals simp [listPage, signatureManifestOf, ht, hf]
  · simp [listPage, signatureManifestOf, ht]

/-- **The loop over the referrers**: when no fetch fails it records, after what it had,
the contribution of each referrer in order; otherwise it stops with an error. -/
theorem listPage_cases (signatureManifests : List SignatureManifest) (ds : List Descriptor) :
    (∀ desc ∈ ds, ¬FetchFails reg json desc) ∧
        listPage reg json signatureManifests ds =
          (signatureManifests ++ ds.filterMap (signatureManifestOf reg json), none) ∨
      (∃ desc ∈ ds, FetchFails reg json desc) ∧
        ∃ e, (listPage reg json signatureManifests ds).2 = some e := by
  induction ds generalizing signatureManifests with
  | nil => simp [listPage]
  | cons desc ds ih =>
    by_cases hd : FetchFails reg json desc
    · -- the fetch fails: the listing stops here
      obtain ⟨ht, err, hf⟩ := hd
      exact .inr ⟨⟨desc, List.mem_cons_self _ _, ht, err, hf⟩, fetchManifestError desc err,
        by simp [listPage, ht, hf]⟩
    · rw [listPage_cons_of_not_fails reg json hd]
      rcases ih (signatureManifests ++ (signatureManifestOf reg json desc).toList) with
        ⟨hall, heq⟩ | ⟨hbad, e, he⟩
      · refine .inl ⟨List.forall_mem_cons.2 ⟨hd, hall⟩, ?_⟩
        rw [heq]
        cases h : signatureManifestOf reg json desc <;> simp [List.filterMap_cons, h]
      · exact .inr ⟨List.exists_mem_cons_of_exists hbad, e, he⟩

/-- The paged run of the callback is its run over all referrers in delivery order. -/
theorem referrers_listPage (pages : List (List Descriptor)) :
    ((referrers (listPage reg json) [] pages).1, (referrers (listPage reg json) [] pages).2.1) =
      listPage reg json [] pages.flatten :=
  referrers_flatten (fun _ => rfl) (listPage_append reg json) [] pages

/-- **`ListSignatureManifests` over any paging**: it fails exactly when the manifest of
some referrer that is an ORAS artifact manifest cannot be fetched; when it succeeds it
lists, in delivery order across all pages, one signature manifest per ORAS artifact
manifest that lists a blob, with the descriptor of its first blob and its
annotations, and nothing for any other referrer. -/
theorem listSignatureManifests_spec (referrerPages : String → List (List Descriptor))
    (manifestDigest : String) :
    (∀ l, listSignatureManifests reg json referrerPages manifestDigest = .ok l →
      l = (referrerPages manifestDigest).flatten.filterMap (signatureManifestOf reg json)) ∧
    ((∃ e, listSignatureManifests reg json referrerPages manifestDigest = .error e) ↔
      ∃ desc ∈ (referrerPages manifestDigest).flatten, desc.mediaType = orasMediaTypeArtifactManifest ∧
        ∃ e, (getArtifactManifest reg json desc.digest).1 = .error e) := by
  have hflat := referrers_listPage reg json (referrerPages manifestDigest)
  unfold listSignatureManifests
  rcases hr : referrers (listPage reg json) [] (referrerPages manifestDigest) with ⟨acc, err, n⟩
  rw [hr] at hflat
  rcases listPage_cases reg json [] (referrerPages manifestDigest).flatten with
    ⟨hall, heq⟩ | ⟨hbad, e, he⟩
  · -- every fetch succeeds: the loop's list
    obtain ⟨rfl, rfl⟩ := Prod.mk.inj (hflat.trans heq)
    simp only [List.nil_append, Except.ok.injEq, reduceCtorEq, exists_false, false_iff, not_exists,
      not_and]
    exact ⟨fun l hl => hl.symm, fun desc hd ht e he => hall desc hd ⟨ht, e, he⟩⟩
  · -- a fetch fails: the error
    obtain rfl : err = some e := (congrArg Prod.snd hflat).trans he
    simp only [reduceCtorEq, false_implies, implies_true, true_and]
    exact iff_of_true ⟨e, rfl⟩ hbad

end Notation.Registry
