import Notation.Verification.TrustStore

/-!
# Notation's directory layout

`dir.PathManager` builds the paths of the config file, the trust policy, the local keys,
the signing-key config and the x509 trust stores: at the system or user level by
`filepath.Join` under `systemConfig` or `userConfig`, at the union level by asking the
config file system (`UnionDirFS.GetPath`, given to the model; `checkError` panics on an
error other than not-exist, which is not modelled). The three paths switched on the
level are one definition, `levelPath`, applied to each file's own elements.

Under a config directory of kept elements, a path built at the system or user level is
that directory followed by the path's elements (`levelPath_ofElements`); so a trust store
loaded from the path `X509TrustStore` builds is named after the store and prefix asked
for.

The signature cache lays out `signatures/<alg>/<encoded>/<alg>/<encoded>.sig` under the
cache directory, by go-digest's split of each digest at its first `:`. Over a cache of
one directory and digests whose parts are kept elements, each manifest's signatures sit
under its root, which sits under the store directory (`cachedSignature_under_root`),
and no two pairs of digests share a file (`cachedSignature_inj`).
-/

namespace Notation.Dir
open Go Filepath Verification

/-- `ConfigFile`. -/
def configFile : String := "config.json"

/-- `LocalCertificateExtension`. -/
def localCertificateExtension : String := ".crt"

/-- `LocalKeyExtension`. -/
def localKeyExtension : String := ".key"

/-- `LocalKeysDir`. -/
def localKeysDir : String := "localkeys"

/-- `SigningKeysFile`. -/
def signingKeysFile : String := "signingkeys.json"

/-- `TrustPolicyFile`. -/
def trustPolicyFile : String := "trustpolicy.json"

/-- `TrustStoreDir`. -/
def trustStoreDir : String := "truststore"

/-- `DirLevel`, a Go `int`: any value, of which three are named levels. -/
structure DirLevel where
  level : Int
deriving DecidableEq

/-- `UnionLevel`. -/
def DirLevel.unionLevel : DirLevel := ⟨0⟩

/-- `SystemLevel`. -/
def DirLevel.systemLevel : DirLevel := ⟨1⟩

/-- `UserLevel`. -/
def DirLevel.userLevel : DirLevel := ⟨2⟩

/-- A `UnionDirFS` as the path methods use it: `GetPath` of the elements. -/
structure UnionDirFS where
  getPath : List String → String

/-- `PathManager`, by the file system its modelled methods read. -/
structure PathManager where
  configFS : UnionDirFS

/-! `systemConfig` and `userConfig` are the package's system and user config directories. -/

variable (systemConfig userConfig : String) (p : PathManager)

/-- The path of `elems` at `dirLevel`: the switch that `Config`, `TrustPolicy` and
`X509TrustStore` share. It has no default case, so a level other than the three named
ones leaves the path empty. -/
def levelPath (dirLevel : DirLevel) (elems : List String) : String :=
  if dirLevel = .unionLevel then p.configFS.getPath elems
  else if dirLevel = .systemLevel then joinList (systemConfig :: elems)
  else if dirLevel = .userLevel then joinList (userConfig :: elems)
  else ""

/-- `PathManager.Config`. -/
def PathManager.config (dirLevel : DirLevel) : String :=
  levelPath systemConfig userConfig p dirLevel [configFile]

/-- `PathManager.TrustPolicy`. -/
def PathManager.trustPolicy (dirLevel : DirLevel) : String :=
  levelPath systemConfig userConfig p dirLevel [trustPolicyFile]

/-- `PathManager.X509TrustStore`. -/
def PathManager.x509TrustStore (dirLevel : DirLevel) (prefixName namedStore : String) : String :=
  levelPath systemConfig userConfig p dirLevel [trustStoreDir, "x509", prefixName, namedStore]

/-- `PathManager.Localkey`: the key's path and its certificate's. -/
def PathManager.localkey (name : String) : String × String :=
  (joinList [userConfig, localKeysDir, name ++ localKeyExtension],
    joinList [userConfig, localKeysDir, name ++ localCertificateExtension])

/-- `PathManager.SigningKeyConfig`. -/
def PathManager.signingKeyConfig : String :=
  joinList [userConfig, signingKeysFile]

/-- **Paths under a config directory of kept elements**: at the system and user levels,
the path of kept elements is the level's directory followed by them. -/
theorem levelPath_ofElements {dirLevel : DirLevel} {rooted : Bool} {dirElems elems : List String}
    (hdir : dirLevel = .systemLevel ∧ systemConfig = ofElements rooted dirElems ∨
      dirLevel = .userLevel ∧ userConfig = ofElements rooted dirElems)
    (hne : dirElems ≠ []) (h : ∀ e ∈ dirElems ++ elems, Element e) :
    levelPath systemConfig userConfig p dirLevel elems = ofElements rooted (dirElems ++ elems) := by
  rcases hdir with ⟨rfl, rfl⟩ | ⟨rfl, rfl⟩ <;> exact joinList_ofElements rooted hne h

/-- **A trust store loaded from its `PathManager` path is named as asked**: under a system
or user config directory of kept elements, for a prefix and a store name that are kept
elements, `X509TrustStore` builds the directory followed by
`truststore/x509/<prefix>/<name>`, and a store `LoadX509TrustStore` loads from that path
has that name and that prefix. -/
theorem loadX509TrustStore_x509TrustStore (checkSignatureFrom : Certificate → Certificate → Bool)
    (fs : FileSystem) {dirLevel : DirLevel} {rooted : Bool} {dirElems : List String}
    {prefixName namedStore : String}
    (hdir : dirLevel = .systemLevel ∧ systemConfig = ofElements rooted dirElems ∨
      dirLevel = .userLevel ∧ userConfig = ofElements rooted dirElems)
    (hne : dirElems ≠ []) (hconfig : ∀ e ∈ dirElems, Element e)
    (hpre : Element prefixName) (hname : Element namedStore) :
    p.x509TrustStore systemConfig userConfig dirLevel prefixName namedStore =
        ofElements rooted (dirElems ++ [trustStoreDir, "x509", prefixName, namedStore]) ∧
      ∀ store, loadX509TrustStore checkSignatureFrom fs
          (p.x509TrustStore systemConfig userConfig dirLevel prefixName namedStore) = .ok store →
        store.name = namedStore ∧ store.prefixName = prefixName := by
  have hall : ∀ e ∈ dirElems ++ [trustStoreDir, "x509", prefixName, namedStore], Element e := by
    simp only [List.mem_append, List.mem_cons, List.not_mem_nil, or_false]
    rintro e (he | rfl | rfl | rfl | rfl)
    exacts [hconfig e he, by decide, by decide, hpre, hname]
  have hpath : p.x509TrustStore systemConfig userConfig dirLevel prefixName namedStore =
      ofElements rooted (dirElems ++ [trustStoreDir, "x509", prefixName, namedStore]) :=
    levelPath_ofElements systemConfig userConfig p hdir hne hall
  refine ⟨hpath, fun store hs => ?_⟩
  obtain ⟨hn, hp, -⟩ := loadX509TrustStore_names hs
  obtain ⟨hb, hbd⟩ := base_dir_ofElements rooted (dirElems ++ [trustStoreDir, "x509"]) prefixName
    namedStore (by simpa using hall)
  simp only [List.append_assoc, List.cons_append, List.nil_append] at hb hbd
  rw [hpath] at hn hp
  exact ⟨hn.trans hb, hp.trans hbd⟩

/-- A path manager whose union-level lookups are all empty. -/
def emptyUnion : PathManager := ⟨⟨fun _ => ""⟩⟩

theorem loadX509TrustStore_x509TrustStore_home :
    "/home/u/.config/notation" = ofElements true ["home", "u", ".config", "notation"] ∧
      loadX509TrustStore (fun _ _ => true) oneFileFs
          (emptyUnion.x509TrustStore "/etc/notation" "/home/u/.config/notation" .userLevel "ca" "acme") =
        .ok ⟨"acme", "ca", "/home/u/.config/notation/truststore/x509/ca/acme", [rootCert]⟩ ∧
      (emptyUnion.x509TrustStore "/etc/notation" "/home/u/.config/notation" .userLevel "ca" "acme" =
          ofElements true (["home", "u", ".config", "notation"] ++ [trustStoreDir, "x509", "ca", "acme"]) ∧
        ∀ store, loadX509TrustStore (fun _ _ => true) oneFileFs
            (emptyUnion.x509TrustStore "/etc/notation" "/home/u/.config/notation" .userLevel "ca" "acme") =
              .ok store →
          store.name = "acme" ∧ store.prefixName = "ca") :=
  ⟨by decide, rfl, loadX509TrustStore_x509TrustStore "/etc/notation" "/home/u/.config/notation" emptyUnion
    (fun _ _ => true) oneFileFs (.inr ⟨rfl, by decide⟩) (by simp) (by decide) (by decide) (by decide)⟩

/-! ## The signature cache

`CachedSignature`, `CachedSignatureRoot` and `CachedSignatureStoreDirPath` read only the
path manager's `CacheFS`, which they take here, and name a digest by go-digest's
`Algorithm` and `Encoded`. -/

/-- `SignatureExtension`. -/
def signatureExtension : String := ".sig"

/-- `SignatureStoreDirName`. -/
def signatureStoreDirName : String := "signatures"

/-- go-digest's `Digest.Algorithm` and `Digest.Encoded`: the digest's text before and
after its first `:`; `none` where they panic, on a digest without one. -/
def digestParts (d : String) : Option (String × String) :=
  if ':' ∈ d.data then some (⟨d.data.takeWhile (· ≠ ':')⟩, ⟨(d.data.dropWhile (· ≠ ':')).tail⟩)
  else none

section Cache

variable (cacheFS : UnionDirFS)

/-- `PathManager.CachedSignatureStoreDirPath`. -/
def cachedSignatureStoreDirPath : String :=
  cacheFS.getPath [signatureStoreDirName]

/-- `PathManager.CachedSignatureRoot`; `none` where the digest panics. -/
def cachedSignatureRoot (manifestDigest : String) : Option String := do
  let (alg, encoded) ← digestParts manifestDigest
  pure (cacheFS.getPath [signatureStoreDirName, alg, encoded])

/-- `PathManager.CachedSignature`; `none` where a digest panics. -/
def cachedSignature (manifestDigest signatureDigest : String) : Option String := do
  let (manifestAlg, manifestEncoded) ← digestParts manifestDigest
  let (signatureAlg, signatureEncoded) ← digestParts signatureDigest
  pure (cacheFS.getPath [signatureStoreDirName, manifestAlg, manifestEncoded, signatureAlg,
    signatureEncoded ++ signatureExtension])

/-- A `CacheFS` of one directory, the path of the kept elements `dirElems`, whose
`GetPath` joins the elements asked for onto it, as a rooted file system's does. -/
def RootedAt (rooted : Bool) (dirElems : List String) : Prop :=
  ∀ elems, cacheFS.getPath elems = joinList (ofElements rooted dirElems :: elems)

end Cache

/-- A digest whose algorithm and encoded part are each kept as one path element, as those
of a valid digest (`sha256` and lowercase hex) are. -/
structure PathDigest (d alg encoded : String) : Prop where
  parts : digestParts d = some (alg, encoded)
  alg_element : Element alg
  encoded_element : Element encoded

/-- A digest is its algorithm, a `:` and its encoded part, with no `:` in the algorithm. -/
theorem digestParts_some {d alg encoded : String} (h : digestParts d = some (alg, encoded)) :
    d.data = alg.data ++ ':' :: encoded.data ∧ ':' ∉ alg.data := by
  unfold digestParts at h
  split_ifs at h with hd
  obtain ⟨rfl, rfl⟩ := Prod.mk.inj (Option.some.inj h)
  have hne : d.data.dropWhile (· ≠ ':') ≠ [] := fun h0 => by
    simpa using List.dropWhile_eq_nil_iff.1 h0 ':' hd
  obtain ⟨c, rest, hcr⟩ := List.exists_cons_of_ne_nil hne
  have hc := List.head_dropWhile_not _ _ hne
  simp only [hcr, List.head_cons, decide_eq_false_iff_not, not_not] at hc
  refine ⟨?_, fun hm => by simpa using List.mem_takeWhile_imp hm⟩
  conv_lhs => rw [← List.takeWhile_append_dropWhile (· ≠ ':') d.data]
  rw [hcr, hc]
  rfl

/-- A digest is determined by its two parts. -/
theorem digestParts_inj {d d' alg encoded : String} (h : digestParts d = some (alg, encoded))
    (h' : digestParts d' = some (alg, encoded)) : d = d' :=
  String.ext ((digestParts_some h).1.trans (digestParts_some h').1.symm)

/-- **A path of kept elements names its elements**: two such paths, from the root alike,
are equal only when their elements are. -/
theorem ofElements_inj {rooted : Bool} {xs ys : List String} (hxs : xs ≠ []) (hys : ys ≠ [])
    (hx : ∀ e ∈ xs, Element e) (hy : ∀ e ∈ ys, Element e)
    (h : ofElements rooted xs = ofElements rooted ys) : xs = ys := by
  have hsplit : ∀ zs : List String, zs ≠ [] → (∀ e ∈ zs, Element e) →
      (['/'].intercalate (zs.map String.data)).splitOn '/' = zs.map String.data := fun zs hne hz =>
    List.splitOn_intercalate _ _ (by simpa using fun e he => (hz e he).no_sep) (by simpa using hne)
  have hdata := congrArg String.data h
  simp only [ofElements, List.append_cancel_left_eq] at hdata
  apply List.map_injective_iff.2 (fun _ _ => String.ext)
  rw [← hsplit xs hxs hx, ← hsplit ys hys hy, hdata]

theorem element_append_signatureExtension {e : String} (he : Element e) :
    Element (e ++ signatureExtension) := by
  refine ⟨by simp [signatureExtension], ?_, fun h => ?_, fun h => ?_⟩
  · simpa [signatureExtension] using he.no_sep
  all_goals simpa [signatureExtension] using congrArg List.length h

section Layout

variable {cacheFS : UnionDirFS} {rooted : Bool} {cacheElems : List String}
  {manifestDigest signatureDigest manifestAlg manifestEncoded signatureAlg signatureEncoded : String}

/-- The elements of a cached signature's path, and of each prefix of it, are kept. -/
theorem cachePath_elements (hcache : ∀ e ∈ cacheElems, Element e)
    (hm : PathDigest manifestDigest manifestAlg manifestEncoded)
    (hs : PathDigest signatureDigest signatureAlg signatureEncoded) {l : List String}
    (hl : l <+: cacheElems ++ [signatureStoreDirName, manifestAlg, manifestEncoded, signatureAlg,
      signatureEncoded ++ signatureExtension]) : ∀ e ∈ l, Element e := by
  intro e he
  rcases List.mem_append.1 (hl.subset he) with he | he
  · exact hcache e he
  simp only [List.mem_cons, List.not_mem_nil, or_false] at he
  rcases he with rfl | rfl | rfl | rfl | rfl
  exacts [by decide, hm.alg_element, hm.encoded_element, hs.alg_element,
    element_append_signatureExtension hs.encoded_element]

/-- The cache paths over a cache of one directory: its elements, then the store's, then
the manifest digest's parts, then the signature digest's. -/
theorem cachePaths_ofElements (hfs : RootedAt cacheFS rooted cacheElems) (hne : cacheElems ≠ [])
    (hcache : ∀ e ∈ cacheElems, Element e) (hm : PathDigest manifestDigest manifestAlg manifestEncoded)
    (hs : PathDigest signatureDigest signatureAlg signatureEncoded) :
    cachedSignatureStoreDirPath cacheFS = ofElements rooted (cacheElems ++ [signatureStoreDirName]) ∧
    cachedSignatureRoot cacheFS manifestDigest =
      some (ofElements rooted (cacheElems ++ [signatureStoreDirName, manifestAlg, manifestEncoded])) ∧
    cachedSignature cacheFS manifestDigest signatureDigest =
      some (ofElements rooted (cacheElems ++ [signatureStoreDirName, manifestAlg, manifestEncoded,
        signatureAlg, signatureEncoded ++ signatureExtension])) := by
  have hall := fun l (hl : l <+: _) => cachePath_elements hcache hm hs ((List.prefix_append_right_inj _).2 hl)
  unfold RootedAt at hfs
  simp only [cachedSignatureStoreDirPath, cachedSignatureRoot, cachedSignature, hm.parts, hs.parts, hfs]
  exact ⟨joinList_ofElements rooted hne (hall [_] ⟨_, rfl⟩),
    congrArg some (joinList_ofElements rooted hne (hall [_, _, _] ⟨_, rfl⟩)),
    congrArg some (joinList_ofElements rooted hne (hall _ (List.prefix_refl _)))⟩

/-- **The signature cache is a tree by digest**: over a cache of one directory of kept
elements, for digests whose parts are kept elements, a manifest's cache root is the
signature store directory joined with the manifest digest's algorithm and encoded part,
and each signature cached for it is that root joined with the signature digest's
algorithm and its encoded part with `.sig`; removing a manifest's root removes every
signature cached for it. -/
theorem cachedSignature_under_root (hfs : RootedAt cacheFS rooted cacheElems) (hne : cacheElems ≠ [])
    (hcache : ∀ e ∈ cacheElems, Element e) (hm : PathDigest manifestDigest manifestAlg manifestEncoded)
    (hs : PathDigest signatureDigest signatureAlg signatureEncoded) :
    ∃ root, cachedSignatureRoot cacheFS manifestDigest = some root ∧
      root = joinList [cachedSignatureStoreDirPath cacheFS, manifestAlg, manifestEncoded] ∧
      cachedSignature cacheFS manifestDigest signatureDigest =
        some (joinList [root, signatureAlg, signatureEncoded ++ signatureExtension]) := by
  obtain ⟨hdir, hroot, hsig⟩ := cachePaths_ofElements hfs hne hcache hm hs
  have hjoinRoot : joinList [ofElements rooted (cacheElems ++ [signatureStoreDirName]), manifestAlg,
      manifestEncoded] = ofElements rooted (cacheElems ++ [signatureStoreDirName] ++ [manifestAlg, manifestEncoded]) :=
    joinList_ofElements rooted (by simp)
      (cachePath_elements hcache hm hs ⟨[signatureAlg, signatureEncoded ++ signatureExtension], by simp⟩)
  have hjoinSig : joinList [ofElements rooted (cacheElems ++ [signatureStoreDirName, manifestAlg, manifestEncoded]),
      signatureAlg, signatureEncoded ++ signatureExtension] = ofElements rooted (cacheElems ++
        [signatureStoreDirName, manifestAlg, manifestEncoded] ++ [signatureAlg, signatureEncoded ++ signatureExtension]) :=
    joinList_ofElements rooted (by simp) (cachePath_elements hcache hm hs ⟨[], by simp⟩)
  refine ⟨_, hroot, ?_, ?_⟩
  · rw [hdir, hjoinRoot, List.append_assoc]
    rfl
  · rw [hsig, hjoinSig, List.append_assoc]
    rfl

/-- **Each signature has its own cache file**: over a cache of one directory of kept
elements, two pairs of a manifest digest and a signature digest whose parts are kept
elements share a cached signature path only when they are the same pair. -/
theorem cachedSignature_inj (hfs : RootedAt cacheFS rooted cacheElems) (hne : cacheElems ≠ [])
    (hcache : ∀ e ∈ cacheElems, Element e) (hm : PathDigest manifestDigest manifestAlg manifestEncoded)
    (hs : PathDigest signatureDigest signatureAlg signatureEncoded)
    {manifestDigest' signatureDigest' manifestAlg' manifestEncoded' signatureAlg' signatureEncoded' : String}
    (hm' : PathDigest manifestDigest' manifestAlg' manifestEncoded')
    (hs' : PathDigest signatureDigest' signatureAlg' signatureEncoded')
    (h : cachedSignature cacheFS manifestDigest signatureDigest =
      cachedSignature cacheFS manifestDigest' signatureDigest') :
    manifestDigest = manifestDigest' ∧ signatureDigest = signatureDigest' := by
  rw [(cachePaths_ofElements hfs hne hcache hm hs).2.2, (cachePaths_ofElements hfs hne hcache hm' hs').2.2,
    Option.some_inj] at h
  have helems := ofElements_inj (by simp) (by simp) (cachePath_elements hcache hm hs (List.prefix_refl _))
    (cachePath_elements hcache hm' hs' (List.prefix_refl _)) h
  simp only [List.append_cancel_left_eq, List.cons.injEq, and_true, true_and] at helems
  obtain ⟨rfl, rfl, rfl, hse⟩ := helems
  obtain rfl : signatureEncoded = signatureEncoded' := String.ext (List.append_cancel_right (congrArg String.data hse))
  exact ⟨digestParts_inj hm.parts hm'.parts, digestParts_inj hs.parts hs'.parts⟩

end Layout

/-- A cache of the one directory `/home/u/.cache/notation`. -/
def homeCache : UnionDirFS := ⟨fun elems => joinList (ofElements true ["home", "u", ".cache", "notation"] :: elems)⟩

theorem cachedSignature_under_root_home :
    ∃ root, cachedSignatureRoot homeCache "sha256:aa" = some root ∧
      root = joinList [cachedSignatureStoreDirPath homeCache, "sha256", "aa"] ∧
      cachedSignature homeCache "sha256:aa" "sha256:bb" =
        some (joinList [root, "sha256", "bb" ++ signatureExtension]) :=
  cachedSignature_under_root (show RootedAt homeCache true ["home", "u", ".cache", "notation"] from fun _ => rfl)
    (by simp) (by decide) ⟨by decide, by decide, by decide⟩ ⟨by decide, by decide, by decide⟩

theorem cachedSignature_inj_home : "sha256:aa" = "sha256:aa" ∧ "sha256:bb" = "sha256:bb" :=
  cachedSignature_inj (show RootedAt homeCache true ["home", "u", ".cache", "notation"] from fun _ => rfl)
    (by simp) (by decide) (show PathDigest "sha256:aa" "sha256" "aa" from ⟨by decide, by decide, by decide⟩)
    (show PathDigest "sha256:bb" "sha256" "bb" from ⟨by decide, by decide, by decide⟩)
    (show PathDigest "sha256:aa" "sha256" "aa" from ⟨by decide, by decide, by decide⟩)
    (show PathDigest "sha256:bb" "sha256" "bb" from ⟨by decide, by decide, by decide⟩) rfl

-- two signatures of one manifest are cached in two files under the manifest's root
example :
    cachedSignature homeCache "sha256:aa" "sha256:bb" =
        some "/home/u/.cache/notation/signatures/sha256/aa/sha256/bb.sig" ∧
      cachedSignature homeCache "sha256:aa" "sha256:cc" =
        some "/home/u/.cache/notation/signatures/sha256/aa/sha256/cc.sig" ∧
      cachedSignature homeCache "sha256:aa" "sha256:bb" ≠ cachedSignature homeCache "sha256:aa" "sha256:cc" := by
  decide

end Notation.Dir
