import Notation.Basic
import Notation.Go.Filepath

/-!
# `verification.LoadX509TrustStore`

The loader checks that the path is an existing directory and not a symlink, then
walks its entries in directory order: each must be neither a directory nor a symlink,
its certificates must parse, and `validateCerts` must accept them (one certificate
that is self-signed or a CA, or several that are all CAs). The certificates of all
entries are appended in order; an empty store is rejected. The file system,
`ReadCertificateFile` and the signature check of `isSelfSigned` are functions given
to the model.
-/

namespace Notation.Verification
open Go Filepath

/-- The kind of a file, as `fs.FileMode` tells it apart here. -/
inductive FileType where
  | dir
  | symlink
  /-- neither a directory nor a symlink -/
  | regular
deriving DecidableEq

/-- An `os.DirEntry`: its name and type. -/
structure DirEntry where
  name : String
  type : FileType
deriving DecidableEq

/-- The file system calls the loader makes. -/
structure FileSystem where
  /-- `os.IsNotExist` of what `os.Stat` returns -/
  notExist : String → Bool
  lstat : String → Except Error FileType
  readDir : String → Except Error (List DirEntry)
  /-- `corex509.ReadCertificateFile` -/
  readCertificateFile : String → Except Error (List Certificate)

/-- `X509TrustStore`; `prefixName` is its `Prefix`. -/
structure X509TrustStore where
  name : String
  prefixName : String
  path : String
  certificates : List Certificate
deriving DecidableEq

section

variable (checkSignatureFrom : Certificate → Certificate → Bool)

/-- `isSelfSigned`; `checkSignatureFrom parent cert` is `cert.CheckSignatureFrom(parent) == nil`. -/
def isSelfSigned (cert : Certificate) : Bool :=
  checkSignatureFrom cert cert && cert.rawSubject == cert.rawIssuer

/-- `validateCerts`. -/
def validateCerts (certs : List Certificate) (path : String) : Option Error :=
  match certs with
  | [] =>
    some (.other ("could not parse a certificate from " ++ goQuote path ++
      ", every file in a trust store must have a PEM or DER certificate in it"))
  | [cert] =>
    if !isSelfSigned checkSignatureFrom cert && !cert.isCA then
      some (.other ("single certificate from " ++ goQuote path ++
        " is not a self-signed certificate or CA certificate"))
    else none
  | certs =>
    (certs.find? fun cert => !cert.isCA).map fun cert =>
      .other ("certificate with subject " ++ goQuote cert.subject ++ " from file " ++ goQuote path ++
        " is not a CA certificate, only CA certificates (BasicConstraint CA=True) are allowed")

variable (fs : FileSystem)

/-- The loop over the directory's entries, appending each file's certificates to `acc`. -/
def loadEntries (path : String) : List DirEntry → List Certificate → Except Error (List Certificate)
  | [], acc => .ok acc
  | file :: files, acc =>
    let joinedPath := join path file.name
    if file.type = .dir ∨ file.type = .symlink then
      .error (.other (goQuote joinedPath ++
        " is not a regular file (directories or symlinks are not supported)"))
    else
      match fs.readCertificateFile joinedPath with
      | .error e =>
        .error (.other ("error while reading certificates from " ++ goQuote joinedPath ++ ": " ++ e.error))
      | .ok certs =>
        match validateCerts checkSignatureFrom certs joinedPath with
        | some e => .error e
        | none => loadEntries path files (acc ++ certs)

/-- `LoadX509TrustStore`. -/
def loadX509TrustStore (path : String) : Except Error X509TrustStore :=
  if fs.notExist path then .error (.other (goQuote path ++ " does not exist"))
  else
    match fs.lstat path with
    | .error e => .error e
    | .ok mode =>
      if mode ≠ .dir then
        .error (.other (goQuote path ++ " is not a regular directory (symlinks are not supported)"))
      else
        match fs.readDir path with
        | .error e => .error e
        | .ok files =>
          match loadEntries checkSignatureFrom fs path files [] with
          | .error e => .error e
          | .ok certificates =>
            if certificates.length < 1 then
              .error (.other ("trust store " ++ goQuote path ++ " has no x509 certificates"))
            else .ok ⟨base path, base (dir path), path, certificates⟩

/-! ## What a loaded store holds -/

/-- The certificates of one file a store accepts: one that is self-signed or a CA, or
two or more that are all CAs. -/
def ValidCerts (certs : List Certificate) : Prop :=
  (∃ cert, certs = [cert] ∧ (isSelfSigned checkSignatureFrom cert ∨ cert.isCA)) ∨
    2 ≤ certs.length ∧ ∀ cert ∈ certs, cert.isCA

theorem validateCerts_eq_none {certs : List Certificate} {path : String} :
    validateCerts checkSignatureFrom certs path = none ↔ ValidCerts checkSignatureFrom certs := by
  match certs with
  | [] => simp [validateCerts, ValidCerts]
  | [cert] =>
    by_cases hs : isSelfSigned checkSignatureFrom cert <;> by_cases hca : cert.isCA <;>
      simp [validateCerts, ValidCerts, hs, hca]
  | c₁ :: c₂ :: cs => simp [validateCerts, ValidCerts, List.find?_eq_none]

theorem ValidCerts.ne_nil {certs : List Certificate} (h : ValidCerts checkSignatureFrom certs) :
    certs ≠ [] := by
  rintro rfl
  rcases h with ⟨_, h, _⟩ | ⟨h, _⟩ <;> simp at h

/-- A file the loader accepts from the directory `path`, with its certificates. -/
def Accepted (path : String) (file : DirEntry) (certs : List Certificate) : Prop :=
  file.type = .regular ∧ fs.readCertificateFile (join path file.name) = .ok certs ∧
    ValidCerts checkSignatureFrom certs

/-- **The loop**: it succeeds exactly when it accepts every entry, and then appends their
certificates in order. -/
theorem loadEntries_eq_ok (path : String) (files : List DirEntry) (acc result : List Certificate) :
    loadEntries checkSignatureFrom fs path files acc = .ok result ↔
      ∃ lists, List.Forall₂ (Accepted checkSignatureFrom fs path) files lists ∧
        result = acc ++ lists.flatten := by
  induction files generalizing acc with
  | nil => simp [loadEntries, eq_comm]
  | cons file files ih =>
    simp only [List.forall₂_cons_left_iff]
    by_cases ht : file.type = .dir ∨ file.type = .symlink
    · have hreg : file.type ≠ .regular := by rcases ht with h | h <;> simp [h]
      simp [loadEntries, ht, Accepted, hreg]
    have hreg : file.type = .regular := by cases h : file.type <;> simp_all
    rcases hr : fs.readCertificateFile (join path file.name) with e | certs
    · simp [loadEntries, ht, hr, Accepted]
    rcases hv : validateCerts checkSignatureFrom certs (join path file.name) with _ | e
    · have hvalid := (validateCerts_eq_none checkSignatureFrom).1 hv
      simp only [loadEntries, ht, if_false, hr, hv, ih]
      constructor
      · rintro ⟨lists, hl, rfl⟩
        exact ⟨certs :: lists, ⟨certs, lists, ⟨hreg, hr, hvalid⟩, hl, rfl⟩, by simp⟩
      · rintro ⟨_, ⟨certs', lists, ⟨-, hr', -⟩, hl, rfl⟩, rfl⟩
        cases hr.symm.trans hr'
        exact ⟨lists, hl, by simp⟩
    · have hinvalid : ¬ValidCerts checkSignatureFrom certs := fun h => by
        simp [(validateCerts_eq_none checkSignatureFrom).2 h] at hv
      simp only [loadEntries, ht, if_false, hr, hv, reduceCtorEq, false_iff, not_exists, not_and,
        Accepted]
      rintro _ ⟨certs', lists, ⟨-, hr', hbad⟩, -, rfl⟩ -
      cases hr'
      exact hinvalid hbad

variable {checkSignatureFrom fs} {path : String}

theorem flatten_eq_nil_of_forall₂ {files : List DirEntry} {lists : List (List Certificate)}
    (h : List.Forall₂ (Accepted checkSignatureFrom fs path) files lists) :
    lists.flatten = [] ↔ files = [] := by
  induction h with
  | nil => simp
  | cons hacc _ _ => simp [hacc.2.2.ne_nil]

theorem mem_flatten_of_forall₂ {files : List DirEntry} {lists : List (List Certificate)}
    (h : List.Forall₂ (Accepted checkSignatureFrom fs path) files lists) {cert : Certificate}
    (hc : cert ∈ lists.flatten) :
    ∃ file ∈ files, ∃ certs, Accepted checkSignatureFrom fs path file certs ∧ cert ∈ certs := by
  induction h with
  | nil => simp at hc
  | @cons file certs files lists hacc _ ih =>
    rcases List.mem_append.1 (List.flatten_cons ▸ hc) with hc | hc
    · exact ⟨file, List.mem_cons_self _ _, certs, hacc, hc⟩
    · obtain ⟨file', hf, certs', hacc', hc'⟩ := ih hc
      exact ⟨file', List.mem_cons_of_mem _ hf, certs', hacc', hc'⟩

/-- Every certificate of accepted files is a CA or the only certificate of its file and
self-signed. -/
theorem ca_or_self_signed_of_forall₂ {files : List DirEntry} {lists : List (List Certificate)}
    (h : List.Forall₂ (Accepted checkSignatureFrom fs path) files lists) {cert : Certificate}
    (hc : cert ∈ lists.flatten) :
    cert.isCA ∨ ∃ file ∈ files,
      fs.readCertificateFile (join path file.name) = .ok [cert] ∧ isSelfSigned checkSignatureFrom cert := by
  obtain ⟨file, hfile, certs, ⟨-, hr, hv⟩, hcert⟩ := mem_flatten_of_forall₂ h hc
  rcases hv with ⟨c, rfl, hs | hca⟩ | ⟨-, hall⟩
  · rw [List.mem_singleton.1 hcert]
    exact .inr ⟨file, hfile, hr, hs⟩
  · exact .inl (List.mem_singleton.1 hcert ▸ hca)
  · exact .inl (hall cert hcert)

/-- A loaded store is named by `Base` of its path and prefixed by `Base` of its `Dir`. -/
theorem loadX509TrustStore_names {store : X509TrustStore}
    (h : loadX509TrustStore checkSignatureFrom fs path = .ok store) :
    store.name = base path ∧ store.prefixName = base (dir path) ∧ store.path = path := by
  unfold loadX509TrustStore at h
  split_ifs at h
  repeat' split at h
  -- every other branch is an error
  all_goals cases h
  exact ⟨rfl, rfl, rfl⟩

end

/-- **Loading a trust store**: on an existing directory that is not a symlink, the
loader succeeds exactly when the directory has an entry and it accepts every entry;
the store then holds the entries' certificates in directory order, each a CA or the
only certificate of its file and self-signed, and is named by `Base` of the path and
prefixed by `Base` of its `Dir`, which for a path of kept elements are its last two
elements. -/
theorem loadX509TrustStore_spec (checkSignatureFrom : Certificate → Certificate → Bool)
    (fs : FileSystem) (path : String) (files : List DirEntry) (hexists : fs.notExist path = false)
    (hdir : fs.lstat path = .ok .dir) (hread : fs.readDir path = .ok files) :
    ((∃ ts, loadX509TrustStore checkSignatureFrom fs path = .ok ts) ↔
      files ≠ [] ∧ ∃ lists, List.Forall₂ (Accepted checkSignatureFrom fs path) files lists) ∧
    ∀ ts, loadX509TrustStore checkSignatureFrom fs path = .ok ts →
      (∃ lists, List.Forall₂ (Accepted checkSignatureFrom fs path) files lists ∧
        ts.certificates = lists.flatten) ∧
      (∀ cert ∈ ts.certificates, cert.isCA ∨ ∃ file ∈ files,
        fs.readCertificateFile (join path file.name) = .ok [cert] ∧ isSelfSigned checkSignatureFrom cert) ∧
      ts.path = path ∧ ts.name = base path ∧ ts.prefixName = base (dir path) ∧
      ∀ rooted init p n, path = ofElements rooted (init ++ [p, n]) → (∀ e ∈ init ++ [p, n], Element e) →
        ts.name = n ∧ ts.prefixName = p := by
  simp only [loadX509TrustStore, hexists, Bool.false_eq_true, if_false, hdir, ne_eq,
    not_true_eq_false, hread]
  rcases hl : loadEntries checkSignatureFrom fs path files [] with e | certificates
  · -- an entry is refused
    refine ⟨⟨fun ⟨_, h⟩ => (by cases h), fun ⟨_, lists, hf⟩ => ?_⟩, fun _ h => (by cases h)⟩
    have := (loadEntries_eq_ok checkSignatureFrom fs path files [] lists.flatten).2 ⟨lists, hf, rfl⟩
    rw [hl] at this
    cases this
  obtain ⟨lists, hf, rfl⟩ := (loadEntries_eq_ok checkSignatureFrom fs path files [] certificates).1 hl
  have hnil := flatten_eq_nil_of_forall₂ hf
  by_cases hempty : files = []
  · -- no entry
    simp [hnil.2 hempty, hempty]
  have hlen : ¬([] ++ lists.flatten).length < 1 := fun h =>
    mt hnil.1 hempty (List.length_eq_zero.1 (by rw [List.nil_append] at h; omega))
  simp only [hlen, if_false, Except.ok.injEq, exists_eq', true_iff, forall_eq']
  exact ⟨⟨hempty, lists, hf⟩, ⟨lists, hf, by simp⟩,
    fun cert hc => ca_or_self_signed_of_forall₂ hf (by simpa using hc), trivial, trivial, trivial,
    fun rooted init p n hpath helems => hpath ▸ base_dir_ofElements rooted init p n helems⟩

/-- A self-signed certificate that is not a CA. -/
def rootCert : Certificate := ⟨[1], [2], [2], "root", false⟩

/-- A file system where every path is a directory holding the one file `root.crt`, whose
certificate is `rootCert`. -/
def oneFileFs : FileSystem where
  notExist _ := false
  lstat _ := .ok .dir
  readDir _ := .ok [⟨"root.crt", .regular⟩]
  readCertificateFile _ := .ok [rootCert]

theorem loadX509TrustStore_spec_acme :
    ∃ ts, loadX509TrustStore (fun _ _ => true) oneFileFs "/truststore/x509/ca/acme" = .ok ts ∧
      ts.name = "acme" ∧ ts.prefixName = "ca" := by
  obtain ⟨hiff, hts⟩ := loadX509TrustStore_spec (fun _ _ => true) oneFileFs "/truststore/x509/ca/acme" _
    rfl rfl rfl
  obtain ⟨ts, h⟩ := hiff.2 ⟨by simp, [[rootCert]], .cons ⟨rfl, rfl, .inl ⟨rootCert, rfl, .inl rfl⟩⟩ .nil⟩
  exact ⟨ts, h, (hts ts h).2.2.2.2.2 true ["truststore", "x509"] "ca" "acme" (by decide) (by decide)⟩

/-- With a trailing separator, the name and the prefix are both the last element: the
store at `truststore/x509/ca/acme/` is named `acme` with the prefix `acme`. -/
theorem loadX509TrustStore_trailing_separator :
    loadX509TrustStore (fun _ _ => true) oneFileFs "truststore/x509/ca/acme/" =
      .ok ⟨"acme", "acme", "truststore/x509/ca/acme/", [rootCert]⟩ := by
  rfl

end Notation.Verification
