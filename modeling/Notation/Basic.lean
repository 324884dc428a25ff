import Notation.Go.Map

/-!
# The values `notation` passes around

`ocispec.Descriptor`, the package's error values, certificates and the repository
interface, with the fields the modelled functions read or build. Byte strings are
`List UInt8`; `int64` sizes and `time.Duration`s are `Int`. Strings are compared as
character lists, which for Go's UTF-8 strings is the byte comparison.
-/

namespace Notation
open Go

/-- A Go `[]byte`. -/
abbrev Bytes := List UInt8

/-- `strings.HasPrefix(s, prefix)`. -/
def hasPrefix (s pfx : String) : Bool := pfx.data.isPrefixOf s.data

/-- Two lowercase hex digits of a byte. -/
def hexByte (n : Nat) : String :=
  String.mk [Nat.digitChar (n / 16 % 16), Nat.digitChar (n % 16)]

/-- `hex.EncodeToString`. -/
def hexEncode (b : Bytes) : String := String.join (b.map fun x => hexByte x.toNat)

/-- `fmt`'s `%q` of a string (`strconv.Quote`) for ASCII text: quotes, with the quote,
the backslash and the control characters escaped. -/
def goQuote (s : String) : String :=
  let esc : Char → String
    | '"' => "\\\""
    | '\\' => "\\\\"
    | '\n' => "\\n"
    | '\t' => "\\t"
    | '\r' => "\\r"
    | '\x07' => "\\a"
    | '\x08' => "\\b"
    | '\x0b' => "\\v"
    | '\x0c' => "\\f"
    | c => if c.toNat < 32 ∨ c.toNat = 127 then "\\x" ++ hexByte c.toNat else c.toString
  "\"" ++ String.join (s.data.map esc) ++ "\""

/-- A Go `error` value, by its dynamic type: the typed errors of `errors.go`, each with
its `Msg`, and `other` for any other error (`errors.New`, `fmt.Errorf`, or one a
collaborator returns), by its text. `nil` is `none` where an `Option Error` stands. -/
inductive Error where
  | signatureRetrievalFailed (msg : String)
  | verificationFailed (msg : String)
  | userMetadataVerificationFailed (msg : String)
  | pushSignatureFailed (msg : String)
  | signLocalContent (msg : String)
  | other (text : String)
deriving DecidableEq, Repr

/-- `err.Error()`. The typed errors print their `Msg` (`errors.go`, which also gives a
fixed text for an empty `Msg`, is not among the sources). -/
def Error.error : Error → String
  | .signatureRetrievalFailed msg | .verificationFailed msg
  | .userMetadataVerificationFailed msg | .pushSignatureFailed msg
  | .signLocalContent msg => msg
  | .other text => text

/-- `ocispec.Descriptor`: a nil annotation map is `none`. -/
structure Descriptor where
  mediaType : String
  digest : String
  size : Int
  annotations : Option StrMap
deriving DecidableEq

/-- The zero value `ocispec.Descriptor{}`. -/
def Descriptor.zero : Descriptor := ⟨"", "", 0, none⟩

/-- The fields of an `x509.Certificate` the modelled code reads. -/
structure Certificate where
  raw : Bytes
  rawSubject : Bytes
  rawIssuer : Bytes
  subject : String
  isCA : Bool
deriving DecidableEq

/-- `orasRegistry.Reference` as `notation` uses it: the tag or digest part. The flows read
`ValidateReferenceAsDigest` only to choose a log line, which is not modelled. -/
structure Reference where
  reference : String
deriving DecidableEq

/-- A `registry.Repository` as the sign and verify flows see it. `signaturePages` are
the pages the referrers API serves `ListSignatures` for a subject, in order. -/
structure Repository where
  /-- the value also implements `orasRegistry.Repository` -/
  isRemote : Bool
  resolve : String → Except Error Descriptor
  signaturePages : Descriptor → List (List Descriptor)
  fetchSignatureBlob : Descriptor → Except Error (Bytes × Descriptor)
  pushSignature : String → Bytes → Descriptor → StrMap → Except Error (Descriptor × Descriptor)

/-- oras `Referrers` as the adapters call it: hands the pages to the callback `fn` in
order, stops at the first non-nil result and returns it. The count is the number of
pages handed over, the pages requested from the registry. -/
def referrers {σ ε : Type} (fn : σ → List Descriptor → σ × Option ε) (st : σ) :
    List (List Descriptor) → σ × Option ε × Nat
  | [] => (st, none, 0)
  | p :: ps =>
    match fn st p with
    | (st', none) =>
      let r := referrers fn st' ps
      (r.1, r.2.1, r.2.2 + 1)
    | (st', some e) => (st', some e, 1)

/-- **Pages do not matter to a callback that loops over its page**: when the callback on
a page followed by more is the callback on the page and then, if it did not stop, on the
rest, `Referrers` ends as the callback run once over all referrers in delivery order. -/
theorem referrers_flatten {σ ε : Type} {fn : σ → List Descriptor → σ × Option ε}
    (hnil : ∀ st, fn st [] = (st, none))
    (happend : ∀ st page rest, fn st (page ++ rest) =
      if (fn st page).2.isNone then fn (fn st page).1 rest else fn st page)
    (st : σ) (pages : List (List Descriptor)) :
    ((referrers fn st pages).1, (referrers fn st pages).2.1) = fn st pages.flatten := by
  induction pages generalizing st with
  | nil => simp [referrers, hnil]
  | cons p ps ih =>
    rw [List.flatten_cons, happend]
    rcases hp : fn st p with ⟨st', _ | e⟩
    · simpa [referrers, hp] using ih st'
    · simp [referrers, hp]

end Notation
