import ModuleLoader.Disk
import ModuleLoader.Interface.Encoding

/-!
# Codecs and seals

How interfaces become bytes is a parameter of a session: a codec may refuse to encode, and may fail
to decode what another one wrote. The standard codec is the binary form of
`ModuleLoader.Interface.Encoding`, and every interface that fits is encoded.

Sealing an interface fills in its full digest. The digest covers the encoded interface, with zeros
in the place of the digest itself, and after it the digests recorded for the imports. Whatever
changes in an import changes its full digest, and so the full digest of everything above it.
-/

namespace ModuleLoader

/-- Why an interface could not be put on disk. -/
inductive CacheError where
  /-- An operation on a file failed. -/
  | disk (path : Path) (fault : DiskFault)
  /-- The codec refused. -/
  | serialization (reason : String)
  /-- What was written does not read back. -/
  | roundTrip (path : Path)
  deriving DecidableEq

/-- The message for an error, given how faults of the disk are worded. -/
def CacheError.message (disk : DiskFault → String) : CacheError → String
  | .disk path fault => s!"cache I/O error at {path}: {disk fault}"
  | .serialization reason => s!"serialization error: {reason}"
  | .roundTrip path => s!"interface written to {path} does not decode"

/-- **A codec**: how interfaces are turned into bytes and back. -/
structure Codec where
  /-- The bytes of an interface. -/
  encode : Interface → Except CacheError Bytes
  /-- The interface of a byte string, if it is one. -/
  decode? : Bytes → Option Interface

namespace Codec

/-- The codec of the binary form. What has no binary form is refused. -/
def standard : Codec where
  encode i := if i.fits then .ok i.encode else .error (.serialization "length out of range")
  decode? := Interface.decode?

instance : Inhabited Codec := ⟨standard⟩

/-- A codec that will not encode some interfaces, nor decode some others. -/
def refusing (encoding decoding : ModuleName → Bool) : Codec where
  encode i := if encoding i.name then .error (.serialization "refused") else standard.encode i
  decode? bytes := (standard.decode? bytes).filter fun i => !decoding i.name

end Codec

namespace Interface

/-- The full digest of an interface, whatever digest it holds now. -/
def computeHash (codec : Codec) (i : Interface) : Except CacheError Digest := do
  let body ← codec.encode { i with fullHash := .zero }
  return Digest.combine body (i.imports.map (·.2))

/-- **The interface with its full digest filled in.** -/
def sealed (codec : Codec) (i : Interface) : Except CacheError Interface := do
  return { i with fullHash := ← i.computeHash codec }

/-- **A sealed interface** differs from the one that was sealed in its full digest, which is the
digest of the encoded interface and the digests of its imports. -/
theorem sealed_eq_ok {codec : Codec} {i j : Interface} (h : i.sealed codec = .ok j) :
    ∃ body, codec.encode { i with fullHash := .zero } = .ok body ∧
      j = { i with fullHash := Digest.combine body (i.imports.map (·.2)) } := by
  unfold Interface.sealed computeHash at h
  cases hencode : codec.encode { i with fullHash := .zero } with
  | error e => rw [hencode] at h; contradiction
  | ok body =>
    rw [hencode] at h
    exact ⟨body, rfl, (Except.ok.inj h).symm⟩

end Interface

end ModuleLoader
