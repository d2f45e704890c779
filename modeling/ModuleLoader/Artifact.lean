import ModuleLoader.Interface.Sealing

/-!
# Artifacts

An artifact is an interface on disk: the length of a header in four bytes, the header, and the
encoded interface. The header repeats the two digests that decide about reuse, so that they can be
read without the rest, and holds a checksum of the rest. It also names the version of the compiler,
because interfaces are not exchanged between versions.

Reading is all or nothing. An artifact with a header that is too long, malformed or foreign, with a
wrong checksum, with a payload that does not decode or that contradicts the header, is no artifact.
Nor is a proper beginning of one, or one with bytes after its end.
-/

namespace ModuleLoader

open Wire

namespace Artifact

/-- What a header holds besides the mark and the number of the format. -/
structure Header where
  /-- The version of the compiler that wrote the artifact. -/
  compilerVersion : String
  /-- The digest of the source. -/
  sourceHash : Digest
  /-- The full digest of the interface. -/
  fullHash : Digest
  /-- The digest of the encoded interface. -/
  checksum : Digest
  deriving DecidableEq

/-- The four bytes that every header begins with. -/
def mark : Bytes := [0x4c, 0x4d, 0x49, 0x46]

/-- The number of the format. -/
def formatVersion : UInt32 := 1

/-- The extension of artifacts. -/
def extension : String := "lmi"

/-- The greatest length of a header. -/
def headerLimit : Nat := 4096

namespace Header

/-- The bytes of a header. -/
def write (h : Header) : Bytes :=
  mark ++ writeUInt32 formatVersion ++ writeText h.compilerVersion ++ writeDigest h.sourceHash ++
    writeDigest h.fullHash ++ writeDigest h.checksum

/-- The header at the front of a byte string, if mark and format are the right ones. -/
def read : Reader Header := do
  let found ← take mark.length
  let version ← readUInt32
  let compilerVersion ← readText
  let sourceHash ← readDigest
  let fullHash ← readDigest
  let checksum ← readDigest
  if found = mark ∧ version = formatVersion then
    return { compilerVersion, sourceHash, fullHash, checksum }
  else refuse

end Header

/-- The bytes of an artifact with a given header and encoded interface. -/
def layout (header : Header) (payload : Bytes) : Bytes :=
  let head := header.write
  Bytes.ofNatLE 4 head.length ++ head ++ payload

/-- The bytes of a header and of what follows it, taken from the front one after the other. -/
def split? (file : Bytes) : Option (Bytes × Bytes) := do
  let (size, rest) ← take 4 file
  let length := Bytes.toNatLE size
  if length ≤ headerLimit then take length rest else none

/-- The bytes of a header and of what follows it, cut out of the whole file by their positions. -/
def slices? (file : Bytes) : Option (Bytes × Bytes) :=
  if file.length < 4 then none
  else
    let length := Bytes.toNatLE (file.take 4)
    if headerLimit < length ∨ file.length < 4 + length then none
    else some ((file.drop 4).take length, file.drop (4 + length))

/-- The header that a byte string begins with, if it is one of a given compiler version. Bytes of
the header that are left over do not matter. -/
def headerOf? (compilerVersion : String) (head : Bytes) : Option Header := do
  let (header, _) ← Header.read head
  if header.compilerVersion = compilerVersion then some header else none

/-- **The header of an artifact**, whatever follows it. No more is read than the header. -/
def header? (compilerVersion : String) (file : Bytes) : Option Header := do
  let (head, _) ← split? file
  headerOf? compilerVersion head

/-- **The interface of an artifact.** The whole file is read first. -/
def interface? (compilerVersion : String) (codec : Codec) (file : Bytes) : Option Interface := do
  let (head, payload) ← slices? file
  let header ← headerOf? compilerVersion head
  if Digest.ofBytes payload = header.checksum then
    let i ← codec.decode? payload
    if i.fullHash = header.fullHash ∧ i.sourceHash = header.sourceHash then some i else none
  else none

end Artifact

end ModuleLoader
