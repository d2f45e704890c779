import ModuleLoader.Digest.XXH3

/-!
# Digests

Source texts, encoded interfaces and option sets are compared through their digests: sixteen
bytes, the 128-bit XXH3 hash stored lowest byte first. The digest of zeros stands for "not sealed
yet" and is never asked to be the hash of anything.

A digest may cover other digests. `Digest.combine` hashes a byte string followed by the bytes of
the digests given, so a change in any of them changes the result.
-/

namespace ModuleLoader

/-- **A digest**: sixteen bytes that stand for a byte string. -/
structure Digest where
  /-- The bytes in stored order. -/
  bytes : Bytes
  /-- There are sixteen of them. -/
  length_bytes : bytes.length = 16
  deriving DecidableEq

namespace Digest

@[ext] theorem ext {d e : Digest} (h : d.bytes = e.bytes) : d = e := by
  cases d; cases e; simp_all

/-- The digest of zeros, held by an interface that has not been sealed. -/
def zero : Digest := ⟨List.replicate 16 0, rfl⟩

instance : Inhabited Digest := ⟨zero⟩

/-- The digest with the given bytes, if there are sixteen. -/
def ofRaw? (bytes : Bytes) : Option Digest :=
  if h : bytes.length = 16 then some ⟨bytes, h⟩ else none

@[simp] theorem ofRaw?_bytes (d : Digest) : ofRaw? d.bytes = some d := by
  simp [ofRaw?, d.length_bytes]

/-- The digest of a byte string. -/
def ofBytes (data : Bytes) : Digest :=
  let h := XXH3.hash data
  ⟨Bytes.ofNatLE 8 h.low.toNat ++ Bytes.ofNatLE 8 h.high.toNat, by simp⟩

/-- The digest of a text, through its UTF-8 bytes. -/
def ofText (text : String) : Digest := ofBytes (Bytes.ofText text)

/-- The digest of a byte string followed by other digests, in order. -/
def combine (data : Bytes) (parts : List Digest) : Digest :=
  ofBytes (data ++ parts.flatMap bytes)

/-- All sixteen bytes in hexadecimal. -/
def toHex (d : Digest) : String := Bytes.toHex d.bytes

/-- The first two bytes, for display next to the name of the type. -/
def abbreviation (d : Digest) : String := s!"ContentHash({Bytes.toHex (d.bytes.take 2)}..)"

instance : ToString Digest := ⟨toHex⟩

end Digest

end ModuleLoader
