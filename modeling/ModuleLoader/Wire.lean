import ModuleLoader.Digest

/-!
# The binary form of values

How numbers, texts, lists and optional values are laid out in bytes. A number takes one byte up to
250; above that a marker byte says how many bytes follow, lowest first. Texts and lists are
preceded by their length, an optional value by a zero or a one, and compound values are laid out
one part after the other with nothing in between. Lengths are numbers of at most eight bytes, so a
longer text or list has no binary form; which values *fit* is said beside their layout.

A reader takes what it needs from the front of a byte string and returns the rest, so readers
compose in the order of the layout. Writing uses the shortest form of a number. Reading accepts
longer forms as well, but none wider than the value being read.
-/

namespace ModuleLoader

-- Powers are the ones that come with the numbers, whatever algebra is imported elsewhere.
attribute [local instance (high)] instPowNat

namespace Wire

/-- A reader: a value from the front of a byte string together with the bytes after it. -/
abbrev Reader (α : Type) := StateT Bytes Option α

/-- Gives up. -/
def refuse {α : Type} : Reader α := fun _ => none

/-- The next byte. -/
def byte : Reader UInt8
  | [] => none
  | b :: rest => some (b, rest)

/-- The next `count` bytes. -/
def take (count : Nat) : Reader Bytes := fun bytes =>
  if count ≤ bytes.length then some (bytes.take count, bytes.drop count) else none

/-! ## Numbers -/

/-- A number below 2^64 in its shortest form. -/
def writeNat (n : Nat) : Bytes :=
  if n < 251 then [UInt8.ofNat n]
  else if n < 2 ^ (16 : Nat) then 0xfb :: Bytes.ofNatLE 2 n
  else if n < 2 ^ (32 : Nat) then 0xfc :: Bytes.ofNatLE 4 n
  else 0xfd :: Bytes.ofNatLE 8 n

/-- How many bytes follow a marker byte. -/
def markerWidth? (marker : UInt8) : Option Nat :=
  if marker = 0xfb then some 2
  else if marker = 0xfc then some 4
  else if marker = 0xfd then some 8
  else none

/-- A number of at most `widest` bytes, in any form that is not wider. -/
def readNat (widest : Nat) : Reader Nat := do
  let first ← byte
  if first.toNat < 251 then return first.toNat
  match markerWidth? first with
  | some width => if width ≤ widest then return Bytes.toNatLE (← take width) else refuse
  | none => refuse

/-- The length of what follows. -/
def readLength : Reader Nat := readNat 8

/-- A 16-bit number. -/
def writeUInt16 (n : UInt16) : Bytes := writeNat n.toNat

@[inherit_doc writeUInt16]
def readUInt16 : Reader UInt16 := return UInt16.ofNat (← readNat 2)

/-- A 32-bit number. -/
def writeUInt32 (n : UInt32) : Bytes := writeNat n.toNat

@[inherit_doc writeUInt32]
def readUInt32 : Reader UInt32 := return UInt32.ofNat (← readNat 4)

/-! ## Truth values, digests and texts -/

/-- A truth value is a zero or a one. -/
def writeBool (b : Bool) : Bytes := [if b then 1 else 0]

@[inherit_doc writeBool]
def readBool : Reader Bool := do
  let b ← byte
  if b = 0 then return false
  else if b = 1 then return true
  else refuse

/-- A digest is its sixteen bytes. -/
def writeDigest (d : Digest) : Bytes := d.bytes

@[inherit_doc writeDigest]
def readDigest : Reader Digest := do
  match Digest.ofRaw? (← take 16) with
  | some d => return d
  | none => refuse

/-- A text is the number of its UTF-8 bytes and those bytes. -/
def writeText (text : String) : Bytes :=
  let bytes := Bytes.ofText text
  writeNat bytes.length ++ bytes

@[inherit_doc writeText]
def readText : Reader String := do
  match Bytes.text? (← take (← readLength)) with
  | some text => return text
  | none => refuse

/-- Whether the length of a text is a number of eight bytes. -/
def textFits (text : String) : Bool := text.utf8ByteSize < 2 ^ (64 : Nat)

/-! ## Several values -/

/-- An optional value is a zero, or a one and the value. -/
def writeOption {α : Type} (write : α → Bytes) : Option α → Bytes
  | none => [0]
  | some a => 1 :: write a

@[inherit_doc writeOption]
def readOption {α : Type} (read : Reader α) : Reader (Option α) := do
  if ← readBool then return some (← read) else return none

/-- Whether an optional value fits, if there is one. -/
def optionFits {α : Type} (fits : α → Bool) (value : Option α) : Bool := value.all fits

/-- One value after the other. -/
def readMany {α : Type} (read : Reader α) : (count : Nat) → Reader (List α)
  | 0 => return []
  | count + 1 => do
    let a ← read
    let rest ← readMany read count
    return a :: rest

/-- A list is its length and its members. -/
def writeList {α : Type} (write : α → Bytes) (list : List α) : Bytes :=
  writeNat list.length ++ list.flatMap write

@[inherit_doc writeList]
def readList {α : Type} (read : Reader α) : Reader (List α) := do
  readMany read (← readLength)

/-- Whether the length of a list is a number of eight bytes, and all its members fit. -/
def listFits {α : Type} (fits : α → Bool) (list : List α) : Bool :=
  list.length < 2 ^ (64 : Nat) && list.all fits

/-- Two values, one after the other. -/
def writePair {α β : Type} (writeFirst : α → Bytes) (writeSecond : β → Bytes) (pair : α × β) :
    Bytes :=
  writeFirst pair.1 ++ writeSecond pair.2

@[inherit_doc writePair]
def readPair {α β : Type} (readFirst : Reader α) (readSecond : Reader β) : Reader (α × β) := do
  let a ← readFirst
  let b ← readSecond
  return (a, b)

/-- The value that a whole byte string holds, if a reader uses up all of it. -/
def readAll {α : Type} (read : Reader α) (bytes : Bytes) : Option α :=
  match read bytes with
  | some (a, []) => some a
  | _ => none

end Wire

end ModuleLoader
