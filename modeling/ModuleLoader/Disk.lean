import ModuleLoader.Bytes
import ModuleLoader.Lookup
import ModuleLoader.Path

/-!
# The disk

A tree of directories and files below a working directory, as far as a loader can tell: which
places hold a file, with which bytes, and which hold a directory. A place is the list of names that
leads to it from the working directory.

A path is walked segment by segment. Every step but the last must arrive at a directory, `..`
steps back, and an empty segment or a dot asks for a directory and stays. A path with a null
character or of excessive length leads nowhere. Operations fail in one of a few ways that callers
can tell apart; how a failure is worded is not the disk's business.

Absolute paths lead out of the working directory, to where the disk holds nothing, and so nothing is
found at them. A project whose include roots are absolute is seen from the root of the file system:
that is its working directory then, and its roots are the same paths without the slash in front.
-/

namespace ModuleLoader

/-- Why an operation on a file failed. -/
inductive DiskFault where
  /-- There is nothing at the path. -/
  | notFound
  /-- The file is not UTF-8 text. -/
  | invalidText
  /-- A file where a directory is needed, or a directory where a file is. -/
  | wrongKind
  /-- The path could not name anything. -/
  | invalidPath
  deriving DecidableEq, Repr

/-- A place below the working directory: the names on the way to it. -/
abbrev Place := List String

/-- What a place holds. -/
inductive Entry where
  /-- A file with its content. -/
  | file (content : Bytes)
  /-- A directory. -/
  | directory
  deriving DecidableEq

/-- **A disk**: what is found where. The working directory itself is always there. -/
structure Disk where
  /-- The places below the working directory that hold something. -/
  entries : List (Place × Entry)
  deriving DecidableEq

namespace Disk

/-- A working directory with nothing in it. -/
def empty : Disk := ⟨[]⟩

instance : EmptyCollection Disk := ⟨empty⟩

instance : Inhabited Disk := ⟨empty⟩

/-! ## Places -/

/-- What a place holds. -/
def at? (d : Disk) (place : Place) : Option Entry :=
  if place.isEmpty then some .directory else d.entries.lookup place

/-- The disk with something put in a place. -/
def put (d : Disk) (place : Place) (entry : Entry) : Disk :=
  ⟨(place, entry) :: d.entries.filter fun e => e.1 ≠ place⟩

/-- Putting something in a place changes what that place holds and no other. -/
theorem at?_put (d : Disk) {place : Place} (h : place ≠ []) (entry : Entry) (p : Place) :
    (d.put place entry).at? p = if p = place then some entry else d.at? p := by
  unfold at?
  by_cases hp : p = []
  · subst hp
    rw [if_neg (Ne.symm h)]
    rfl
  · have hempty : ¬ p.isEmpty = true := by simpa using hp
    rw [if_neg hempty, if_neg hempty]
    exact lookup_replace d.entries place entry p

/-- The disk without a place and everything below it. -/
def erase (d : Disk) (place : Place) : Disk :=
  ⟨d.entries.filter fun e => !place.isPrefixOf e.1⟩

/-- The disk without what is below a place. -/
def eraseBelow (d : Disk) (place : Place) : Disk :=
  ⟨d.entries.filter fun e => e.1 = place ∨ !place.isPrefixOf e.1⟩

/-- How a segment of a path moves on from a directory: to the directory itself, back, or to a name
in it. -/
def step (place : Place) : String → Place
  | "" => place
  | "." => place
  | ".." => place.dropLast
  | name => place ++ [name]

/-- The greatest length of a name, in bytes. -/
def nameLimit : Nat := 255

/-- Paths are shorter than this, in bytes. -/
def pathLimit : Nat := 4096

/-- Whether a path could name anything. -/
def isUsable (p : Path) : Bool :=
  p.text.utf8ByteSize < pathLimit && !p.text.toList.contains '\x00'

/-- Walks segments from a place; every place on the way must be a directory. -/
def walk (d : Disk) (place : Place) : List String → Except DiskFault Place
  | [] => .ok place
  | segment :: rest =>
    match d.at? place with
    | some .directory =>
      if segment.utf8ByteSize ≤ nameLimit then walk d (step place segment) rest
      else .error .invalidPath
    | some (.file _) => .error .wrongKind
    | none => .error .notFound

/-- The place that a path leads to, whether or not it holds anything. An absolute path leads to no
place below the working directory. -/
def locate (d : Disk) (p : Path) : Except DiskFault Place :=
  if !isUsable p then .error .invalidPath
  else if p.text.isEmpty || p.isAbsolute then .error .notFound
  else d.walk [] p.segments

/-- The place that a path leads to, slashes at its end aside. -/
def locateTarget (d : Disk) (p : Path) : Except DiskFault Place :=
  if !isUsable p then .error .invalidPath else d.locate p.dropSlashes

/-- What is at a path. -/
def entry (d : Disk) (p : Path) : Except DiskFault Entry := do
  match d.at? (← d.locate p) with
  | some e => return e
  | none => throw .notFound

/-! ## Reading -/

/-- Whether there is something at a path. -/
def exists? (d : Disk) (p : Path) : Bool := (d.entry p).isOk

/-- Whether there is a file at a path. -/
def isFile (d : Disk) (p : Path) : Bool :=
  match d.entry p with
  | .ok (.file _) => true
  | _ => false

/-- Whether there is a directory at a path. -/
def isDirectory (d : Disk) (p : Path) : Bool :=
  match d.entry p with
  | .ok .directory => true
  | _ => false

/-- The bytes of a file. -/
def read (d : Disk) (p : Path) : Except DiskFault Bytes := do
  match ← d.entry p with
  | .file content => return content
  | .directory => throw .wrongKind

/-- The bytes of a file, if it can be read. -/
def read? (d : Disk) (p : Path) : Option Bytes := (d.read p).toOption

/-- The text of a file. -/
def readText (d : Disk) (p : Path) : Except DiskFault String := do
  match Bytes.text? (← d.read p) with
  | some text => return text
  | none => throw .invalidText

/-! ## Writing -/

/-- Replaces or creates a file in a directory that exists. A path that ends in a slash names no
file. -/
def write (d : Disk) (p : Path) (content : Bytes) : Except DiskFault Disk := do
  let place ← d.locateTarget p
  match d.at? place with
  | some .directory => throw .wrongKind
  | _ => if p.endsInSlash then throw .wrongKind else return d.put place (.file content)

/-- Appends to a file that exists. -/
def append (d : Disk) (p : Path) (content : Bytes) : Except DiskFault Disk := do
  d.write p ((← d.read p) ++ content)

/-- Makes a directory in one that exists. -/
def makeDirectory (d : Disk) (p : Path) : Except DiskFault Disk := do
  let place ← d.locateTarget p
  match d.at? place with
  | some _ => throw .wrongKind
  | none => return d.put place .directory

/-- Makes a directory in one that exists, unless it is there already. -/
def ensureDirectory (d : Disk) (p : Path) : Except DiskFault Disk :=
  match d.makeDirectory p with
  | .ok d => .ok d
  | .error fault => if d.isDirectory p then .ok d else .error fault

/-- Makes the first of some directories, each of which lies in the next one. The others are made
only where the first one cannot be made without them, and those that are made stay, whatever becomes
of the first one. -/
def ensureLineage (d : Disk) : List Path → Except DiskFault Unit × Disk
  | [] => (.error .notFound, d)
  | p :: above =>
    if p.text.isEmpty then (.ok (), d)
    else
      match d.ensureDirectory p with
      | .ok d => (.ok (), d)
      | .error .notFound =>
        match ensureLineage d above with
        | (.ok (), d) =>
          match d.ensureDirectory p with
          | .ok d => (.ok (), d)
          | .error fault => (.error fault, d)
        | failed => failed
      | .error fault => (.error fault, d)

/-- Makes a directory and those above it, as far as that is possible. -/
def makeDirectories (d : Disk) (p : Path) : Except DiskFault Unit × Disk :=
  d.ensureLineage p.ancestors

/-- Removes a file. -/
def removeFile (d : Disk) (p : Path) : Except DiskFault Disk := do
  let place ← d.locate p
  match d.at? place with
  | some (.file _) => return d.erase place
  | some .directory => throw .wrongKind
  | none => throw .notFound

/-- Removes a file, or a directory with everything in it. A directory that a path names by a dot or
two loses what is in it and stays. -/
def removeAll (d : Disk) (p : Path) : Except DiskFault Disk := do
  let place ← d.locate p
  let dots := (p.dropSlashes.segments.getLast?).any fun s => s == "." || s == ".."
  match d.at? place with
  | some .directory => return if dots then d.eraseBelow place else d.erase place
  | some (.file _) => return d.erase place
  | none => throw .notFound

/-- The disk with a file and the directories above it, as far as they can be made. -/
def store (d : Disk) (p : Path) (content : Bytes) : Disk :=
  let d := match p.parent? with
    | some directory => (d.makeDirectories directory).2
    | none => d
  (d.write p content).toOption.getD d

end Disk

end ModuleLoader
