import ModuleLoader.Artifact

/-!
# The artifact store

Where artifacts are kept and how they get there. The artifact of a module lies below the include
root that holds its source, in the directory of the store, at the place that its name gives it.

Writing answers with what reading the file gives, so that digests are always compared with what is
on disk. A write that fails at any step takes away whatever is at the path by then: a failure never
leaves an artifact behind, not even an older one.
-/

namespace ModuleLoader

/-- **A store of artifacts.** -/
structure ArtifactStore where
  /-- The directory, below an include root, that holds artifacts. -/
  directory : String
  /-- The version of the compiler whose artifacts are read and written. -/
  compilerVersion : String
  deriving DecidableEq

namespace ArtifactStore

/-- The path of the artifact of a module found below an include root. -/
def interfacePath (s : ArtifactStore) (root : Path) (module : ModuleName) : Path :=
  (root.join ⟨s.directory⟩).join (module.relativePath Artifact.extension)

/-- The header of the artifact at a path. -/
def readHeader? (s : ArtifactStore) (path : Path) (disk : Disk) : Option Artifact.Header :=
  (disk.read? path).bind (Artifact.header? s.compilerVersion)

/-- The interface at a path. -/
def readInterface? (s : ArtifactStore) (codec : Codec) (path : Path) (disk : Disk) :
    Option Interface :=
  (disk.read? path).bind (Artifact.interface? s.compilerVersion codec)

/-- The header for an interface and its encoded form. -/
def headerFor (s : ArtifactStore) (i : Interface) (payload : Bytes) : Artifact.Header where
  compilerVersion := s.compilerVersion
  sourceHash := i.sourceHash
  fullHash := i.fullHash
  checksum := Digest.ofBytes payload

/-- Makes the directories above a path. -/
def prepare (path : Path) (disk : Disk) : Except CacheError Unit × Disk :=
  match path.parent? with
  | none => (.ok (), disk)
  | some directory =>
    let (result, disk) := disk.makeDirectories directory
    (result.mapError (.disk directory), disk)

/-- Writes an artifact and reads it back, leaving on disk whatever a failure leaves there. -/
def attempt (s : ArtifactStore) (codec : Codec) (path : Path) (i : Interface) (disk : Disk) :
    Except CacheError Interface × Disk :=
  match prepare path disk with
  | (.error e, disk) => (.error e, disk)
  | (.ok (), disk) =>
    match codec.encode i with
    | .error e => (.error e, disk)
    | .ok payload =>
      match disk.write path (Artifact.layout (s.headerFor i payload) payload) with
      | .error fault => (.error (.disk path fault), disk)
      | .ok disk =>
        match s.readInterface? codec path disk with
        | some durable => (.ok durable, disk)
        | none => (.error (.roundTrip path), disk)

/-- The disk without the file at a path, if there is one that can be removed. -/
def discard (path : Path) (disk : Disk) : Disk :=
  match disk.removeFile path with
  | .ok disk => disk
  | .error _ => disk

/-- **Writes an artifact** and answers with what reading it gives. After a failure there is no file
at the path. -/
def write (s : ArtifactStore) (codec : Codec) (path : Path) (i : Interface) (disk : Disk) :
    Except CacheError Interface × Disk :=
  match s.attempt codec path i disk with
  | (.ok durable, disk) => (.ok durable, disk)
  | (.error e, disk) => (.error e, discard path disk)

end ArtifactStore

end ModuleLoader
