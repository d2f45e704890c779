import ModuleLoader.Decoded
import ModuleLoader.World

/-!
# Loads

A load is a computation on the caches of a session and on the world. It may fail, and what it has
done to caches and world by then stays done: modules settled before the failure remain settled.

A load descends from module to module. It is given a bound on how deep it may go, and one that
would go deeper has no outcome at all; `none` is kept apart from every error, so that an error is
always an answer about the modules.
-/

namespace ModuleLoader

/-- What a session remembers from one load to the next. -/
structure Caches where
  /-- The settled modules. -/
  visited : VisitedCache
  /-- The interfaces decoded or written. -/
  decoded : DecodedCache
  /-- The source files read. -/
  sources : SourceCache

namespace Caches

/-- Nothing remembered. -/
def empty : Caches := ⟨∅, ∅, ∅⟩

instance : EmptyCollection Caches := ⟨empty⟩

instance : Inhabited Caches := ⟨empty⟩

end Caches

/-- What a load can see and change. -/
structure LoadState where
  /-- The caches of the session. -/
  caches : Caches
  /-- The world. -/
  world : World

/-- **A load** with a result of some type. -/
abbrev Load (α : Type) := ExceptT LoadError (StateT LoadState Option) α

namespace Load

variable {α : Type}

/-- The load that has gone too deep. -/
def exhausted : Load α := ExceptT.mk fun _ => none

/-- The outcome of a load, a failure being an outcome like any other. -/
def outcome (load : Load α) : Load (Except LoadError α) :=
  ExceptT.mk do return .ok (← load.run)

/-- A result, or a failure. -/
def ofExcept (result : Except LoadError α) : Load α := ExceptT.mk (pure result)

/-- Records an event. -/
def record (event : Event) : Load Unit :=
  modify fun s => { s with world := s.world.record event }

/-! ## The disk -/

/-- The disk at this access. -/
def disk : Load Disk := do
  let s ← get
  let world := s.world.next
  set { s with world }
  return world.disk

/-- Replaces the disk with what was made of it at the last access. -/
def setDisk (disk : Disk) : Load Unit :=
  modify fun s => { s with world := { s.world with disk } }

/-- Changes the disk in one access; a change that fails leaves it alone. -/
def edit (change : Disk → Except DiskFault Disk) : Load (Except DiskFault Unit) := do
  match change (← disk) with
  | .ok changed =>
    setDisk changed
    return .ok ()
  | .error fault => return .error fault

/-! ## The caches -/

/-- What is known of a module if it is settled. -/
def visited? (module : ModuleName) : Load (Option VisitedEntry) :=
  return (← get).caches.visited.get? module

/-- Settles a module. -/
def settle (module : ModuleName) (entry : VisitedEntry) : Load Unit := do
  modify fun s =>
    { s with caches := { s.caches with visited := s.caches.visited.record module entry } }
  record (.settled module)

/-- The decoded interface of a module, if it is the one on disk. -/
def decoded? (module : ModuleName) (onDisk : Option Digest) : Load (Option Interface) := do
  let s ← get
  let (found, decoded) := s.caches.decoded.getCurrent? module onDisk
  set { s with caches := { s.caches with decoded } }
  return found

/-- Keeps a decoded interface. -/
def keep (module : ModuleName) (i : Interface) : Load Unit :=
  modify fun s =>
    { s with caches := { s.caches with decoded := s.caches.decoded.insert module i } }

/-- Reads a source file through the cache, in the way given. -/
def sourceBy (read : SourceCache → Disk → Path → Except DiskFault (SourceFile × SourceCache))
    (path : Path) : Load SourceFile := do
  let disk ← disk
  let s ← get
  match read s.caches.sources disk path with
  | .ok (file, sources) =>
    set { s with caches := { s.caches with sources } }
    return file
  | .error fault => throw (.source path fault)

/-- The source file at a path, read only if it has not been read before. -/
def source (path : Path) : Load SourceFile := sourceBy SourceCache.load path

/-- The source file at a path as it is now. -/
def freshSource (path : Path) : Load SourceFile := sourceBy SourceCache.reload path

end Load

end ModuleLoader
