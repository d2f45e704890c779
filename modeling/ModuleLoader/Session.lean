import ModuleLoader.Load.Entry

/-!
# Sessions

A session loads modules one after the other. It remembers what it settled, decoded and read, and it
accumulates a scope: everything merged from the modules it loaded and from their imports. A load
that fails leaves the scope as it was, while what it has learned about other modules is kept.

Of an ended session the decoded interfaces can be carried over into the next one. That saves
decoding them again; each is still compared with the artifact on disk before it is used.
-/

namespace ModuleLoader

-- Sums begin with the zero that comes with the numbers, whatever algebra is imported elsewhere.
attribute [local instance (high)] Zero.ofOfNat0

/-- **A session.** -/
structure Session where
  /-- What it runs with. -/
  setup : Setup
  /-- The modules in progress. -/
  stack : ImportStack
  /-- What it remembers. -/
  caches : Caches
  /-- Everything merged so far. -/
  scope : ImportedScope

namespace Session

/-- A session that starts from scratch. -/
def start (setup : Setup) : Session := ⟨setup, ∅, ∅, ∅⟩

/-- A session that starts with the decoded interfaces of an earlier one. -/
def resume (setup : Setup) (decoded : DecodedCache) : Session :=
  ⟨setup, ∅, { Caches.empty with decoded }, ∅⟩

/-- The path of the artifact of a module found below an include root. -/
def interfacePath (s : Session) (root : Path) (module : ModuleName) : Path :=
  s.setup.store.interfacePath root module

/-- **Loads a module**, unless more than `depth` imports would be in progress at once: the outcome,
the session after the load and the world after it. -/
def loadWithin (depth : Nat) (s : Session) (module : ModuleName) (mode : CheckMode)
    (world : World) : Option (Except LoadError Loaded × Session × World) := do
  let load := Setup.entering s.stack module fun stack =>
    s.setup.loadEntry (s.setup.resolve depth stack) (s.scope.forget module) module mode
  let (result, state) ← (load.run).run ⟨s.caches, world⟩
  let s := { s with caches := state.caches }
  match result with
  | .ok (loaded, scope) => return (.ok loaded, { s with scope }, state.world)
  | .error e => return (.error e, s, state.world)

/-! ## How deep a load can go -/

end Session

/-- The number of bytes of an entry of the disk. -/
def Entry.size : Entry → Nat
  | .file content => content.length
  | .directory => 0

namespace Caches

/-- A bound on the number of modules that a load can have in progress at once, as long as every
module that is imported is named in a source or in a stored interface: such a name takes up at least
one byte of a file, or is recorded in a decoded interface. A checker that appends to a file may make
one more name of what the file ends with. -/
def depthBound (c : Caches) (disk : Disk) : Nat :=
  let files := (disk.entries.map fun e => e.2.size + 1).sum
  let sources := (c.sources.files.map fun f => f.2.text.utf8ByteSize + 1).sum
  let decoded := (c.decoded.entries.map fun e => e.2.imports.length).sum
  files + sources + decoded + 1

end Caches

namespace Session

/-- **Loads a module.** There is an outcome unless a checker imports modules that nothing on disk
and nothing the session remembers has named before the load. -/
def load (s : Session) (module : ModuleName) (mode : CheckMode) (world : World) :
    Option (Except LoadError Loaded × Session × World) :=
  s.loadWithin (s.caches.depthBound world.disk) module mode world

end Session

namespace Setup

/-- **Checks a target by itself**, with the modules of a stack in progress: what the check has led
to, and caches and world after it. Nothing else of it remains. -/
def buildIsolated (setup : Setup) (target : Target) (stack : ImportStack) (scope : ImportedScope)
    (caches : Caches) (world : World) : Option (Except LoadError Built × Caches × World) := do
  let depth := caches.depthBound world.disk + target.source.text.utf8ByteSize
  let load := setup.build (setup.resolve depth stack) target .batch scope
  let (result, state) ← (load.run).run ⟨caches, world⟩
  return (result, state.caches, state.world)

end Setup

end ModuleLoader
