import ModuleLoader.Session

/-!
# The loader as a machine

A `Load` is given the import stack as an argument, and the scope of the session too. So it cannot
leave the one other than it was, and a load that fails cannot but leave the other alone: both are
true by the way in which it is written, and nothing has been said about the loader.

The loader itself keeps both in its state and changes them in place. It enters a module on its stack
before it goes on with it, and takes the top of the stack off again on every way out. It forgets the
entry module, merges into the scope as it goes, and puts the old scope back if the load has failed. To
check an import by itself it sets a copy of itself up, with a scope of its own and a copy of the
stack, hands its caches over, and takes them back afterwards. Here the loader is written in this way,
function by function, and what can be seen of it is put on record after every step.

That a machine does what a load does, and what its record says, is shown in
`ModuleLoader.Proofs.Load.Unwinding`.
-/

namespace ModuleLoader

/-- **What can be seen of a loader at one moment.** -/
structure Moment where
  /-- The modules in progress, outermost first. -/
  stack : List ModuleName
  /-- The settled modules. -/
  visited : VisitedCache

/-- **A loader at work.** Nothing says that its stack is as it should be. -/
structure Machine where
  /-- The modules in progress, outermost first. -/
  stack : List ModuleName
  /-- What it remembers. -/
  caches : Caches
  /-- Everything merged so far. -/
  scope : ImportedScope
  /-- The world around it. -/
  world : World
  /-- The moments after each of its steps, first one first. -/
  trail : List Moment

namespace Machine

/-- What can be seen of a machine now. -/
def moment (m : Machine) : Moment := ⟨m.stack, m.caches.visited⟩

/-- The machine with this moment on record. -/
def observed (m : Machine) : Machine := { m with trail := m.trail ++ [m.moment] }

/-- What loads work on. -/
def loadState (m : Machine) : LoadState := ⟨m.caches, m.world⟩

end Machine

/-- **What a machine does**, with a result of some type. -/
abbrev Exec (α : Type) := ExceptT LoadError (StateT Machine Option) α

namespace Exec

variable {α : Type}

/-! ## Steps -/

/-- A machine that has gone too deep. -/
def exhausted : Exec α := ExceptT.mk fun _ => none

/-- The outcome of what a machine does, a failure being an outcome like any other. -/
def outcome (exec : Exec α) : Exec (Except LoadError α) :=
  ExceptT.mk do return .ok (← exec.run)

/-- A result, or a failure. -/
def ofExcept (result : Except LoadError α) : Exec α := ExceptT.mk (pure result)

/-- A step that concerns caches and world alone. -/
def step (load : Load α) : Exec α :=
  ExceptT.mk fun m => (load.run.run m.loadState).map fun r =>
    (r.1, { m with caches := r.2.caches, world := r.2.world }.observed)

/-- Enters a module on the stack. What it gives is the depth of the stack then. -/
def enter (module : ModuleName) : Exec Nat := do
  let m ← get
  if module ∈ m.stack then
    throw (.importCycle ⟨m.stack.dropWhile (· ≠ module) ++ [module]⟩)
  else
    set { m with stack := m.stack ++ [module] }.observed
    return m.stack.length + 1

/-- Takes everything off the stack that was entered since it had some depth, and what was entered
then. -/
def leave (depth : Nat) : Exec Unit :=
  modify fun m => { m with stack := m.stack.take (depth - 1) }.observed

/-- **Goes on with a module on the stack**, and takes it off again whatever comes of that. -/
def withFrame (module : ModuleName) (body : Exec α) : Exec α := do
  let depth ← enter module
  let result ← body.outcome
  leave depth
  ofExcept result

/-- **Does something in a copy of the machine**, which has a scope of its own. The caches are handed
over and taken back, whatever comes of that; nothing else that happens to the copy is seen again. -/
def inFork (body : Exec α) : Exec α :=
  ExceptT.mk fun m => (body.run.run { m with scope := ∅ }).map fun r =>
    (r.1, { m with caches := r.2.caches, world := r.2.world, trail := r.2.trail })

/-- Merges an interface into the scope. -/
def merge (i : Interface) : Exec Unit := do
  let merged ← ofExcept ((← get).scope.merge i)
  modify fun m => { m with scope := merged }

/-- Merges an interface into the scope and, before it, what it imports. -/
def mergeWithImports (i : Interface) : Exec Unit := do
  let m ← get
  let visited := m.caches.visited
  (ImportedScope.reach visited m.scope (ImportedScope.reachable visited i) [i]).reverse.forM merge

/-! ## Resolving imports -/

/-- How imports are resolved. -/
abbrev Importer := ImportedScope → ModuleName → Exec VisitedEntry

variable (setup : Setup) (importer : Importer)

/-- The interface stored for a target, if it is up to date. -/
def validate (target : Target) (scope : ImportedScope) :
    Exec (Except StalenessReason Interface) := do
  match ← step (setup.stored target) with
  | .error reason => return .error reason
  | .ok i =>
    match i.localStaleness? target.name target.source.hash setup.settings.options.fingerprint with
    | some reason => return .error reason
    | none =>
      let current (imported : ModuleName) : Exec Digest :=
        return (← importer scope imported).interface.fullHash
      match ← i.importStaleness? current with
      | some reason => return .error reason
      | none =>
        step (Load.keep target.name i)
        return .ok i

/-- Imports a module into a context. -/
def importInto (context : CheckContext) (imported : ModuleName) :
    Exec (Except LoadError Interface × CheckContext) := do
  match ← (importer context.scope imported).outcome with
  | .error e => return (.error e, context)
  | .ok entry =>
    match context.addImport setup.compatibility imported entry with
    | .error e => return (.error e, context)
    | .ok context => return (.ok entry.interface, context)

/-- Answers a request. -/
def answer (context : CheckContext) : (request : Request) → Exec (request.Answer × CheckContext)
  | .resolve imported => importInto setup importer context imported
  | .context => return (context, context)
  | .setOptions options => return ((), { context with options })
  | .warn warning => return ((), { context with warnings := context.warnings ++ [warning] })
  | .read path => return ((← step Load.disk).read path, context)
  | .edit change => return (← step (Load.edit change), context)
  | .note text => return (← step (Load.record (.note text)), context)

/-- Runs a check from a context. -/
def check {α : Type} (context : CheckContext) : Check α → Exec (α × CheckContext)
  | .done result => return (result, context)
  | .fail error => throw error
  | .ask request next => do
    let (reply, context) ← answer setup importer context request
    check context (next reply)

/-- Checks a target in a scope, and writes the interface if it is to be written. -/
def build (target : Target) (mode : CheckMode) (scope : ImportedScope) : Exec Built := do
  step (Load.record (.checking target.name mode))
  let (checked, context) ← check setup importer (.start setup.settings.options scope)
    (setup.checker target.name target.source mode)
  if checked.name = target.name then
    let i ← ofExcept <|
      ((setup.interfaceOf target checked context).sealed setup.codec).mapError .cache
    if setup.writes mode i then
      return ⟨← step (setup.persist target i), context.scope, true⟩
    else return ⟨i, context.scope, false⟩
  else throw (.moduleNameMismatch target.name checked.name target.source.path)

/-- Checks a target until what was written is up to date, each time in a copy of the machine. -/
def rebuild (scope : ImportedScope) : (left : Nat) → Target → Exec Interface
  | 0, target => throw (.isolatedRebuildDiverged target.name setup.attempts)
  | left + 1, target => do
    let built ← inFork (build setup importer target .batch scope)
    if built.persisted then
      let target ← step (Setup.refresh target)
      match ← validate setup importer target scope with
      | .ok i => return i
      | .error _ => rebuild scope left target
    else return built.interface

/-- Decides on the interface of a target. -/
def obtain (scope : ImportedScope) (target : Target) : Exec VisitedEntry := do
  match ← validate setup importer target scope with
  | .ok i => return ⟨i, false, target.isPrimitive⟩
  | .error _ =>
    let i ← rebuild setup importer scope setup.attempts target
    return ⟨i, i.hasWarnings, target.isPrimitive⟩

/-- Settles a module. -/
def settleImport : Importer := fun scope module => do
  match ← step (Load.visited? module) with
  | some entry => return entry
  | none =>
    let target ← step (setup.locate module)
    let entry ← obtain setup importer scope target
    step (Load.settle module entry)
    return entry

/-- **Resolves an import** to a given depth. -/
def resolve : (depth : Nat) → Importer
  | 0, _, _ => exhausted
  | depth + 1, scope, module => do
    let entry ← withFrame module (settleImport setup (resolve depth) scope module)
    if entry.importable then return entry else throw (.importedWithWarnings module)

/-! ## Entry modules -/

/-- Checks an entry module in place. -/
def buildEntry (target : Target) (mode : CheckMode) : Exec Loaded := do
  let built ← build setup importer target mode (← get).scope
  let i := built.interface
  step (Setup.settleEntry mode target.name ⟨i, i.hasWarnings, target.isPrimitive⟩)
  modify fun m => { m with scope := built.scope }
  merge i
  return ⟨i, i.warnings⟩

/-- Uses the stored interface of an entry module if it is up to date, and otherwise checks the
module in place. -/
def validateEntry (target : Target) (mode : CheckMode) : Exec Loaded := do
  match ← validate setup importer target (← get).scope with
  | .ok i =>
    step (Setup.settleEntry mode target.name ⟨i, false, target.isPrimitive⟩)
    mergeWithImports i
    return ⟨i, []⟩
  | .error _ => buildEntry setup importer target mode

/-- Loads an entry module that is on the stack. -/
def loadFramed (module : ModuleName) (mode : CheckMode) : Exec Loaded := do
  match ← step (Load.visited? module), mode.retainsPrivate with
  | some entry, false =>
    mergeWithImports entry.interface
    return ⟨entry.interface, entry.interface.warnings⟩
  | _, _ =>
    let located ← step (setup.locate module)
    let target ← step (Setup.refreshFor mode located)
    if mode.retainsPrivate then buildEntry setup importer target mode
    else validateEntry setup importer target mode

/-- **Loads an entry module**: whatever an earlier load of it has contributed to the scope is
forgotten, and the scope is put back if the load fails. -/
def loadEntry (module : ModuleName) (mode : CheckMode) : Exec Loaded := do
  let previous := (← get).scope
  modify fun m => { m with scope := m.scope.forget module }
  match ← (withFrame module (loadFramed setup importer module mode)).outcome with
  | .ok loaded => return loaded
  | .error e =>
    modify fun m => { m with scope := previous }
    throw e

end Exec

namespace Session

/-- The machine that a session starts a load with. -/
def machine (s : Session) (world : World) : Machine := ⟨s.stack.frames, s.caches, s.scope, world, []⟩

/-- **Loads a module step by step**, unless more than `depth` imports would be in progress at once:
the outcome, and the machine after the load. -/
def drive (depth : Nat) (s : Session) (module : ModuleName) (mode : CheckMode) (world : World) :
    Option (Except LoadError Loaded × Machine) :=
  ((Exec.loadEntry s.setup (Exec.resolve s.setup depth) module mode).run).run (s.machine world)

end Session

end ModuleLoader
