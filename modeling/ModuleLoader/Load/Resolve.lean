import ModuleLoader.Artifact.Store
import ModuleLoader.Finder
import ModuleLoader.Load.Basic
import ModuleLoader.Staleness

/-!
# Resolving imports

To resolve an import is to settle it: to decide, once for the session, on the interface of the
module. A module that is settled already is answered from memory. Otherwise its stored interface is
used if it is up to date – which includes that every import it records still has the digest recorded
for it, so these are resolved first. If it is not, the module is checked again, and resolving its
imports is again up to this module.

The recursion runs along the import stack. Each step is written for a given way of resolving the
next level, `resolveStep`, and `resolve` iterates it to a given depth. Since no module is ever on
the stack twice, a depth beyond the number of names that can be asked for is never reached.
-/

namespace ModuleLoader

-- Powers are the ones that come with the numbers, whatever algebra is imported elsewhere.
attribute [local instance (high)] instPowNat

/-- **What a session runs with.** -/
structure Setup where
  /-- The settings of the project. -/
  settings : Settings
  /-- How sources are found. -/
  finder : Finder
  /-- How modules are checked. -/
  checker : Checker
  /-- How interfaces become bytes and back. -/
  codec : Codec

namespace Setup

/-- The compiler version recorded in every artifact. -/
def compilerVersion : String := "0.1.0"

/-- Where artifacts are kept. -/
def store (setup : Setup) : ArtifactStore := ⟨setup.settings.build.interfaceDir, compilerVersion⟩

/-- The comparison of options across imports. -/
def compatibility (setup : Setup) : Compatibility := .ofSettings setup.settings

end Setup

/-- A module that has been found and read. -/
structure Target where
  /-- The module. -/
  name : ModuleName
  /-- The include root that holds it. -/
  root : Path
  /-- Its source as last read. -/
  source : SourceFile
  /-- The place of its artifact. -/
  interfacePath : Path
  /-- Whether it is built in. -/
  isPrimitive : Bool
  deriving DecidableEq

/-- What checking a module has led to. -/
structure Built where
  /-- The sealed interface; the one read back if it was written. -/
  interface : Interface
  /-- The scope with every import merged. -/
  scope : ImportedScope
  /-- Whether the interface was written. -/
  persisted : Bool
  deriving DecidableEq

/-- How the imports of one module are resolved: given the scope that its importer has by now and a
name, with what is known of the settled module, which is importable. -/
abbrev Importer := ImportedScope → ModuleName → Load VisitedEntry

/-- How imports are resolved while the modules of a stack are in progress. -/
abbrev Resolver := ImportStack → Importer

namespace Setup

/-! ## Sources -/

/-- Finds a module and reads its source. -/
def locate (setup : Setup) (module : ModuleName) : Load Target := do
  let found ← Load.ofExcept (setup.finder module (← Load.disk))
  return {
    name := module
    root := found.root
    source := ← Load.source found.source
    interfacePath := setup.store.interfacePath found.root module
    isPrimitive := setup.settings.isPrimitive module }

/-- A target with its source read afresh. -/
def refresh (target : Target) : Load Target :=
  return { target with source := ← Load.freshSource target.source.path }

/-! ## Stored interfaces -/

/-- The interface stored for a target, whether or not it is up to date. -/
def stored (setup : Setup) (target : Target) : Load (Except StalenessReason Interface) := do
  let header := setup.store.readHeader? target.interfacePath (← Load.disk)
  match ← Load.decoded? target.name (header.map Artifact.Header.fullHash) with
  | some i => return .ok i
  | none =>
    if (← Load.disk).exists? target.interfacePath then
      match setup.store.readInterface? setup.codec target.interfacePath (← Load.disk) with
      | some i => return .ok i
      | none => return .error .undecodable
    else return .error .noInterface

/-- **The interface stored for a target, if it is up to date.** Resolving the recorded imports may
fail in a way that checking the target again could not mend, and then the load fails. -/
def validate (setup : Setup) (importer : Importer) (target : Target) (scope : ImportedScope) :
    Load (Except StalenessReason Interface) := do
  match ← setup.stored target with
  | .error reason => return .error reason
  | .ok i =>
    match i.localStaleness? target.name target.source.hash setup.settings.options.fingerprint with
    | some reason => return .error reason
    | none =>
      let current (imported : ModuleName) : Load Digest :=
        return (← importer scope imported).interface.fullHash
      match ← i.importStaleness? current with
      | some reason => return .error reason
      | none =>
        Load.keep target.name i
        return .ok i

/-! ## Checking -/

/-- **Imports a module into a context.** If that fails, in resolving the module or in merging it,
the context stays as it is. -/
def importInto (setup : Setup) (importer : Importer) (context : CheckContext)
    (imported : ModuleName) : Load (Except LoadError Interface × CheckContext) := do
  match ← (importer context.scope imported).outcome with
  | .error e => return (.error e, context)
  | .ok entry =>
    match context.addImport setup.compatibility imported entry with
    | .error e => return (.error e, context)
    | .ok context => return (.ok entry.interface, context)

/-- Answers a request, and says what the context is afterwards. -/
def answer (setup : Setup) (importer : Importer) (context : CheckContext) :
    (request : Request) → Load (request.Answer × CheckContext)
  | .resolve imported => setup.importInto importer context imported
  | .context => return (context, context)
  | .setOptions options => return ((), { context with options })
  | .warn warning => return ((), { context with warnings := context.warnings ++ [warning] })
  | .read path => return ((← Load.disk).read path, context)
  | .edit change => return (← Load.edit change, context)
  | .note text => return (← Load.record (.note text), context)

/-- Runs a check from a context. -/
def run {α : Type} (setup : Setup) (importer : Importer) (context : CheckContext) :
    Check α → Load (α × CheckContext)
  | .done result => return (result, context)
  | .fail error => throw error
  | .ask request next => do
    let (reply, context) ← setup.answer importer context request
    setup.run importer context (next reply)

/-- **A check in two parts runs as its parts do**, one after the other. -/
theorem run_bind {α β : Type} (setup : Setup) (importer : Importer) (check : Check α)
    (rest : α → Check β) (context : CheckContext) :
    setup.run importer context (check.bind rest)
      = setup.run importer context check >>= fun r => setup.run importer r.2 (rest r.1) := by
  induction check generalizing context with
  | done result => simp only [Check.bind, run, pure_bind]
  | fail error => rfl
  | ask request next ih =>
    simp only [Check.bind, run, bind_assoc]
    exact bind_congr fun reply => ih reply.1 reply.2

/-- The interface, not yet sealed, that a check of a target has led to. -/
def interfaceOf (setup : Setup) (target : Target) (checked : CheckedModule)
    (context : CheckContext) : Interface where
  name := checked.name
  sourceHash := target.source.hash
  fullHash := .zero
  imports := context.imports
  options := context.options
  baseOptions := setup.settings.options.fingerprint
  exports := checked.exports
  warnings := context.warnings
  importWarning := checked.importWarning

/-- Whether an interface that was checked in some mode is written to disk. -/
def writes (setup : Setup) (mode : CheckMode) (i : Interface) : Bool :=
  mode.persists && !i.hasWarnings && setup.settings.build.writeInterfaces

/-- Writes the interface of a target and keeps what reading it gives. All of this is one access to the
disk, so what is read is what was just written. -/
def persist (setup : Setup) (target : Target) (i : Interface) : Load Interface := do
  let (result, disk) := setup.store.write setup.codec target.interfacePath i (← Load.disk)
  Load.setDisk disk
  let durable ← Load.ofExcept (result.mapError .cache)
  Load.keep target.name durable
  return durable

/-- **Checks a target** in a scope, and writes the interface if it is to be written. -/
def build (setup : Setup) (importer : Importer) (target : Target) (mode : CheckMode)
    (scope : ImportedScope) : Load Built := do
  Load.record (.checking target.name mode)
  let (checked, context) ← setup.run importer (.start setup.settings.options scope)
    (setup.checker target.name target.source mode)
  if checked.name = target.name then
    let i ← Load.ofExcept <|
      ((setup.interfaceOf target checked context).sealed setup.codec).mapError .cache
    if setup.writes mode i then return ⟨← setup.persist target i, context.scope, true⟩
    else return ⟨i, context.scope, false⟩
  else throw (.moduleNameMismatch target.name checked.name target.source.path)

/-- The number of times that an import is checked before the load gives up: one more than the
retries, as far as that is a 32-bit number. -/
def attempts (setup : Setup) : Nat :=
  min (setup.settings.build.maxIsolatedRetries.toNat + 1) (2 ^ (32 : Nat) - 1)

/-- Checks a target until what was written is up to date, at most a number of times. Each attempt
starts from the scope given, and the source is read afresh after it. -/
def rebuild (setup : Setup) (importer : Importer) (scope : ImportedScope) :
    (left : Nat) → Target → Load Interface
  | 0, target => throw (.isolatedRebuildDiverged target.name setup.attempts)
  | left + 1, target => do
    let built ← setup.build importer target .batch scope
    if built.persisted then
      let target ← refresh target
      match ← setup.validate importer target scope with
      | .ok i => return i
      | .error _ => setup.rebuild importer scope left target
    else return built.interface

/-- **Checks an import until what was written is up to date**, as often as the settings allow. -/
def rebuildImport (setup : Setup) (importer : Importer) (scope : ImportedScope) (target : Target) :
    Load Interface :=
  setup.rebuild importer scope setup.attempts target

/-! ## Resolving -/

/-- Goes on with a module on the stack. -/
def entering {α : Type} (stack : ImportStack) (module : ModuleName)
    (load : ImportStack → Load α) : Load α :=
  match stack.push module with
  | .ok stack => load stack
  | .error cycle => throw (.importCycle cycle)

/-- Decides on the interface of a target: the stored one if it is up to date, and otherwise one that
has been checked again. What is stored has no warnings. -/
def obtain (setup : Setup) (importer : Importer) (scope : ImportedScope) (target : Target) :
    Load VisitedEntry := do
  match ← setup.validate importer target scope with
  | .ok i => return ⟨i, false, target.isPrimitive⟩
  | .error _ =>
    let i ← setup.rebuildImport importer scope target
    return ⟨i, i.hasWarnings, target.isPrimitive⟩

/-- Settles a module, given how its own imports are resolved. -/
def settleImport (setup : Setup) (importer : Importer) : Importer := fun scope module => do
  match ← Load.visited? module with
  | some entry => return entry
  | none =>
    let target ← setup.locate module
    let entry ← setup.obtain importer scope target
    Load.settle module entry
    return entry

/-- Resolves an import, given how imports of the next level are resolved. -/
def resolveStep (setup : Setup) (next : Resolver) : Resolver := fun stack scope module => do
  let entry ← entering stack module fun stack => setup.settleImport (next stack) scope module
  if entry.importable then return entry else throw (.importedWithWarnings module)

/-- **Resolves an import** to a given depth. -/
def resolve (setup : Setup) : (depth : Nat) → Resolver
  | 0, _, _, _ => Load.exhausted
  | depth + 1, stack, scope, module =>
    setup.resolveStep (setup.resolve depth) stack scope module

/-- One level of a resolution. -/
theorem resolve_succ (setup : Setup) (depth : Nat) :
    setup.resolve (depth + 1) = setup.resolveStep (setup.resolve depth) := rfl

end Setup

end ModuleLoader
