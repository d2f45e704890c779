import ModuleLoader.Load.Resolve

/-!
# Loading an entry module

The entry module of a load is settled like an import, but in place: what it imports is merged into
the scope of the session, and then the module itself. If its interface is reused, no check merges
the imports, and so they are found by following the imports that the interface records, as far as
they are settled.

The modes other than `batch` neither settle the module nor write its interface, and they read its
source afresh first.
-/

namespace ModuleLoader

/-- What loading a module gives. -/
structure Loaded where
  /-- The interface of the module. -/
  interface : Interface
  /-- The warnings of checking it, none if its stored interface was reused. -/
  warnings : List Diagnostic
  deriving DecidableEq

namespace ImportedScope

/-- The settled imports of an interface, last one first. -/
def settledImports (visited : VisitedCache) (i : Interface) : List Interface :=
  (i.imports.filterMap fun e => (visited.get? e.1).map VisitedEntry.interface).reverse

/-- Names without one of them. -/
def strike (module : ModuleName) (names : List ModuleName) : List ModuleName :=
  names.filter (· ≠ module)

/-- Striking a name from a list that holds it shortens the list. -/
theorem length_strike_lt {module : ModuleName} {names : List ModuleName} (h : module ∈ names) :
    (strike module names).length < names.length :=
  List.length_filter_lt_length_iff_exists.2 ⟨module, h, by simp⟩

/-- The interfaces that are reached from pending ones, each before those that are reached from it.
An interface is entered only if its name is among those not seen yet and is not merged already. -/
def reach (visited : VisitedCache) (scope : ImportedScope) (unseen : List ModuleName) :
    (pending : List Interface) → List Interface
  | [] => []
  | i :: pending =>
    if i.name ∈ unseen ∧ ¬ scope.contains i.name then
      i :: reach visited scope (strike i.name unseen) (settledImports visited i ++ pending)
    else reach visited scope unseen pending
termination_by pending => (unseen.length, pending.length)
decreasing_by
  · rename_i h
    exact Prod.Lex.left _ _ (length_strike_lt h.1)
  · exact Prod.Lex.right _ (Nat.lt_succ_self _)

/-- The names that can occur on the way from an interface through settled imports. -/
def reachable (visited : VisitedCache) (i : Interface) : List ModuleName :=
  i.name :: visited.entries.map fun e => e.2.interface.name

/-- **Merges an interface and, before it, what it imports** through settled modules, except what
lies behind a module that is merged already. -/
def mergeWithImports (scope : ImportedScope) (visited : VisitedCache) (i : Interface) :
    Except LoadError ImportedScope :=
  (reach visited scope (reachable visited i) [i]).reverse.foldlM merge scope

end ImportedScope

namespace Setup

/-- Ends the load of an entry module with an interface that is reused. -/
def reuse (scope : ImportedScope) (i : Interface) (warnings : List Diagnostic) :
    Load (Loaded × ImportedScope) := do
  let visited := (← get).caches.visited
  let scope ← Load.ofExcept (scope.mergeWithImports visited i)
  return (⟨i, warnings⟩, scope)

/-- The target of a load in a mode: a mode that does not settle a module sees its source as it is
now. -/
def refreshFor (mode : CheckMode) (target : Target) : Load Target :=
  if mode.persists then return target else refresh target

/-- Settles an entry module if the mode is the one that does. -/
def settleEntry (mode : CheckMode) (module : ModuleName) (entry : VisitedEntry) : Load Unit :=
  if mode.persists then Load.settle module entry else return ()

/-- Checks an entry module in place. -/
def buildEntry (setup : Setup) (importer : Importer) (target : Target) (mode : CheckMode)
    (scope : ImportedScope) : Load (Loaded × ImportedScope) := do
  let built ← setup.build importer target mode scope
  let i := built.interface
  settleEntry mode target.name ⟨i, i.hasWarnings, target.isPrimitive⟩
  let scope ← Load.ofExcept (built.scope.merge i)
  return (⟨i, i.warnings⟩, scope)

/-- Uses the stored interface of an entry module if it is up to date, and otherwise checks the
module in place. -/
def validateEntry (setup : Setup) (importer : Importer) (target : Target) (mode : CheckMode)
    (scope : ImportedScope) : Load (Loaded × ImportedScope) := do
  match ← setup.validate importer target scope with
  | .ok i =>
    settleEntry mode target.name ⟨i, false, target.isPrimitive⟩
    reuse scope i []
  | .error _ => setup.buildEntry importer target mode scope

/-- Loads an entry module that is not answered from memory. -/
def loadTarget (setup : Setup) (importer : Importer) (scope : ImportedScope) (module : ModuleName)
    (mode : CheckMode) : Load (Loaded × ImportedScope) := do
  let located ← setup.locate module
  let target ← refreshFor mode located
  if mode.retainsPrivate then setup.buildEntry importer target mode scope
  else setup.validateEntry importer target mode scope

/-- **Loads an entry module** into a scope that holds no contribution of it. -/
def loadEntry (setup : Setup) (importer : Importer) (scope : ImportedScope) (module : ModuleName)
    (mode : CheckMode) : Load (Loaded × ImportedScope) := do
  match ← Load.visited? module, mode.retainsPrivate with
  | some entry, false => reuse scope entry.interface entry.interface.warnings
  | _, _ => setup.loadTarget importer scope module mode

end Setup

end ModuleLoader
