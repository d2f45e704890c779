import ModuleLoader.Diagnostic
import ModuleLoader.OrderedMap

/-!
# Interfaces

Checking a module leaves an interface: all that other modules need to know in order to import it.
The loader does not look into what is exported. It stores the tables, hashes them, and joins them
into the scope of an importer.

What decides about reuse are the other fields. An interface records the digest of the source it
was built from, the digest of the base options, and each import with the full digest that import
had at the time; its own full digest covers all of this.
-/

namespace ModuleLoader

/-- What a module makes visible to its importers. -/
structure Exports where
  /-- The names in scope. -/
  scope : NameSet
  /-- The type of each checked definition. -/
  signature : OrderedMap String
  /-- The definition each builtin is bound to. -/
  builtins : OrderedMap String
  /-- Pattern synonyms. -/
  patternSynonyms : OrderedMap String
  /-- The display forms of each name. -/
  displayForms : OrderedMap (List String)
  /-- Warnings that users attached to names. -/
  userWarnings : OrderedMap String
  /-- The definitions marked as partial. -/
  partialDefinitions : NameSet
  deriving DecidableEq

namespace Exports

/-- Nothing exported. -/
def empty : Exports := ⟨∅, ∅, ∅, ∅, ∅, ∅, ∅⟩

instance : EmptyCollection Exports := ⟨empty⟩

instance : Inhabited Exports := ⟨empty⟩

end Exports

/-- **The interface of a checked module.** -/
structure Interface where
  /-- The module it belongs to. -/
  name : ModuleName
  /-- The digest of the source text it was built from. -/
  sourceHash : Digest
  /-- The digest of the whole interface, zeros until it is sealed. -/
  fullHash : Digest
  /-- The direct imports, each with its full digest at the time. -/
  imports : List (ModuleName × Digest)
  /-- The options the module was checked with. -/
  options : Options
  /-- The fingerprint of the session's base options at the time. -/
  baseOptions : Digest
  /-- What importers see. -/
  exports : Exports
  /-- The warnings that checking the module produced. -/
  warnings : List Diagnostic
  /-- A message for every importer. -/
  importWarning : Option String
  deriving DecidableEq

namespace Interface

/-- The full digest recorded for a direct import. -/
def recordedHash? (i : Interface) (module : ModuleName) : Option Digest := i.imports.lookup module

/-- Whether checking the module produced warnings. -/
def hasWarnings (i : Interface) : Bool := !i.warnings.isEmpty

theorem hasWarnings_eq_false_iff {i : Interface} : i.hasWarnings = false ↔ i.warnings = [] := by
  simp [hasWarnings]

/-- Whether the full digest has been filled in. -/
def isSealed (i : Interface) : Bool := i.fullHash ≠ Digest.zero

end Interface

end ModuleLoader
