import ModuleLoader.Interface

/-!
# Staleness

A stored interface may be reused if it belongs to the module, was built from the source as it is
now and under the base options as they are now, and if every import it records still has the full
digest recorded for it. The first condition that fails, in this order, is the reason to check the
module again.

Asking for the current digest of an import is itself a computation that may fail and leave traces,
so the comparison of imports runs in whatever monad the question does.
-/

namespace ModuleLoader

/-- Why a stored interface cannot be reused. -/
inductive StalenessReason where
  /-- Nothing is stored. -/
  | noInterface
  /-- What is stored does not read. -/
  | undecodable
  /-- What is stored belongs to another module. -/
  | nameMismatch (found : ModuleName)
  /-- The source has changed. -/
  | sourceChanged
  /-- The base options have changed. -/
  | optionsChanged
  /-- An import has changed. -/
  | importChanged (module : ModuleName)
  deriving DecidableEq, Repr

namespace StalenessReason

/-- The message for a reason. -/
def message : StalenessReason → String
  | noInterface => "no stored interface"
  | undecodable => "stored interface is unreadable"
  | nameMismatch found => s!"stored interface belongs to {found}"
  | sourceChanged => "source changed"
  | optionsChanged => "base options changed"
  | importChanged module => s!"import {module} changed"

/-- The module that a reason names. -/
def module? : StalenessReason → Option ModuleName
  | nameMismatch found => some found
  | importChanged module => some module
  | _ => none

instance : ToString StalenessReason := ⟨message⟩

end StalenessReason

namespace Interface

/-- **Why an interface cannot be reused, other modules aside.** -/
def localStaleness? (i : Interface) (expected : ModuleName) (sourceHash baseOptions : Digest) :
    Option StalenessReason :=
  if i.name ≠ expected then some (.nameMismatch i.name)
  else if i.sourceHash ≠ sourceHash then some .sourceChanged
  else if i.baseOptions ≠ baseOptions then some .optionsChanged
  else none

/-- **An interface passes** if it belongs to the module, and was built from this source under these
base options. -/
theorem localStaleness?_eq_none_iff {i : Interface} {expected : ModuleName}
    {sourceHash baseOptions : Digest} :
    i.localStaleness? expected sourceHash baseOptions = none ↔
      i.name = expected ∧ i.sourceHash = sourceHash ∧ i.baseOptions = baseOptions := by
  unfold localStaleness?
  by_cases hname : i.name = expected
  · rw [if_neg (fun h => h hname)]
    by_cases hsource : i.sourceHash = sourceHash
    · rw [if_neg (fun h => h hsource)]
      by_cases hoptions : i.baseOptions = baseOptions
      · rw [if_neg (fun h => h hoptions)]
        exact iff_of_true rfl ⟨hname, hsource, hoptions⟩
      · rw [if_pos hoptions]
        exact iff_of_false nofun fun h => hoptions h.2.2
    · rw [if_pos hsource]
      exact iff_of_false nofun fun h => hsource h.2.1
  · rw [if_pos hname]
    exact iff_of_false nofun fun h => hname h.1

/-- The first of some imports whose current digest is not the recorded one. Imports after it are
not asked for. -/
def changedImport? {m : Type → Type} [Monad m] (current : ModuleName → m Digest) :
    List (ModuleName × Digest) → m (Option StalenessReason)
  | [] => return none
  | (module, recorded) :: rest => do
    if (← current module) = recorded then changedImport? current rest
    else return some (.importChanged module)

/-- **Why the imports of an interface keep it from being reused.** -/
def importStaleness? {m : Type → Type} [Monad m] (i : Interface)
    (current : ModuleName → m Digest) : m (Option StalenessReason) :=
  changedImport? current i.imports

end Interface

end ModuleLoader
