import ModuleLoader.ImportStack
import ModuleLoader.Interface.Sealing

/-!
# Why a load fails

Whatever is wrong with a stored interface only means that its module is checked again. The errors
here are those that checking again cannot mend: they end the load of the entry module, unless the
checker that asked for an import chooses to go on without it.
-/

namespace ModuleLoader

/-- **Why a module could not be loaded.** -/
inductive LoadError where
  /-- A module imports itself through others. -/
  | importCycle (cycle : ImportCycle)
  /-- No include root holds a source file for the module. -/
  | moduleNotFound (module : ModuleName) (searched : List Path)
  /-- Several include roots hold a source file for the module. -/
  | ambiguousModule (module : ModuleName) (paths : List Path)
  /-- A source file declares another module than the one its place implies. -/
  | moduleNameMismatch (expected found : ModuleName) (path : Path)
  /-- A module binds a builtin that is bound otherwise already. -/
  | duplicateBuiltinBinding (builtin existing conflicting : String) (module : ModuleName)
  /-- A module that is not built in was checked with warnings. -/
  | importedWithWarnings (module : ModuleName)
  /-- The checker rejects a module. -/
  | typeCheck (module : ModuleName) (message : String)
  /-- No rebuild of an import validated. -/
  | isolatedRebuildDiverged (module : ModuleName) (attempts : Nat)
  /-- A source file could not be read. -/
  | source (path : Path) (fault : DiskFault)
  /-- An interface could not be put on disk. -/
  | cache (error : CacheError)
  deriving DecidableEq

namespace LoadError

/-- The module that an error is about, if it is about one. -/
def module? : LoadError → Option ModuleName
  | importCycle cycle => cycle.chain.head?
  | moduleNotFound module _ => some module
  | ambiguousModule module _ => some module
  | moduleNameMismatch expected _ _ => some expected
  | duplicateBuiltinBinding _ _ _ module => some module
  | importedWithWarnings module => some module
  | typeCheck module _ => some module
  | isolatedRebuildDiverged module _ => some module
  | source _ _ => none
  | cache _ => none

/-- The name of the kind of an error. -/
def kind : LoadError → String
  | importCycle _ => "ImportCycle"
  | moduleNotFound _ _ => "ModuleNotFound"
  | ambiguousModule _ _ => "AmbiguousModule"
  | moduleNameMismatch _ _ _ => "ModuleNameMismatch"
  | duplicateBuiltinBinding _ _ _ _ => "DuplicateBuiltinBinding"
  | importedWithWarnings _ => "ImportedWithWarnings"
  | typeCheck _ _ => "TypeCheck"
  | isolatedRebuildDiverged _ _ => "IsolatedRebuildDiverged"
  | source _ _ => "Source"
  | cache _ => "Cache"

/-- The message for an error, given how faults of the disk are worded. -/
def message (disk : DiskFault → String) : LoadError → String
  | importCycle cycle => cycle.message
  | moduleNotFound module searched =>
    s!"module {module} not found in any of {searched.length} include root(s)"
  | ambiguousModule module paths =>
    s!"module {module} is defined in more than one include root: " ++
      String.intercalate ", " (paths.map Path.text)
  | moduleNameMismatch expected found path =>
    s!"{path} should define module {expected} but defines {found}"
  | duplicateBuiltinBinding builtin existing conflicting module =>
    s!"builtin {builtin} is already bound to {existing}; {module} binds it to {conflicting}"
  | importedWithWarnings module =>
    s!"module {module} was checked with warnings and cannot be imported"
  | typeCheck module message => s!"failed to check {module}: {message}"
  | isolatedRebuildDiverged module attempts =>
    s!"interface of {module} did not validate after {attempts} isolated build(s)"
  | source path fault => s!"failed to read {path}: {disk fault}"
  | cache error => error.message disk

/-- What has a result has not failed. -/
theorem eq_ok_of_toOption {α : Type} {outcome : Except LoadError α} {result : α}
    (h : outcome.toOption = some result) : outcome = .ok result := by
  cases outcome with
  | error e => contradiction
  | ok found => exact congrArg Except.ok (Option.some.inj h)

/-- What has some result has not failed. -/
theorem exists_eq_ok {α : Type} {outcome : Except LoadError α}
    (h : outcome.toOption.isSome = true) : ∃ result, outcome = .ok result := by
  obtain ⟨result, hsome⟩ := Option.isSome_iff_exists.1 h
  exact ⟨result, eq_ok_of_toOption hsome⟩

end LoadError

end ModuleLoader
