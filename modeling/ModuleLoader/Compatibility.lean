import ModuleLoader.Interface
import ModuleLoader.Settings

/-!
# Compatible options

An importer and its import are compared flag by flag: first the coinfective flags that the importer
has and the import lacks, then the infective flags that the import has and the importer lacks. Each
is a warning about the import. Built-in modules are exempt, and the comparison as a whole can be
switched off.
-/

namespace ModuleLoader

/-- **The comparison of options across imports.** -/
structure Compatibility where
  /-- Whether anything is compared. -/
  enabled : Bool
  deriving DecidableEq

namespace Compatibility

/-- The comparison that settings ask for. -/
def ofSettings (settings : Settings) : Compatibility := ⟨settings.checks.optionConsistency⟩

/-- The coinfective flags that an import lacks. -/
def missing (importer imported : Options) : List Flag :=
  Flag.coinfective.filter fun f => importer.get f && !imported.get f

/-- The infective flags that an importer lacks. -/
def leaking (importer imported : Options) : List Flag :=
  Flag.infective.filter fun f => imported.get f && !importer.get f

/-- **The warnings about an import**, given the options of its importer. -/
def check (c : Compatibility) (importer : Options) (imported : Interface) (isPrimitive : Bool) :
    List Diagnostic :=
  if !c.enabled || isPrimitive then []
  else
    (missing importer imported.options).map (Diagnostic.ofCoinfective · imported.name) ++
      (leaking importer imported.options).map (Diagnostic.ofInfective · imported.name)

end Compatibility

end ModuleLoader
