import ModuleLoader.LoadError
import ModuleLoader.Settings

/-!
# Finding sources

The source of a module lies below one of the include roots, at the place that the name of the
module gives it. It must be there below exactly one of them: with none the module does not exist,
and with several the loader will not choose.
-/

namespace ModuleLoader

/-- Where the source of a module is. -/
structure FoundModule where
  /-- The include root. -/
  root : Path
  /-- The source file. -/
  source : Path
  deriving DecidableEq

/-- A way of finding sources on a disk. -/
abbrev Finder := ModuleName → Disk → Except LoadError FoundModule

namespace Finder

/-- The extension of source files. -/
def sourceExtension : String := "lm"

/-- The places where the source of a module may be, one for each root. -/
def candidates (roots : List Path) (module : ModuleName) : List FoundModule :=
  roots.map fun root => ⟨root, root.join (module.relativePath sourceExtension)⟩

/-- **Finds a module below a list of roots.** -/
def ofRoots (roots : List Path) : Finder := fun module disk =>
  match (candidates roots module).filter fun f => disk.isFile f.source with
  | [] => .error (.moduleNotFound module roots)
  | [found] => .ok found
  | several => .error (.ambiguousModule module (several.map FoundModule.source))

/-- Finds a module below the include roots of a project. -/
def ofSettings (settings : Settings) (directory : Path) : Finder :=
  ofRoots (settings.includeRoots directory)

end Finder

end ModuleLoader
