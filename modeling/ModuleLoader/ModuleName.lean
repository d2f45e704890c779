import ModuleLoader.Path

/-!
# Module names

A module is known by one dotted text, such as `Data.List.Base`. The fields between the dots give
it a place in two hierarchies: a name lies under every name whose fields are the first of its own,
and the fields, read as directories, say where the source and the interface of the module are
kept.
-/

namespace ModuleLoader

/-- **The name of a module.** -/
structure ModuleName where
  /-- The dotted text. -/
  text : String
  deriving DecidableEq, Hashable, Repr

namespace ModuleName

instance : ToString ModuleName := ⟨text⟩

instance : Inhabited ModuleName := ⟨⟨""⟩⟩

/-- The fields between dots. -/
def parts (m : ModuleName) : List String := fields '.' m.text

/-- Whether a name is the given one or lies under it. -/
def hasPrefix (m : ModuleName) (above : String) : Bool :=
  m.text == above || (above.toList ++ ['.']).isPrefixOf m.text.toList

/-- The file that belongs to a module, relative to a root: one directory per field, and the
extension on the last one. -/
def relativePath (m : ModuleName) (extension : String) : Path :=
  let place := m.parts.foldl (fun (p : Path) part => p.join ⟨part⟩) ⟨""⟩
  place.withExtension extension

/-- The name next to the name of its type. -/
def labelled (m : ModuleName) : String := s!"ModuleName({m.text})"

end ModuleName

end ModuleLoader
