import ModuleLoader.ModuleName
import ModuleLoader.Options

/-!
# Warnings

A warning has a numeric code, a message, possibly the module it is about, and notes on how to
resolve it. Codes from 300 up belong to the loader, which reports what it finds wrong with an
import; lower codes are the checker's own.
-/

namespace ModuleLoader

/-- The number of a kind of warning. -/
structure DiagnosticCode where
  /-- The number. -/
  number : UInt16
  deriving DecidableEq, Repr

namespace DiagnosticCode

/-- A code is shown as `W` and at least three digits. -/
def render (c : DiagnosticCode) : String :=
  let digits := toString c.number.toNat
  "W" ++ String.ofList (List.replicate (3 - digits.length) '0') ++ digits

instance : ToString DiagnosticCode := ⟨render⟩

/-- An import enables an infective flag that its importer does not. -/
def infectiveImport : DiagnosticCode := ⟨300⟩

/-- An importer enables a coinfective flag that its import does not. -/
def coinfectiveImport : DiagnosticCode := ⟨301⟩

/-- A module carries a warning for whoever imports it. -/
def importWarning : DiagnosticCode := ⟨302⟩

end DiagnosticCode

/-- **A warning.** -/
structure Diagnostic where
  /-- What kind of warning this is. -/
  code : DiagnosticCode
  /-- The message. -/
  message : String
  /-- The module it is about. -/
  module : Option ModuleName
  /-- Lines that explain how to resolve it. -/
  notes : List String
  deriving DecidableEq, Repr

namespace Diagnostic

/-- The message on a line with code and module, and each note on a line of its own. -/
def render (d : Diagnostic) : String :=
  let place := match d.module with
    | some m => s!" (in {m})"
    | none => ""
  s!"warning[{d.code}]: {d.message}" ++ place ++
    String.join (d.notes.map fun note => "\n  note: " ++ note)

instance : ToString Diagnostic := ⟨render⟩

/-- The import enables an infective flag that its importer lacks. -/
def ofInfective (flag : Flag) (imported : ModuleName) : Diagnostic where
  code := .infectiveImport
  message := s!"importing {imported}, which is checked with {flag}"
  module := some imported
  notes := [s!"{flag} is infective: every module importing {imported} must enable it too"]

/-- The import lacks a coinfective flag that its importer enables. -/
def ofCoinfective (flag : Flag) (imported : ModuleName) : Diagnostic where
  code := .coinfectiveImport
  message := s!"importing {imported}, which is not checked with {flag}"
  module := some imported
  notes := [s!"{flag} is coinfective: every module it is used with may only import " ++
    "modules that enable it"]

/-- The message that an imported module has for its importers. -/
def ofImportWarning (imported : ModuleName) (message : String) : Diagnostic where
  code := .importWarning
  message := message
  module := some imported
  notes := []

end Diagnostic

end ModuleLoader
