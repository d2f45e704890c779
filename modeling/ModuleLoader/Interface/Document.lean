import ModuleLoader.Interface
import ModuleLoader.Options.Document

/-!
# Interfaces as documents

The readable form of interfaces and of their parts. A record is written as a table with one entry
for each field; a digest is the list of its bytes, a set the list of its members, and an import a
pair. Reading accepts what writing produces, and besides it records given as lists of their fields,
tables with further names, tables that leave out an optional field, and sets in any order with
repetitions.
-/

namespace ModuleLoader

-- Powers are the ones that come with the numbers, whatever algebra is imported elsewhere.
attribute [local instance (high)] instPowNat

namespace Document

/-- A list of texts. -/
def ofTexts (texts : List String) : Document := .list (texts.map .text)

/-- A value that may be absent. -/
def ofOption {α : Type} (write : α → Document) : Option α → Document
  | some a => write a
  | none => .null

end Document

open Document

/-! ## Digests and names -/

/-- A digest is the list of its bytes. -/
def Digest.toDocument (d : Digest) : Document := .list (d.bytes.map fun b => .integer b.toNat)

@[inherit_doc Digest.toDocument]
def Digest.ofDocument? (document : Document) : Option Digest := do
  let bytes ← document.asList? (asNatBelow? 256)
  Digest.ofRaw? (bytes.map UInt8.ofNat)

/-- The name of a module is its text. -/
def ModuleName.toDocument (m : ModuleName) : Document := .text m.text

@[inherit_doc ModuleName.toDocument]
def ModuleName.ofDocument? (document : Document) : Option ModuleName :=
  document.asText?.map ModuleName.mk

/-! ## Maps and sets -/

/-- A map is a table. -/
def OrderedMap.toDocument {α : Type} (write : α → Document) (m : OrderedMap α) : Document :=
  .table (m.entries.map fun e => (e.1, write e.2))

@[inherit_doc OrderedMap.toDocument]
def OrderedMap.ofDocument? {α : Type} (read : Document → Option α) (document : Document) :
    Option (OrderedMap α) :=
  (document.asEntries? read).map OrderedMap.ofList

/-- A set is the list of its members. -/
def NameSet.toDocument (s : NameSet) : Document := ofTexts s.toList

@[inherit_doc NameSet.toDocument]
def NameSet.ofDocument? (document : Document) : Option NameSet :=
  (document.asList? asText?).map NameSet.ofList

/-! ## Warnings -/

/-- The code of a warning is its number. -/
def DiagnosticCode.toDocument (c : DiagnosticCode) : Document := .integer c.number.toNat

@[inherit_doc DiagnosticCode.toDocument]
def DiagnosticCode.ofDocument? (document : Document) : Option DiagnosticCode :=
  (document.asNatBelow? (2 ^ (16 : Nat))).map fun n => ⟨UInt16.ofNat n⟩

/-- A warning is a record. -/
def Diagnostic.toDocument (d : Diagnostic) : Document := .table [
  ("code", d.code.toDocument),
  ("message", .text d.message),
  ("module", ofOption ModuleName.toDocument d.module),
  ("notes", ofTexts d.notes)]

@[inherit_doc Diagnostic.toDocument]
def Diagnostic.ofDocument? (document : Document) : Option Diagnostic := do
  let record ← document.record? ["code", "message", "module", "notes"]
  return {
    code := ← (record "code").required? DiagnosticCode.ofDocument?
    message := ← (record "message").required? asText?
    module := ← (record "module").optional? ModuleName.ofDocument?
    notes := ← (record "notes").required? (asList? asText?) }

/-! ## Interfaces -/

/-- Exports are a record of tables. -/
def Exports.toDocument (e : Exports) : Document := .table [
  ("scope", NameSet.toDocument e.scope),
  ("signature", e.signature.toDocument .text),
  ("builtins", e.builtins.toDocument .text),
  ("pattern_synonyms", e.patternSynonyms.toDocument .text),
  ("display_forms", e.displayForms.toDocument ofTexts),
  ("user_warnings", e.userWarnings.toDocument .text),
  ("partial_definitions", NameSet.toDocument e.partialDefinitions)]

@[inherit_doc Exports.toDocument]
def Exports.ofDocument? (document : Document) : Option Exports := do
  let record ← document.record? ["scope", "signature", "builtins", "pattern_synonyms",
    "display_forms", "user_warnings", "partial_definitions"]
  return {
    scope := ← (record "scope").required? NameSet.ofDocument?
    signature := ← (record "signature").required? (OrderedMap.ofDocument? asText?)
    builtins := ← (record "builtins").required? (OrderedMap.ofDocument? asText?)
    patternSynonyms := ← (record "pattern_synonyms").required? (OrderedMap.ofDocument? asText?)
    displayForms := ← (record "display_forms").required?
      (OrderedMap.ofDocument? (asList? asText?))
    userWarnings := ← (record "user_warnings").required? (OrderedMap.ofDocument? asText?)
    partialDefinitions := ← (record "partial_definitions").required? NameSet.ofDocument? }

namespace Interface

/-- **An interface written as a document.** -/
def toDocument (i : Interface) : Document := .table [
  ("name", i.name.toDocument),
  ("source_hash", i.sourceHash.toDocument),
  ("full_hash", i.fullHash.toDocument),
  ("imports", .list (i.imports.map fun e => .list [e.1.toDocument, e.2.toDocument])),
  ("options", i.options.toDocument),
  ("base_options", i.baseOptions.toDocument),
  ("exports", i.exports.toDocument),
  ("warnings", .list (i.warnings.map Diagnostic.toDocument)),
  ("import_warning", ofOption .text i.importWarning)]

/-- **The interface that a document spells.** -/
def ofDocument? (document : Document) : Option Interface := do
  let record ← document.record? ["name", "source_hash", "full_hash", "imports", "options",
    "base_options", "exports", "warnings", "import_warning"]
  return {
    name := ← (record "name").required? ModuleName.ofDocument?
    sourceHash := ← (record "source_hash").required? Digest.ofDocument?
    fullHash := ← (record "full_hash").required? Digest.ofDocument?
    imports := ← (record "imports").required?
      (asList? (asPair? ModuleName.ofDocument? Digest.ofDocument?))
    options := ← (record "options").required? Options.ofDocument?
    baseOptions := ← (record "base_options").required? Digest.ofDocument?
    exports := ← (record "exports").required? Exports.ofDocument?
    warnings := ← (record "warnings").required? (asList? Diagnostic.ofDocument?)
    importWarning := ← (record "import_warning").optional? asText? }

end Interface

end ModuleLoader
