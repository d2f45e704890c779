import ModuleLoader.Interface
import ModuleLoader.Wire

/-!
# Encoded interfaces

The bytes of an interface are the bytes of its fields in the order in which they are declared.
A map is the list of its entries and a set the list of its members, in order; when they are read
back, order and repetitions do not matter, and of two values for one key the later one counts.

A byte string decodes only if the fields use it up.
-/

namespace ModuleLoader

open Wire

/-- A module name is its text. -/
def ModuleName.write (m : ModuleName) : Bytes := writeText m.text

@[inherit_doc ModuleName.write]
def ModuleName.read : Reader ModuleName := return ⟨← readText⟩

/-- A map is the list of its entries. -/
def OrderedMap.write {α : Type} (writeValue : α → Bytes) (m : OrderedMap α) : Bytes :=
  writeList (writePair writeText writeValue) m.entries

@[inherit_doc OrderedMap.write]
def OrderedMap.read {α : Type} (readValue : Reader α) : Reader (OrderedMap α) :=
  return OrderedMap.ofList (← readList (readPair readText readValue))

/-- A set is the list of its members. -/
def NameSet.write (s : NameSet) : Bytes := writeList writeText s.toList

@[inherit_doc NameSet.write]
def NameSet.read : Reader NameSet := return NameSet.ofList (← readList readText)

/-- Whether the lengths in a map are such as a binary form can hold. -/
def OrderedMap.fits {α : Type} (valueFits : α → Bool) (m : OrderedMap α) : Bool :=
  listFits (fun e => textFits e.1 && valueFits e.2) m.entries

@[inherit_doc OrderedMap.fits]
def NameSet.fits (s : NameSet) : Bool := listFits textFits s.toList

/-- Options are one truth value per flag. -/
def Options.write (o : Options) : Bytes := o.toBools.flatMap writeBool

@[inherit_doc Options.write]
def Options.read : Reader Options := return Options.ofBools (← readMany readBool Flag.all.length)

/-- A warning is its code, its message, its module and its notes. -/
def Diagnostic.write (d : Diagnostic) : Bytes :=
  writeUInt16 d.code.number ++ writeText d.message ++ writeOption ModuleName.write d.module ++
    writeList writeText d.notes

@[inherit_doc Diagnostic.write]
def Diagnostic.read : Reader Diagnostic := do
  let code ← readUInt16
  let message ← readText
  let module ← readOption ModuleName.read
  let notes ← readList readText
  return { code := ⟨code⟩, message, module, notes }

/-- Whether the lengths in a warning are such as a binary form can hold. -/
def Diagnostic.fits (d : Diagnostic) : Bool :=
  textFits d.message && optionFits (fun m => textFits m.text) d.module && listFits textFits d.notes

/-- Exports are their seven tables. -/
def Exports.write (e : Exports) : Bytes :=
  NameSet.write e.scope ++ OrderedMap.write writeText e.signature ++
    OrderedMap.write writeText e.builtins ++ OrderedMap.write writeText e.patternSynonyms ++
    OrderedMap.write (writeList writeText) e.displayForms ++
    OrderedMap.write writeText e.userWarnings ++ NameSet.write e.partialDefinitions

@[inherit_doc Exports.write]
def Exports.read : Reader Exports := do
  let scope ← NameSet.read
  let signature ← OrderedMap.read readText
  let builtins ← OrderedMap.read readText
  let patternSynonyms ← OrderedMap.read readText
  let displayForms ← OrderedMap.read (readList readText)
  let userWarnings ← OrderedMap.read readText
  let partialDefinitions ← NameSet.read
  return {
    scope, signature, builtins, patternSynonyms, displayForms, userWarnings, partialDefinitions }

/-- Whether the lengths in exports are such as a binary form can hold. -/
def Exports.fits (e : Exports) : Bool :=
  NameSet.fits e.scope && OrderedMap.fits textFits e.signature &&
    OrderedMap.fits textFits e.builtins && OrderedMap.fits textFits e.patternSynonyms &&
    OrderedMap.fits (listFits textFits) e.displayForms && OrderedMap.fits textFits e.userWarnings &&
    NameSet.fits e.partialDefinitions

namespace Interface

/-- **The bytes of an interface.** -/
def encode (i : Interface) : Bytes :=
  ModuleName.write i.name ++ writeDigest i.sourceHash ++ writeDigest i.fullHash ++
    writeList (writePair ModuleName.write writeDigest) i.imports ++ Options.write i.options ++
    writeDigest i.baseOptions ++ Exports.write i.exports ++ writeList Diagnostic.write i.warnings ++
    writeOption writeText i.importWarning

/-- The interface at the front of a byte string. -/
def read : Reader Interface := do
  let name ← ModuleName.read
  let sourceHash ← readDigest
  let fullHash ← readDigest
  let imports ← readList (readPair ModuleName.read readDigest)
  let options ← Options.read
  let baseOptions ← readDigest
  let exports ← Exports.read
  let warnings ← readList Diagnostic.read
  let importWarning ← readOption readText
  return {
    name, sourceHash, fullHash, imports, options, baseOptions, exports, warnings, importWarning }

/-- **The interface that a byte string encodes**, if nothing is left over. -/
def decode? (bytes : Bytes) : Option Interface := readAll read bytes

/-- **Whether an interface has a binary form**: every length in it is a number of eight bytes. -/
def fits (i : Interface) : Bool :=
  textFits i.name.text && listFits (fun e => textFits e.1.text) i.imports && i.exports.fits &&
    listFits Diagnostic.fits i.warnings && optionFits textFits i.importWarning

end Interface

end ModuleLoader
