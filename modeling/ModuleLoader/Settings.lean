import ModuleLoader.Options.Document
import ModuleLoader.ModuleName
import ModuleLoader.Disk
import ModuleLoader.Toml

/-!
# Settings of a project

A project is configured by a file `lemma.toml` in its directory. Every section and every key may be
left out and then has a default. A section may also be written as a list of its values in order; a
list that is too long is not a fault, and neither is a key that nobody asks for.

Settings that parse are then checked for values that no session could run with. The include roots
of a project are the configured directories relative to the project's own, each place once.
-/

namespace ModuleLoader

-- Powers are the ones that come with the numbers, whatever algebra is imported elsewhere.
attribute [local instance (high)] instPowNat

namespace Settings

/-- What belongs to the project itself. -/
structure Project where
  /-- The name of the project. -/
  name : String := ""
  /-- The directories in which sources are searched for. -/
  includes : List String := ["."]
  deriving DecidableEq

/-- How interfaces are kept. -/
structure Build where
  /-- The directory below each include root that holds interfaces. -/
  interfaceDir : String := "_build"
  /-- Whether interfaces are written at all. -/
  writeInterfaces : Bool := true
  /-- How often the rebuild of an import is repeated when its result does not validate. -/
  maxIsolatedRetries : UInt32 := 3
  deriving DecidableEq

/-- Which checks span modules. -/
structure Checks where
  /-- Whether the options of an import are compared with those of its importer. -/
  optionConsistency : Bool := true
  deriving DecidableEq

/-- Which modules are built in. -/
structure Primitives where
  /-- The names under which built-in modules lie. -/
  modules : List String := ["Lemma.Primitive"]
  deriving DecidableEq

end Settings

/-- **The settings of a session.** -/
structure Settings where
  /-- The project. -/
  project : Settings.Project := {}
  /-- Keeping interfaces. -/
  build : Settings.Build := {}
  /-- Checks across modules. -/
  checks : Settings.Checks := {}
  /-- Built-in modules. -/
  primitives : Settings.Primitives := {}
  /-- The options that every module starts from. -/
  options : Options := .none
  deriving DecidableEq

/-- Why settings could not be loaded. -/
inductive SettingsError where
  /-- The file could not be read. -/
  | unreadable (path : Path) (fault : DiskFault)
  /-- The file is not TOML, or a value has the wrong type. -/
  | malformed
  /-- A key holds a value that no session can run with. -/
  | invalid (key reason : String)
  deriving DecidableEq

namespace Settings

/-- Whether a module is built in. Built-in modules are exempt from the comparison of options and
may be imported although they have warnings. -/
def isPrimitive (s : Settings) (module : ModuleName) : Bool :=
  s.primitives.modules.any module.hasPrefix

/-! ## Reading -/

/-- The record that a section is. A date counts as a table with no known key, and values beyond the
last field are dropped. -/
def sectionRecord? (names : List String) : Document → Option Document.Record
  | .list items => (Document.list (items.take names.length)).record? names
  | .moment => (Document.table []).record? names
  | document => document.record? names

/-- One text or a list of texts. -/
def asTexts? : Document → Option (List String)
  | .text value => some [value]
  | document => document.asList? Document.asText?

/-- The project section. -/
def readProject? (document : Document) : Option Project := do
  let record ← sectionRecord? ["name", "include"] document
  let standard : Project := {}
  return {
    name := ← (record "name").withDefault? standard.name Document.asText?
    includes := ← (record "include").withDefault? standard.includes asTexts? }

/-- The build section. -/
def readBuild? (document : Document) : Option Build := do
  let record ← sectionRecord? ["interface-dir", "write-interfaces", "max-isolated-retries"] document
  let standard : Build := {}
  let retries ← (record "max-isolated-retries").withDefault? standard.maxIsolatedRetries.toNat
    (Document.asNatBelow? (2 ^ (32 : Nat)))
  return {
    interfaceDir := ← (record "interface-dir").withDefault? standard.interfaceDir Document.asText?
    writeInterfaces :=
      ← (record "write-interfaces").withDefault? standard.writeInterfaces Document.asBool?
    maxIsolatedRetries := UInt32.ofNat retries }

/-- The checks section. -/
def readChecks? (document : Document) : Option Checks := do
  let record ← sectionRecord? ["option-consistency"] document
  let standard : Checks := {}
  return {
    optionConsistency :=
      ← (record "option-consistency").withDefault? standard.optionConsistency Document.asBool? }

/-- The primitives section. -/
def readPrimitives? (document : Document) : Option Primitives := do
  let record ← sectionRecord? ["modules"] document
  let standard : Primitives := {}
  return {
    modules := ← (record "modules").withDefault? standard.modules
      (Document.asList? Document.asText?) }

/-- The options section. -/
def readOptions? (document : Document) : Option Options := do
  Options.ofRecord? (← sectionRecord? (Flag.all.map Flag.name) document)

/-- The settings that a document spells. -/
def read? (document : Document) : Option Settings := do
  let names := ["project", "build", "checks", "primitives", "options"]
  let record ← sectionRecord? names document
  return {
    project := ← (record "project").withDefault? {} readProject?
    build := ← (record "build").withDefault? {} readBuild?
    checks := ← (record "checks").withDefault? {} readChecks?
    primitives := ← (record "primitives").withDefault? {} readPrimitives?
    options := ← (record "options").withDefault? .none readOptions? }

/-! ## Loading -/

/-- The most repetitions that may be asked for. -/
def retryLimit : Nat := 16

/-- The first thing that makes settings unusable. -/
def flaw? (s : Settings) : Option SettingsError :=
  if s.project.includes.contains "" then
    some (.invalid "project.include" "contains an empty path")
  else if s.build.interfaceDir.isEmpty then
    some (.invalid "build.interface-dir" "must not be empty")
  else if s.build.maxIsolatedRetries.toNat > retryLimit then
    some (.invalid "build.max-isolated-retries"
      s!"must be at most {retryLimit}, got {s.build.maxIsolatedRetries.toNat}")
  else none

/-- The settings that a text spells, if a session can run with them. -/
def ofToml (source : String) : Except SettingsError Settings :=
  match (Toml.read? source).bind read? with
  | none => .error .malformed
  | some settings =>
    match settings.flaw? with
    | some flaw => .error flaw
    | none => .ok settings

/-- The name of the file with the settings of a project. -/
def fileName : Path := ⟨"lemma.toml"⟩

/-- The settings of the project in a directory. -/
def load (directory : Path) (disk : Disk) : Except SettingsError Settings :=
  let path := directory.join fileName
  match disk.readText path with
  | .ok source => ofToml source
  | .error fault => .error (.unreadable path fault)

/-! ## Include roots -/

/-- A list of paths without those that spell an earlier one once more. -/
def distinctPaths (paths : List Path) : List Path :=
  paths.foldl (fun kept p => if kept.any fun q => decide (q.Same p) then kept else kept ++ [p]) []

/-- The directory that an entry of the include list means. -/
def includeRoot (directory : Path) (entry : String) : Path :=
  if entry = "." then directory else directory.join ⟨entry⟩

/-- **The include roots** of the project in a directory, in order and each place once. -/
def includeRoots (s : Settings) (directory : Path) : List Path :=
  distinctPaths (s.project.includes.map (includeRoot directory))

end Settings

namespace SettingsError

/-- The message for an error, given how faults of the disk and of TOML are worded. -/
def message (disk : DiskFault → String) (toml : String) : SettingsError → String
  | unreadable path fault => s!"cannot read {path}: {disk fault}"
  | malformed => s!"malformed lemma.toml: {toml}"
  | invalid key reason => s!"invalid `{key}` in lemma.toml: {reason}"

end SettingsError

end ModuleLoader
