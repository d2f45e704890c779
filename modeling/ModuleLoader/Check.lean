import ModuleLoader.Compatibility
import ModuleLoader.Scope
import ModuleLoader.Source
import ModuleLoader.Visited

/-!
# Checking a module

The loader does not know the language it loads. It hands a source file to a *checker*, and the
checker talks back: it asks for imports, switches options, reports warnings, perhaps reads or
changes a file, and in the end either rejects the module or says what the module exports.

A check is therefore a tree of requests. What it asks next may depend on every answer so far, but
each way through the tree ends. Whoever runs the check decides what the answers are – nothing else
goes in or comes out, so a checker is a function of the module, its source and the mode, and its
result depends only on these and on the answers.
-/

namespace ModuleLoader

/-- How thoroughly a module is checked. -/
inductive CheckMode where
  /-- Names are resolved and nothing more. -/
  | scopeOnly
  /-- Everything is checked; private declarations may be kept in the result. -/
  | typeCheck (retainPrivate : Bool)
  deriving DecidableEq, Repr

namespace CheckMode

/-- The mode in which modules are checked for one another. -/
def batch : CheckMode := typeCheck false

/-- Whether a result may be put on disk and settle its module. -/
def persists (mode : CheckMode) : Bool := mode == batch

/-- One mode persists and no other. -/
theorem persists_iff {mode : CheckMode} : mode.persists = true ↔ mode = batch := beq_iff_eq

/-- Whether private declarations are kept in the result. -/
def retainsPrivate : CheckMode → Bool
  | typeCheck retainPrivate => retainPrivate
  | scopeOnly => false

/-- One word for a mode. -/
def name : CheckMode → String
  | scopeOnly => "scope"
  | typeCheck true => "private"
  | typeCheck false => "batch"

instance : ToString CheckMode := ⟨name⟩

end CheckMode

/-- What a checker says about a module that it accepts. -/
structure CheckedModule where
  /-- The module that the source declares. -/
  name : ModuleName
  /-- What the module exports. -/
  exports : Exports
  /-- A message for every importer. -/
  importWarning : Option String
  deriving DecidableEq

/-! ## What a check has come to -/

/-- **The context of a check**: all that its requests have changed so far. -/
structure CheckContext where
  /-- The options of the module. -/
  options : Options
  /-- What has been imported. -/
  scope : ImportedScope
  /-- The imports in the order in which they were first asked for, each with its full digest. -/
  imports : List (ModuleName × Digest)
  /-- The warnings reported so far. -/
  warnings : List Diagnostic
  deriving DecidableEq

namespace CheckContext

/-- The context in which a check starts. -/
def start (options : Options) (scope : ImportedScope) : CheckContext := ⟨options, scope, [], []⟩

/-- The warnings that an importer gets for an import: those about its options, and then the message
that the import has for all its importers. -/
def importWarnings (compatibility : Compatibility) (importer : Options) (imported : ModuleName)
    (entry : VisitedEntry) : List Diagnostic :=
  compatibility.check importer entry.interface entry.isPrimitive ++
    (entry.interface.importWarning.map (Diagnostic.ofImportWarning imported)).toList

/-- A list of imports that holds a module: if it does not yet, the module goes to the end. -/
def listImport (imports : List (ModuleName × Digest)) (imported : ModuleName) (hash : Digest) :
    List (ModuleName × Digest) :=
  if imports.any fun e => e.1 == imported then imports else imports ++ [(imported, hash)]

/-- **The context after an import**: the interface is merged, the import is listed, and its warnings
are reported, however often it has been imported before. -/
def addImport (context : CheckContext) (compatibility : Compatibility) (imported : ModuleName)
    (entry : VisitedEntry) : Except LoadError CheckContext := do
  return {
    options := context.options
    scope := ← context.scope.merge entry.interface
    imports := listImport context.imports imported entry.interface.fullHash
    warnings := context.warnings ++
      importWarnings compatibility context.options imported entry }

end CheckContext

/-! ## Requests -/

/-- What a check may ask for. -/
inductive Request where
  /-- To import a module. -/
  | resolve (imported : ModuleName)
  /-- To see the context. -/
  | context
  /-- To check under other options from now on. -/
  | setOptions (options : Options)
  /-- To report a warning. -/
  | warn (warning : Diagnostic)
  /-- To read a file. -/
  | read (path : Path)
  /-- To change the disk. -/
  | edit (change : Disk → Except DiskFault Disk)
  /-- To leave a note in the journal. -/
  | note (text : String)

/-- What answers a request. -/
def Request.Answer : Request → Type
  | resolve _ => Except LoadError Interface
  | context => CheckContext
  | setOptions _ => Unit
  | warn _ => Unit
  | read _ => Except DiskFault Bytes
  | edit _ => Except DiskFault Unit
  | note _ => Unit

/-- **A check in progress**, with a result of some type. -/
inductive Check (α : Type) where
  /-- It has ended with a result. -/
  | done (result : α)
  /-- It has ended with an error. -/
  | fail (error : LoadError)
  /-- It waits for the answer to a request. -/
  | ask (request : Request) (next : request.Answer → Check α)

namespace Check

/-- One check after another. -/
def bind {α β : Type} (check : Check α) (rest : α → Check β) : Check β :=
  match check with
  | done result => rest result
  | fail error => fail error
  | ask request next => ask request fun answer => (next answer).bind rest

instance : Monad Check where
  pure := done
  bind := bind

/-- The check that asks for one thing and ends with the answer. -/
def request (r : Request) : Check r.Answer := ask r done

end Check

/-- **A checker.** -/
abbrev Checker := ModuleName → SourceFile → CheckMode → Check CheckedModule

end ModuleLoader
