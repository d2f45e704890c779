import ModuleLoader.Document
import ModuleLoader.Options

/-!
# Options as documents

A set of flags is written as a table with a truth value under the name of every flag. When it is
read back, flags that are not mentioned are off.
-/

namespace ModuleLoader

namespace Options

/-- A truth value for each flag of a record; flags that it does not mention are off. -/
def ofRecord? (record : Document.Record) : Option Options := do
  let bools ← Flag.all.mapM fun f => (record f.name).withDefault? false Document.asBool?
  return ofBools bools

/-- The options that a document spells. -/
def ofDocument? (document : Document) : Option Options := do
  ofRecord? (← document.record? (Flag.all.map Flag.name))

/-- Options written as a document. -/
def toDocument (o : Options) : Document := .table (Flag.all.map fun f => (f.name, .bool (o.get f)))

end Options

end ModuleLoader
