import ModuleLoader.Document

/-!
# Tables under construction

A TOML document is a sequence of statements that fill in one table. Whether a statement is allowed
depends on how the tables on its way came to be, so while the document is being read every table
carries its origin: opened by a header of its own, only implied by the header of a table below it,
or made by a dotted key. Each table is opened at most once, a dotted key never extends a table that
a header opened, and a finished value is never extended.

A list of tables is made of headers with double brackets; later headers go on in its last table. A
dotted key may lead through that last table too, but on to a table of its own.
-/

namespace ModuleLoader

namespace Toml

/-- How a table came to be. -/
inductive Origin where
  /-- Opened by a header of its own. -/
  | header
  /-- Implied by the header of a table below it. -/
  | implied
  /-- Made by a dotted key. -/
  | dotted
  deriving DecidableEq

/-- What a table under construction holds under a name. -/
inductive Node where
  /-- A finished value. -/
  | value (document : Document)
  /-- A table. -/
  | table (origin : Origin) (entries : List (String × Node))
  /-- A list of tables, the last one first. -/
  | tables (reversed : List (List (String × Node)))

/-- The entries of a table under construction. -/
abbrev Entries := List (String × Node)

namespace Entries

/-- The entries with a name set to a node; a name that is there already keeps its place. -/
def set (name : String) (node : Node) : Entries → Entries
  | [] => [(name, node)]
  | (k, n) :: rest => if k = name then (k, node) :: rest else (k, n) :: set name node rest

/-- Changes the table that a dotted key leads to. Tables on the way are made as needed; those that
are there must not have been opened by a header, and the one at the end must be the work of dotted
keys. A list of tables is entered at its last table, which cannot be the end of the way. -/
def atDotted (change : Entries → Option Entries) : List String → Entries → Option Entries
  | [], entries => change entries
  | name :: path, entries =>
    match entries.lookup name with
    | none => do
      let inner ← atDotted change path []
      return set name (.table .dotted inner) entries
    | some (.table origin inner) =>
      if origin = .header ∨ (path.isEmpty ∧ origin ≠ .dotted) then none
      else do
        let inner ← atDotted change path inner
        return set name (.table origin inner) entries
    | some (.tables (last :: before)) =>
      if path.isEmpty then none
      else do
        let last ← atDotted change path last
        return set name (.tables (last :: before)) entries
    | some _ => none

/-- The entries with a dotted key set to a value, which must not be there yet. -/
def assign (path : List String) (name : String) (value : Document) (entries : Entries) :
    Option Entries :=
  atDotted
    (fun inner => if (inner.lookup name).isSome then none else some (set name (.value value) inner))
    path entries

/-- Changes the table that the header of a table leads to. Tables on the way are implied as needed,
and a list of tables is entered at its last table. -/
def atHeader (change : Entries → Option Entries) : List String → Entries → Option Entries
  | [], entries => change entries
  | name :: path, entries =>
    match entries.lookup name with
    | none => do
      let inner ← atHeader change path []
      return set name (.table .implied inner) entries
    | some (.table origin inner) => do
      let inner ← atHeader change path inner
      return set name (.table origin inner) entries
    | some (.tables (last :: before)) => do
      let last ← atHeader change path last
      return set name (.tables (last :: before)) entries
    | some _ => none

/-- Opens a table and fills it: it must be new, or only implied so far. -/
def openTable (name : String) (fill : Entries → Option Entries) (entries : Entries) :
    Option Entries :=
  match entries.lookup name with
  | none => do return set name (.table .header (← fill [])) entries
  | some (.table .implied inner) => do return set name (.table .header (← fill inner)) entries
  | some _ => none

/-- Adds a table to a list of tables and fills it. -/
def addTable (name : String) (fill : Entries → Option Entries) (entries : Entries) :
    Option Entries :=
  match entries.lookup name with
  | none => do return set name (.tables [← fill []]) entries
  | some (.tables reversed) => do return set name (.tables ((← fill []) :: reversed)) entries
  | some _ => none

end Entries

mutual

/-- The finished value of a node. -/
def Node.toDocument : Node → Document
  | .value document => document
  | .table _ entries => .table (entriesToDocuments entries)
  | .tables reversed => .list (tablesToDocuments reversed).reverse

/-- The finished values of entries. -/
def entriesToDocuments : List (String × Node) → List (String × Document)
  | [] => []
  | (name, node) :: rest => (name, node.toDocument) :: entriesToDocuments rest

/-- The finished tables of a list. -/
def tablesToDocuments : List (List (String × Node)) → List Document
  | [] => []
  | entries :: rest => .table (entriesToDocuments entries) :: tablesToDocuments rest

end

end Toml

end ModuleLoader
