import ModuleLoader.Toml.Number
import ModuleLoader.Toml.Table

/-!
# TOML

A document is a sequence of lines: blank, a comment, the header of a table, or a key with a value.
It is read in two steps, first into the list of its sections – a header and the assignments under
it – and then section by section into one table, `Toml.read?`.

Values nest, and nesting is bounded: a value is read with the number of levels that may still be
entered below it.
-/

namespace ModuleLoader

namespace Toml

/-- A key with its value: the path to a table, the name in that table, and the value. -/
structure Assignment where
  /-- The tables on the way. -/
  path : List String
  /-- The name in the last of them. -/
  name : String
  /-- The value. -/
  value : Document

/-- The entries after one more assignment. -/
def Assignment.apply (a : Assignment) (entries : Entries) : Option Entries :=
  entries.assign a.path a.name a.value

/-! ## Values -/

/-- The members of a list; the opening bracket has been read. -/
def listItems (value : Parser Document) : Parser (List Document) := do
  let items ← repeatUntil [] fun acc => do
    filler
    if ← startsWith "]" then
      char ']'
      return (acc, true)
    let item ← value
    filler
    if ← startsWith "," then
      char ','
      return (item :: acc, false)
    else
      char ']'
      return (item :: acc, true)
  return items.reverse

/-- A key, an equals sign and a value. -/
def assignment (value : Parser Document) : Parser Assignment := do
  let (path, name) ← key
  char '='
  blanks
  return { path, name, value := ← value }

/-- The assignments of an inline table; the opening brace has been read. -/
def inlineAssignments (value : Parser Document) : Parser (List Assignment) := do
  blanks
  if ← startsWith "\x7d" then
    discard next
    return []
  let assignments ← repeatUntil [] fun acc => do
    let a ← assignment value
    blanks
    if ← startsWith "," then
      char ','
      return (a :: acc, false)
    else
      literal "\x7d"
      return (a :: acc, true)
  return assignments.reverse

/-- The table that assignments make. -/
def inlineTable (assignments : List Assignment) : Parser Document :=
  match assignments.foldlM (fun entries a => a.apply entries) [] with
  | some entries => return .table (entriesToDocuments entries)
  | none => fail

/-- A value, given how to read the values inside it, if there may be any. -/
def valueAbove (inside : Option (Parser Document)) : Parser Document := do
  match ← peek, inside with
  | '"' :: _, _ | '\'' :: _, _ => return .text (← text)
  | 't' :: _, _ => literal "true" *> return .bool true
  | 'f' :: _, _ => literal "false" *> return .bool false
  | 'i' :: _, _ | 'n' :: _, _ => number
  | '[' :: _, some item =>
    discard next
    return .list (← listItems item)
  | '\x7b' :: _, some item =>
    discard next
    inlineTable (← inlineAssignments item)
  | c :: _, _ => if isDigit c || c == '+' || c == '-' then numberOrMoment else fail
  | [], _ => fail

/-- A value with at most `depth` levels below it. -/
def value : (depth : Nat) → Parser Document
  | 0 => valueAbove none
  | depth + 1 => valueAbove (some (value depth))

/-- A value as deep as values may be. -/
def anyValue : Parser Document := value (depthLimit - 1)

/-! ## Sections -/

/-- Where the assignments of a section go. -/
inductive Target where
  /-- To the whole document. -/
  | root
  /-- To a table of their own. -/
  | table (path : List String) (name : String)
  /-- To one more table of a list. -/
  | member (path : List String) (name : String)

/-- A header and the assignments under it. -/
structure Section where
  /-- What the header names. -/
  target : Target
  /-- The assignments, last one first. -/
  reversed : List Assignment

/-- The header of a table or of a member of a list of tables. -/
def header : Parser Target := do
  if ← startsWith "[[" then
    literal "[["
    let (path, name) ← key
    literal "]]"
    return .member path name
  else
    literal "["
    let (path, name) ← key
    literal "]"
    return .table path name

/-- The sections read so far, last one first, and the one being read. -/
abbrev Reading := List Section × Section

/-- One line of a document, or its end. -/
def line (r : Reading) : Parser (Reading × Bool) := do
  blanks
  match ← peek with
  | [] => return (r, true)
  | '#' :: _ =>
    restOfLine
    return (r, false)
  | '\n' :: _ | '\r' :: _ =>
    lineEnd
    return (r, false)
  | '[' :: _ =>
    let target ← header
    restOfLine
    return ((r.2 :: r.1, ⟨target, []⟩), false)
  | _ =>
    let a ← assignment anyValue
    restOfLine
    return ((r.1, { r.2 with reversed := a :: r.2.reversed }), false)

/-- The sections of a document in order. -/
def sections : Parser (List Section) := do
  if ← startsWith "\uFEFF" then discard next
  let (before, last) ← repeatUntil ([], ⟨.root, []⟩) line
  return (last :: before).reverse

/-- The entries of a document after one more section. -/
def Section.apply (s : Section) (entries : Entries) : Option Entries :=
  let fill (inner : Entries) : Option Entries :=
    s.reversed.reverse.foldlM (fun inner a => a.apply inner) inner
  match s.target with
  | .root => fill entries
  | .table path name => entries.atHeader (fun inner => inner.openTable name fill) path
  | .member path name => entries.atHeader (fun inner => inner.addTable name fill) path

/-- **The table that a TOML document spells**, if it is one. A byte order mark may come first. -/
def read? (source : String) : Option Document := do
  let (parts, _) ← sections source.toList
  let entries ← parts.foldlM (fun entries s => s.apply entries) []
  return .table (entriesToDocuments entries)

end Toml

end ModuleLoader
