/-!
# Documents

The tree of values that a data format such as TOML or JSON spells: numbers, texts, truth values,
lists and tables. What a loader never asks about is not kept – neither the digits of a number that
is not an integer nor the parts of a date.

Values of a particular shape are read off a document by partial functions. A record is read either
from a table, by the names of its fields, or from a list, in the order of its fields. The two
spellings differ in what a missing field means: a table may leave out a field that is optional,
while a list that ends early leaves out everything after it.
-/

namespace ModuleLoader

/-- **A document**: a value with all its parts. -/
inductive Document where
  /-- The absent value. -/
  | null
  /-- A truth value. -/
  | bool (value : Bool)
  /-- An integer. -/
  | integer (value : Int)
  /-- A number that is not written as an integer. -/
  | real
  /-- A text. -/
  | text (value : String)
  /-- A date, a time of day, or both. -/
  | moment
  /-- A list of values. -/
  | list (items : List Document)
  /-- Values under names. -/
  | table (entries : List (String × Document))

namespace Document

instance : Inhabited Document := ⟨null⟩

/-! ## Simple values -/

/-- The truth value that a document is. -/
def asBool? : Document → Option Bool
  | bool value => some value
  | _ => none

/-- The text that a document is. -/
def asText? : Document → Option String
  | text value => some value
  | _ => none

/-- The number below a bound that a document is. -/
def asNatBelow? (bound : Nat) : Document → Option Nat
  | integer value => if 0 ≤ value ∧ value < bound then some value.toNat else none
  | _ => none

/-- The list that a document is, each member read in the same way. -/
def asList? {α : Type} (read : Document → Option α) : Document → Option (List α)
  | list items => items.mapM read
  | _ => none

/-- The table that a document is, each value read in the same way. -/
def asEntries? {α : Type} (read : Document → Option α) : Document → Option (List (String × α))
  | table entries => entries.mapM fun e => (read e.2).map fun a => (e.1, a)
  | _ => none

/-- The value that a document is, the null document being none. -/
def asOption? {α : Type} (read : Document → Option α) : Document → Option (Option α)
  | null => some none
  | value => (read value).map some

/-- The pair that a list of two documents is. -/
def asPair? {α β : Type} (readFirst : Document → Option α) (readSecond : Document → Option β) :
    Document → Option (α × β)
  | list [first, second] => do return (← readFirst first, ← readSecond second)
  | _ => none

/-! ## Records -/

/-- What a record holds for one of its fields. -/
inductive Slot where
  /-- A value. -/
  | given (value : Document)
  /-- Nothing: the field's name does not occur. -/
  | unnamed
  /-- Nothing: the list of values ends before the field. -/
  | beyond

namespace Slot

/-- The value of a field that must be there. -/
def required? {α : Type} (read : Document → Option α) : Slot → Option α
  | given value => read value
  | _ => none

/-- The value of a field that stands for a fixed value when it is missing. -/
def withDefault? {α : Type} (default : α) (read : Document → Option α) : Slot → Option α
  | given value => read value
  | _ => some default

/-- The value of a field that may be left out by name, or be null. -/
def optional? {α : Type} (read : Document → Option α) : Slot → Option (Option α)
  | given value => value.asOption? read
  | unnamed => some none
  | beyond => none

end Slot

/-- A record: what it holds for each field name. -/
abbrev Record := String → Slot

/-- The record whose fields are given by name. -/
def namedRecord (entries : List (String × Document)) : Record := fun field =>
  match entries.lookup field with
  | some value => .given value
  | none => .unnamed

/-- The record whose fields are given in order. -/
def orderedRecord (names : List String) (items : List Document) : Record := fun field =>
  match (names.zip items).lookup field with
  | some value => .given value
  | none => .beyond

/-- A record with the given fields from a table or from a list that has no more values than there
are fields. Names that belong to no field do not matter. -/
def record? (names : List String) : Document → Option Record
  | table entries => some (namedRecord entries)
  | list items => if items.length ≤ names.length then some (orderedRecord names items) else none
  | _ => none

end Document

end ModuleLoader
