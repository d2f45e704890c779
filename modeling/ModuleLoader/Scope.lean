import ModuleLoader.LoadError

/-!
# Imported scope

What a module sees of its imports is a sequence of contributions: the interfaces merged so far, in
the order in which they were merged. Each table of the scope is a function of that sequence. Of two
contributions that bind one key, the later one counts; display forms are collected, each once; and
no two contributions may bind a builtin differently, so merging checks for that.

A module contributes at most once. Merging it again changes nothing, and forgetting it leaves what
the other contributions make of the scope.
-/

namespace ModuleLoader

/-- **What has been imported so far.** -/
structure ImportedScope where
  /-- The merged interfaces, first one first. -/
  contributions : List Interface
  deriving DecidableEq

namespace ImportedScope

/-- Nothing imported. -/
def empty : ImportedScope := ⟨[]⟩

instance : EmptyCollection ImportedScope := ⟨empty⟩

instance : Inhabited ImportedScope := ⟨empty⟩

/-! ## Tables -/

/-- The union of a table over all contributions; later ones override earlier ones. -/
def unionOf {α : Type} (s : ImportedScope) (table : Exports → OrderedMap α) : OrderedMap α :=
  s.contributions.foldl (fun m i => m.union (table i.exports)) ∅

/-- The names of the merged modules. -/
def modules (s : ImportedScope) : NameSet :=
  s.contributions.foldl (fun set i => NameSet.insert set i.name.text) ∅

/-- The names in scope. -/
def names (s : ImportedScope) : NameSet := s.unionOf Exports.scope

/-- The type of each definition. -/
def signature (s : ImportedScope) : OrderedMap String := s.unionOf Exports.signature

/-- The definition each builtin is bound to. -/
def builtins (s : ImportedScope) : OrderedMap String := s.unionOf Exports.builtins

/-- Pattern synonyms. -/
def patternSynonyms (s : ImportedScope) : OrderedMap String := s.unionOf Exports.patternSynonyms

/-- Warnings that users attached to names. -/
def userWarnings (s : ImportedScope) : OrderedMap String := s.unionOf Exports.userWarnings

/-- The definitions marked as partial. -/
def partialDefinitions (s : ImportedScope) : NameSet := s.unionOf Exports.partialDefinitions

/-- A list with those members of another one appended that it does not hold yet. -/
def appendNew (forms more : List String) : List String :=
  more.foldl (fun forms form => if forms.contains form then forms else forms ++ [form]) forms

/-- Display forms with those of one more table. -/
def addForms (forms more : OrderedMap (List String)) : OrderedMap (List String) :=
  more.entries.foldl
    (fun forms e => forms.insert e.1 (appendNew ((forms.get? e.1).getD []) e.2)) forms

/-- The display forms of each name. -/
def displayForms (s : ImportedScope) : OrderedMap (List String) :=
  s.contributions.foldl (fun forms i => addForms forms i.exports.displayForms) ∅

/-- The warnings of all contributions. -/
def warnings (s : ImportedScope) : List Diagnostic := s.contributions.flatMap Interface.warnings

/-! ## Merging and forgetting -/

/-- Whether a module has been merged. -/
def contains (s : ImportedScope) (module : ModuleName) : Bool :=
  s.contributions.any fun i => i.name == module

/-- The contribution of a module. -/
def contribution? (s : ImportedScope) (module : ModuleName) : Option Interface :=
  s.contributions.find? fun i => i.name == module

/-- The first builtin of an interface that is bound to something else already, with both
bindings. -/
def conflict? (s : ImportedScope) (i : Interface) : Option (String × String × String) :=
  let bound := s.builtins
  i.exports.builtins.entries.findSome? fun e =>
    match bound.get? e.1 with
    | some existing => if existing = e.2 then none else some (e.1, existing, e.2)
    | none => none

/-- **Merges an interface.** A module that has been merged is left as it is, and a builtin that is
bound otherwise is an error. -/
def merge (s : ImportedScope) (i : Interface) : Except LoadError ImportedScope :=
  if s.contains i.name then .ok s
  else match s.conflict? i with
    | some (builtin, existing, conflicting) =>
      .error (.duplicateBuiltinBinding builtin existing conflicting i.name)
    | none => .ok ⟨s.contributions ++ [i]⟩

/-- Merging a module once more changes nothing. -/
theorem merge_of_contains {s : ImportedScope} {i : Interface} (h : s.contains i.name = true) :
    s.merge i = .ok s := by
  unfold merge
  rw [if_pos h]

/-- A module that is not merged yet goes to the end, unless one of its builtins is in the way. -/
theorem merge_of_not_contains {s : ImportedScope} {i : Interface}
    (h : ¬ s.contains i.name = true) (hfree : s.conflict? i = none) :
    s.merge i = .ok ⟨s.contributions ++ [i]⟩ := by
  unfold merge
  rw [if_neg h, hfree]

/-- **Forgets a module**, keeping the other contributions. -/
def forget (s : ImportedScope) (module : ModuleName) : ImportedScope :=
  ⟨s.contributions.filter fun i => i.name ≠ module⟩

/-- What is forgotten is no longer merged. -/
@[simp] theorem contains_forget_self (s : ImportedScope) (module : ModuleName) :
    (s.forget module).contains module = false := by
  unfold contains
  rw [List.any_eq_false]
  intro i hi
  have hne : i.name ≠ module := by simpa using (List.mem_filter.1 hi).2
  simpa using hne

end ImportedScope

end ModuleLoader
