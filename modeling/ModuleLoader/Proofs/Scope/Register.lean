import ModuleLoader.Proofs.Scope.Sequence
import ModuleLoader.Proofs.Scope.Tables

/-!
# Scopes kept table by table

An `ImportedScope` is the sequence of its contributions, and each table is worked out from them when
it is looked at. So nothing has to be undone when a module is forgotten, and no two tables can tell
different stories: both are true by the way in which a scope is written down.

The loader itself keeps ten things side by side and changes them in place. Of five tables the last
contribution counts, sets of names only grow, display forms are appended unless they are there
already, and warnings are appended even so. To forget a module is to start again and take in what
the other modules had contributed, this time without a look at their builtins. A `Register` is a
scope that is kept in this way.

Whatever edits lead to it, a register shows what the scope after these edits shows
(`ImportedScope.register_after`), and merging into the two has the same outcome. So the register is
the merge of what is left of its contributions, and nothing of a module outlives it.
-/

namespace ModuleLoader

/-- **A scope kept table by table.** Nothing says that its tables belong to its contributions. -/
structure Register where
  /-- The names of the merged modules. -/
  merged : NameSet
  /-- The merged interfaces, first one first. -/
  contributions : List Interface
  /-- The names in scope. -/
  names : NameSet
  /-- The type of each definition. -/
  signature : OrderedMap String
  /-- The definition each builtin is bound to. -/
  builtins : OrderedMap String
  /-- Pattern synonyms. -/
  patternSynonyms : OrderedMap String
  /-- The display forms of each name. -/
  displayForms : OrderedMap (List String)
  /-- Warnings that users attached to names. -/
  userWarnings : OrderedMap String
  /-- The definitions marked as partial. -/
  partialDefinitions : NameSet
  /-- The warnings of all contributions. -/
  warnings : List Diagnostic
  deriving DecidableEq

namespace Register

/-- Nothing imported. -/
def empty : Register := ⟨∅, [], ∅, ∅, ∅, ∅, ∅, ∅, ∅, []⟩

/-- Takes an interface in, without a look at its builtins. -/
def absorb (r : Register) (i : Interface) : Register where
  merged := r.merged.insert i.name.text
  contributions := r.contributions ++ [i]
  names := r.names.union i.exports.scope
  signature := r.signature.union i.exports.signature
  builtins := r.builtins.union i.exports.builtins
  patternSynonyms := r.patternSynonyms.union i.exports.patternSynonyms
  displayForms := ImportedScope.addForms r.displayForms i.exports.displayForms
  userWarnings := r.userWarnings.union i.exports.userWarnings
  partialDefinitions := r.partialDefinitions.union i.exports.partialDefinitions
  warnings := r.warnings ++ i.warnings

/-- **What is done to a register**, which may fail halfway. -/
abbrev Update := ExceptT LoadError (StateM Register) Unit

/-- One update after another: the second one is done if the first has not failed. -/
theorem run_seq (first second : Update) (r : Register) :
    (first >>= fun _ => second).run.run r = match first.run.run r with
      | (.ok (), r') => second.run.run r'
      | (.error e, r') => (.error e, r') := by
  rw [ExceptT.run_bind, StateT.run_bind]
  generalize first.run.run r = outcome
  obtain ⟨_ | _, r'⟩ := outcome <;> rfl

/-- Fails if a builtin is bound otherwise already. -/
def compareBuiltin (module : ModuleName) (binding : String × String) : Update := do
  match (← get).builtins.get? binding.1 with
  | some existing =>
    if existing = binding.2 then return ()
    else throw (.duplicateBuiltinBinding binding.1 existing binding.2 module)
  | none => return ()

/-- **Merges an interface**: its builtins are compared one by one, and then it is taken in. -/
def merge (i : Interface) : Update := do
  if (← get).merged.contains i.name.text then return ()
  else
    i.exports.builtins.entries.forM (compareBuiltin i.name)
    modify (absorb · i)

/-- **Forgets a module**: all tables are made anew from the other contributions. -/
def forget (r : Register) (module : ModuleName) : Register :=
  if r.merged.contains module.text then
    (r.contributions.filter fun i => i.name ≠ module).foldl absorb empty
  else r

/-- The register after an edit, whether the edit fails or not. -/
def edit (r : Register) : ImportedScope.Edit → Register
  | .merge i => ((merge i).run.run r).2
  | .forget module => r.forget module

/-- **The register after some edits**, starting with nothing. -/
def after (edits : List ImportedScope.Edit) : Register := edits.foldl edit empty

end Register

namespace ImportedScope

/-- The register that shows what a scope shows. -/
def register (s : ImportedScope) : Register where
  merged := s.modules
  contributions := s.contributions
  names := s.names
  signature := s.signature
  builtins := s.builtins
  patternSynonyms := s.patternSynonyms
  displayForms := s.displayForms
  userWarnings := s.userWarnings
  partialDefinitions := s.partialDefinitions
  warnings := s.warnings

variable {s : ImportedScope} {i : Interface} {module : ModuleName}

/-- **One more contribution is one more interface taken in.** -/
theorem register_append (contributions : List Interface) (last : Interface) :
    register ⟨contributions ++ [last]⟩ = (register ⟨contributions⟩).absorb last := by
  have hunion : ∀ {α : Type} (table : Exports → OrderedMap α),
      unionOf ⟨contributions ++ [last]⟩ table
        = (unionOf ⟨contributions⟩ table).union (table last.exports) := fun _ => List.foldl_append
  simp [register, Register.absorb, modules, names, signature, builtins, patternSynonyms,
    userWarnings, partialDefinitions, warnings, hunion, displayForms_append]

/-- A register is what comes of taking the contributions in, one after another. -/
theorem foldl_absorb (contributions : List Interface) :
    contributions.foldl Register.absorb .empty = register ⟨contributions⟩ := by
  induction contributions using List.reverseRecOn with
  | nil => rfl
  | append_singleton init last ih => rw [List.foldl_append, ih, register_append]; rfl

/-- The merged modules of a register are those of the scope. -/
theorem contains_merged : s.register.merged.contains module.text = s.contains module := by
  rw [Bool.eq_iff_iff, contains_iff, List.mem_map]
  refine isSome_get?_modules.trans (exists_congr fun i => and_congr_right fun _ => ?_)
  exact ⟨congrArg ModuleName.mk, congrArg ModuleName.text⟩

/-- **A register forgets what the scope forgets.** -/
theorem forget_register : s.register.forget module = (s.forget module).register := by
  unfold Register.forget
  rw [contains_merged]
  split
  · exact foldl_absorb _
  · rename_i hnot
    rw [forget_of_not_contains hnot]

/-- Comparing one builtin changes nothing. -/
theorem run_compareBuiltin (s : ImportedScope) (module : ModuleName) (binding : String × String) :
    (Register.compareBuiltin module binding).run.run s.register
      = (match s.builtins.get? binding.1 with
        | some existing =>
          if existing = binding.2 then .ok ()
          else .error (.duplicateBuiltinBinding binding.1 existing binding.2 module)
        | none => .ok (), s.register) := by
  have hrun : (Register.compareBuiltin module binding).run.run s.register
      = (match s.builtins.get? binding.1 with
        | some existing =>
          if existing = binding.2 then return ()
          else throw (.duplicateBuiltinBinding binding.1 existing binding.2 module)
        | none => return () : Register.Update).run.run s.register := rfl
  rw [hrun]
  cases s.builtins.get? binding.1 with
  | none => rfl
  | some existing =>
    by_cases hsame : existing = binding.2
    · simp only [hsame, if_true]
      rfl
    · simp only [hsame, if_false]
      rfl

/-- **Comparing builtins fails on the first one that is in the way**, and changes nothing. -/
theorem run_compareBuiltins (s : ImportedScope) (i : Interface) :
    (i.exports.builtins.entries.forM (Register.compareBuiltin i.name)).run.run s.register
      = (match s.conflict? i with
        | some (builtin, existing, conflicting) =>
          .error (.duplicateBuiltinBinding builtin existing conflicting i.name)
        | none => .ok (), s.register) := by
  unfold conflict?
  generalize i.exports.builtins.entries = bindings
  induction bindings with
  | nil => rfl
  | cons binding rest ih =>
    show (Register.compareBuiltin i.name binding >>= fun _ =>
      rest.forM (Register.compareBuiltin i.name)).run.run _ = _
    rw [Register.run_seq, run_compareBuiltin, List.findSome?_cons]
    cases s.builtins.get? binding.1 with
    | none => exact ih
    | some existing =>
      by_cases hsame : existing = binding.2
      · simpa [hsame] using ih
      · simp [hsame]

/-- **A register is merged into as the scope is**, with the same outcome. A merge that fails leaves
it as it is. -/
theorem run_merge (s : ImportedScope) (i : Interface) :
    (Register.merge i).run.run s.register
      = ((s.merge i).map fun _ => (), ((s.merge i).toOption.getD s).register) := by
  have hrun : (Register.merge i).run.run s.register
      = (if s.register.merged.contains i.name.text then return ()
        else i.exports.builtins.entries.forM (Register.compareBuiltin i.name) >>= fun _ =>
          modify (Register.absorb · i) : Register.Update).run.run s.register := rfl
  rw [hrun, contains_merged]
  unfold ImportedScope.merge
  by_cases hcontains : s.contains i.name = true
  · rw [if_pos hcontains, if_pos hcontains]
    rfl
  · rw [if_neg hcontains, if_neg hcontains, Register.run_seq, run_compareBuiltins]
    cases s.conflict? i with
    | some conflict => rfl
    | none => exact Prod.ext rfl (register_append s.contributions i).symm

/-- Merging one interface after another, as long as that does not fail. -/
theorem run_forM_merge {interfaces : List Interface} {s' : ImportedScope}
    (h : interfaces.foldlM ImportedScope.merge s = .ok s') :
    (interfaces.forM Register.merge).run.run s.register = (.ok (), s'.register) := by
  induction interfaces generalizing s with
  | nil =>
    obtain rfl := Except.ok.inj h
    rfl
  | cons i rest ih =>
    obtain ⟨s₁, hmerge, h⟩ := ImportedScope.foldlM_merge_cons.1 h
    show (Register.merge i >>= fun _ => rest.forM Register.merge).run.run s.register = _
    rw [Register.run_seq, run_merge, hmerge]
    exact ih h

/-- An edit of a register is that edit of the scope. -/
theorem edit_register (s : ImportedScope) (e : Edit) :
    s.register.edit e = (s.edit e).register := by
  cases e with
  | merge i => exact congrArg Prod.snd (run_merge s i)
  | forget module => exact forget_register

/-- **The register after some edits shows what the scope after them shows.** -/
theorem register_after (edits : List Edit) : (after edits).register = Register.after edits := by
  induction edits using List.reverseRecOn with
  | nil => rfl
  | append_singleton init last ih =>
    unfold after Register.after at *
    rw [List.foldl_append, List.foldl_append, ← ih]
    exact (edit_register _ last).symm

end ImportedScope

/-! ## Registers that are the merge of their contributions -/

namespace Register

open ImportedScope

/-- **A register is exactly the merge of its contributions.** -/
structure IsMerge (r : Register) : Prop where
  /-- No module contributes twice. -/
  nodup : (r.contributions.map Interface.name).Nodup
  /-- The merged modules are those that contribute. -/
  merged : ∀ name, r.merged.contains name = true ↔ ∃ i ∈ r.contributions, i.name.text = name
  /-- Merged in their order, starting with nothing, the contributions lead to this register, and no
  step fails. -/
  rebuilt : (r.contributions.forM merge).run.run empty = (.ok (), r)
  /-- Every builtin that a contribution binds is bound so. -/
  builtins : ∀ i ∈ r.contributions, ∀ builtin bound,
    i.exports.builtins.get? builtin = some bound → r.builtins.get? builtin = some bound
  /-- No name has a display form twice. -/
  displayForms : ∀ name forms, r.displayForms.get? name = some forms → forms.Nodup

/-- **A register is merged into and forgets as it should.** -/
structure Lawful (r : Register) : Prop where
  /-- A merge fails just if the module has not been merged and binds a builtin otherwise. -/
  fails_iff : ∀ i, (∃ e, ((merge i).run.run r).1 = .error e) ↔
    ¬ r.merged.contains i.name.text = true ∧ ∃ builtin bound existing,
      i.exports.builtins.get? builtin = some bound ∧ r.builtins.get? builtin = some existing ∧
        existing ≠ bound
  /-- A merge that fails changes nothing. -/
  unchanged : ∀ i e, ((merge i).run.run r).1 = .error e → ((merge i).run.run r).2 = r
  /-- What is left of a register when a module is forgotten is the merge of what others contributed,
  and no step of that fails. -/
  forgotten : ∀ module, ((r.contributions.filter fun i => i.name ≠ module).forM merge).run.run empty
    = (.ok (), r.forget module)
  /-- To forget a module that has just been merged for the first time is to undo the merge. -/
  restored : ∀ i, ¬ r.merged.contains i.name.text = true → ((merge i).run.run r).1 = .ok () →
    ((merge i).run.run r).2.forget i.name = r

variable {s : ImportedScope}

/-- **What a well-merged scope shows is the merge of its contributions.** -/
theorem isMerge_register (hs : s.WellMerged) : s.register.IsMerge where
  nodup := hs.nodup
  merged _ := isSome_get?_modules
  rebuilt := run_forM_merge hs.foldlM_merge
  builtins _ hi _ _ hbound := hs.coherent.get?_builtins hi hbound
  displayForms _ _ hforms := nodup_displayForms hforms

/-- A builtin is in the way if it is bound otherwise. -/
theorem isSome_conflict?_iff {i : Interface} : (s.conflict? i).isSome ↔
    ∃ builtin bound existing, i.exports.builtins.get? builtin = some bound ∧
      s.builtins.get? builtin = some existing ∧ existing ≠ bound := by
  unfold conflict?
  rw [List.findSome?_isSome_iff]
  constructor
  · rintro ⟨⟨builtin, bound⟩, hmem, hsome⟩
    cases hexisting : s.builtins.get? builtin with
    | none => simp [hexisting] at hsome
    | some existing =>
      have hne : existing ≠ bound := by simpa [hexisting] using hsome
      exact ⟨builtin, bound, existing, OrderedMap.get?_of_mem hmem, hexisting, hne⟩
  · rintro ⟨builtin, bound, existing, hbound, hexisting, hne⟩
    exact ⟨(builtin, bound), OrderedMap.mem_of_get? hbound, by simp [hexisting, hne]⟩

/-- A merge fails if the module has not been merged and one of its builtins is in the way. -/
theorem exists_merge_eq_error_iff {i : Interface} : (∃ e, s.merge i = .error e) ↔
    ¬ s.contains i.name = true ∧ (s.conflict? i).isSome := by
  unfold ImportedScope.merge
  by_cases hcontains : s.contains i.name = true
  · simp [hcontains]
  · cases s.conflict? i <;> simp [hcontains]

/-- **What a well-merged scope shows is merged into and forgets as it should.** -/
theorem lawful_register (hs : s.WellMerged) : s.register.Lawful where
  fails_iff i := by
    rw [run_merge, contains_merged]
    refine Iff.trans ?_ (exists_merge_eq_error_iff.trans (and_congr_right fun _ =>
      isSome_conflict?_iff))
    cases s.merge i <;> simp [Except.map]
  unchanged i e h := by
    rw [run_merge] at h ⊢
    cases hmerge : s.merge i with
    | ok s' => rw [hmerge] at h; contradiction
    | error e => rfl
  forgotten module := by
    rw [forget_register]
    exact run_forM_merge (hs.of_sublist List.filter_sublist).foldlM_merge
  restored i hnew h := by
    rw [contains_merged] at hnew
    rw [run_merge] at h ⊢
    cases hmerge : s.merge i with
    | error e => rw [hmerge] at h; contradiction
    | ok s' =>
      obtain ⟨hcontains, -⟩ | ⟨-, rfl⟩ := merge_eq_ok hmerge
      · exact absurd hcontains hnew
      · show (register ⟨s.contributions ++ [i]⟩).forget i.name = s.register
        rw [forget_register, forget_append_singleton hnew]

/-- **A register is always exactly the merge of its remaining contributions.** Let interfaces be
merged and modules forgotten in any order, with merges that fail among them. The register that is
kept table by table shows what the scope shows that is worked out from the contributions, and a
further merge has the same outcome in both. The contributions have different names, which are the
merged modules, and merging them once more in their order leads to the same register; every builtin
that one of them binds is bound so, and no name has a display form twice. A merge fails just if the
module has not been merged and one of its builtins is bound otherwise, and then it changes nothing;
and forgetting a module leaves what the others make of the register, so that a module that has just
been merged leaves no trace. -/
theorem isMerge_after_edits (edits : List Edit) :
    (ImportedScope.after edits).register = Register.after edits ∧
    (∀ i, ((merge i).run.run (Register.after edits)).1
      = ((ImportedScope.after edits).merge i).map fun _ => ()) ∧
    (Register.after edits).IsMerge ∧ (Register.after edits).Lawful := by
  have hs := wellMerged_after edits
  rw [← register_after]
  exact ⟨rfl, fun i => congrArg Prod.fst (run_merge _ i), isMerge_register hs, lawful_register hs⟩

end Register

end ModuleLoader
