import ModuleLoader.Proofs.Scope.Merge

/-!
# Sequences of merges

A scope comes about by edits: interfaces are merged and modules forgotten, in any order. Two things
are true of it then (`ImportedScope.WellMerged`): its contributions have different names, and they
bind no builtin differently. Forgetting keeps both because it only takes contributions away, and
merging because it looks for them first.

Interfaces with names of their own that are merged one after another go to the end, one after
another (`ImportedScope.eq_of_foldlM_merge`). Each step compares an interface with what has been
merged by then, but whether all of them succeed is decided by pairs of interfaces
(`ImportedScope.WellMerged.exists_foldlM_merge_iff`), and so by nothing that has an order.
-/

namespace ModuleLoader

namespace ImportedScope

variable {s s' : ImportedScope} {i : Interface} {module : ModuleName} {interfaces : List Interface}

/-! ## Merging interfaces with names of their own -/

/-- A module has been merged if its name is that of a contribution. -/
theorem contains_iff : s.contains module = true ↔ module ∈ s.contributions.map Interface.name := by
  simp [contains]

/-- One more contribution adds its own name and no other. -/
theorem contains_append_singleton :
    contains ⟨s.contributions ++ [i]⟩ module = true ↔
      s.contains module = true ∨ module = i.name := by
  rw [contains_iff, contains_iff, List.map_append, List.mem_append, List.map_singleton,
    List.mem_singleton]

/-- Where a module has not been merged there is nothing to forget. -/
theorem forget_of_not_contains (h : ¬ s.contains module = true) : s.forget module = s := by
  have hall : s.contributions.filter (fun i => i.name ≠ module) = s.contributions := by
    refine List.filter_eq_self.2 fun i hi => ?_
    have hname : i.name ≠ module := by
      rintro rfl
      exact h (contains_iff.2 (List.mem_map_of_mem hi))
    simpa using hname
  unfold forget
  rw [hall]

/-- **A module that was merged last is forgotten without a trace.** -/
theorem forget_append_singleton (h : ¬ s.contains i.name = true) :
    forget ⟨s.contributions ++ [i]⟩ i.name = s := by
  have hlast : forget ⟨s.contributions ++ [i]⟩ i.name = s.forget i.name := by
    simp [forget, List.filter_append]
  rw [hlast, forget_of_not_contains h]

/-- **Interfaces with new names go to the end**, if they can be merged one after another. -/
theorem eq_of_foldlM_merge (hnames : (interfaces.map Interface.name).Nodup)
    (hnew : ∀ i ∈ interfaces, ¬ s.contains i.name = true)
    (h : interfaces.foldlM merge s = .ok s') : s' = ⟨s.contributions ++ interfaces⟩ := by
  induction interfaces generalizing s with
  | nil => simpa using (Except.ok.inj h).symm
  | cons i rest ih =>
    obtain ⟨hfirst, hrest⟩ := List.nodup_cons.1 hnames
    obtain ⟨s₁, hmerge, h⟩ := foldlM_merge_cons.1 h
    obtain ⟨hcontains, -⟩ | ⟨-, rfl⟩ := merge_eq_ok hmerge
    · exact absurd hcontains (hnew i List.mem_cons_self)
    · have hstill : ∀ j ∈ rest, ¬ contains ⟨s.contributions ++ [i]⟩ j.name = true := by
        intro j hj
        rw [contains_append_singleton, not_or]
        exact ⟨hnew j (List.mem_cons_of_mem _ hj),
          fun heq => hfirst (heq ▸ List.mem_map_of_mem hj)⟩
      simpa using ih hrest hstill h

/-- **Interfaces that agree** with the contributions and with one another, and have new names, can
be merged one after another. -/
theorem foldlM_merge_eq_append
    (hagree : ∀ i, i ∈ s.contributions ∨ i ∈ interfaces → ∀ j ∈ interfaces, i.Agrees j)
    (hnames : (interfaces.map Interface.name).Nodup)
    (hnew : ∀ i ∈ interfaces, ¬ s.contains i.name = true) :
    interfaces.foldlM merge s = .ok ⟨s.contributions ++ interfaces⟩ := by
  obtain ⟨s', hmerge⟩ := exists_foldlM_merge_eq_ok hagree
  rw [hmerge, eq_of_foldlM_merge hnames hnew hmerge]

/-! ## Well-merged scopes -/

/-- **A scope is well merged** if its contributions have different names and bind no builtin
differently. -/
structure WellMerged (s : ImportedScope) : Prop where
  /-- No module contributes twice. -/
  nodup : (s.contributions.map Interface.name).Nodup
  /-- No two contributions bind a builtin differently. -/
  coherent : s.Coherent

namespace WellMerged

theorem empty : (∅ : ImportedScope).WellMerged := ⟨.nil, coherent_empty⟩

/-- Merging keeps a scope well merged. -/
theorem merge (hs : s.WellMerged) (h : s.merge i = .ok s') : s'.WellMerged := by
  refine ⟨?_, hs.coherent.merge h⟩
  unfold ImportedScope.merge at h
  split at h
  · exact Except.ok.inj h ▸ hs.nodup
  · rename_i hnot
    split at h
    · contradiction
    · obtain rfl := Except.ok.inj h
      rw [List.map_append]
      refine List.nodup_append.2 ⟨hs.nodup, List.pairwise_singleton _ _, ?_⟩
      rintro name hname last hlast rfl
      exact hnot (contains_iff.2 (List.mem_singleton.1 hlast ▸ hname))

/-- Taking contributions away keeps a scope well merged. -/
theorem of_sublist {contributions : List Interface} (hs : s.WellMerged)
    (hsub : contributions.Sublist s.contributions) : WellMerged ⟨contributions⟩ where
  nodup := hs.nodup.sublist (hsub.map _)
  coherent i hi j hj := hs.coherent i (hsub.subset hi) j (hsub.subset hj)

/-- **A well-merged scope comes of merging its contributions** in their order. -/
theorem foldlM_merge (hs : s.WellMerged) :
    s.contributions.foldlM ImportedScope.merge ∅ = .ok s := by
  have hagree : ∀ i, i ∈ (∅ : ImportedScope).contributions ∨ i ∈ s.contributions →
      ∀ j ∈ s.contributions, i.Agrees j := by
    rintro i (hi | hi) j hj
    · exact absurd hi List.not_mem_nil
    · exact hs.coherent i hi j hj
  exact foldlM_merge_eq_append hagree hs.nodup fun i _ => not_contains_empty i.name

/-- **Whether interfaces with new names can be merged** one after another is decided by pairs: each
has to agree with the contributions and with the others. -/
theorem exists_foldlM_merge_iff (hs : s.WellMerged) (hnames : (interfaces.map Interface.name).Nodup)
    (hnew : ∀ i ∈ interfaces, ¬ s.contains i.name = true) :
    (∃ s', interfaces.foldlM ImportedScope.merge s = .ok s') ↔
      ∀ i, i ∈ s.contributions ∨ i ∈ interfaces → ∀ j ∈ interfaces, i.Agrees j := by
  refine ⟨fun ⟨s', h⟩ i hi j hj => ?_, exists_foldlM_merge_eq_ok⟩
  obtain ⟨hcoherent, -⟩ := foldlM_merge_eq_ok hs.coherent h
  rw [eq_of_foldlM_merge hnames hnew h] at hcoherent
  exact hcoherent i (List.mem_append.2 hi) j (List.mem_append_right _ hj)

end WellMerged

/-! ## Edits -/

/-- **What can be done to a scope.** -/
inductive Edit where
  /-- To merge an interface. -/
  | merge (i : Interface)
  /-- To forget a module. -/
  | forget (module : ModuleName)

/-- The scope after an edit. A merge that fails leaves it as it is. -/
def edit (s : ImportedScope) : Edit → ImportedScope
  | .merge i => (s.merge i).toOption.getD s
  | .forget module => s.forget module

/-- **The scope after some edits**, starting with nothing. -/
def after (edits : List Edit) : ImportedScope := edits.foldl edit ∅

/-- An edit keeps a scope well merged. -/
theorem WellMerged.edit (hs : s.WellMerged) (e : Edit) : (s.edit e).WellMerged := by
  cases e with
  | merge i =>
    show ((s.merge i).toOption.getD s).WellMerged
    cases hmerge : s.merge i with
    | ok s' => exact hs.merge hmerge
    | error e => exact hs
  | forget module => exact hs.of_sublist List.filter_sublist

/-- **Whatever is done to a scope, it is well merged.** -/
theorem wellMerged_after (edits : List Edit) : (after edits).WellMerged :=
  List.foldlRecOn edits edit WellMerged.empty fun _ hs e _ => hs.edit e

/-! ## Interfaces to merge -/

/-- An interface that exports something and has a warning. -/
def sample (name : String) (exports : Exports) : Interface where
  name := ⟨name⟩
  sourceHash := .zero
  fullHash := .zero
  imports := []
  options := default
  baseOptions := .zero
  exports
  warnings := [⟨.infectiveImport, name, none, []⟩]
  importWarning := none

end ImportedScope

end ModuleLoader
