import ModuleLoader.Proofs.Check.Transcript
import ModuleLoader.Proofs.Scope.Contribution

/-!
# What a check merges

Every import that a check is granted is merged into its scope, and nothing else is. So after a check
the scope holds what it held before and the interfaces of modules that the check lists
(`Check.Went.mem_contributions`). An interface that is in the scope already is not replaced:
there the scope goes on holding what the module contributed before, and only else it holds the
interface that is known of it (`Check.Went.contribution?_of_import`).
-/

namespace ModuleLoader

namespace Check.Went

variable {α : Type} {compatibility : Compatibility} {known : ModuleName → VisitedEntry → Prop}
  {check : Check α} {context context' : CheckContext} {result : α} {module : ModuleName}
  {i : Interface}

/-- What contributes goes on contributing. -/
theorem contribution?_eq_some (h : Went compatibility known check context result context')
    (hi : context.scope.contribution? module = some i) :
    context'.scope.contribution? module = some i := by
  induction h with
  | done => exact hi
  | refused _ _ ih => exact ih hi
  | imported _ hadd _ ih =>
    obtain ⟨scope, hmerge, rfl⟩ := CheckContext.addImport_eq_ok hadd
    refine ih ?_
    show scope.contribution? module = some i
    rw [ImportedScope.contribution?_of_merge hmerge, hi, Option.some_or]
  | context _ ih => exact ih hi
  | setOptions _ ih => exact ih hi
  | warn _ ih => exact ih hi
  | read _ _ ih => exact ih hi
  | edit _ _ ih => exact ih hi
  | note _ ih => exact ih hi

/-- What contributes after a check did so before or was imported. -/
theorem of_contribution? (hnamed : ∀ x entry, known x entry → entry.interface.name = x)
    (h : Went compatibility known check context result context')
    (hi : context'.scope.contribution? module = some i) :
    context.scope.contribution? module = some i ∨ ∃ entry, known module entry ∧
      entry.interface = i := by
  induction h with
  | done => exact .inl hi
  | refused _ _ ih => exact ih hi
  | @imported imported _ _ _ _ _ entry hknown hadd _ ih =>
    obtain ⟨scope, hmerge, rfl⟩ := CheckContext.addImport_eq_ok hadd
    obtain hscope | hlater := ih hi
    · replace hscope : scope.contribution? module = some i := hscope
      rw [ImportedScope.contribution?_of_merge hmerge, hnamed _ _ hknown] at hscope
      by_cases hsame : imported = module
      · rw [if_pos hsame] at hscope
        exact (Option.or_eq_some_iff.1 hscope).imp_right fun ⟨_, hnew⟩ =>
          ⟨entry, hsame ▸ hknown, Option.some.inj hnew⟩
      · rw [if_neg hsame, Option.or_none] at hscope
        exact .inl hscope
    · exact .inr hlater
  | context _ ih => exact ih hi
  | setOptions _ ih => exact ih hi
  | warn _ ih => exact ih hi
  | read _ _ ih => exact ih hi
  | edit _ _ ih => exact ih hi
  | note _ ih => exact ih hi

/-- What is listed stays listed. -/
theorem mem_imports (h : Went compatibility known check context result context')
    {e : ModuleName × Digest} (he : e ∈ context.imports) : e ∈ context'.imports := by
  induction h with
  | done => exact he
  | refused _ _ ih => exact ih he
  | imported _ hadd _ ih =>
    obtain ⟨scope, -, rfl⟩ := CheckContext.addImport_eq_ok hadd
    exact ih ((CheckContext.prefix_listImport _ _ _).subset he)
  | context _ ih => exact ih he
  | setOptions _ ih => exact ih he
  | warn _ ih => exact ih he
  | read _ _ ih => exact ih he
  | edit _ _ ih => exact ih he
  | note _ ih => exact ih he

/-- **A check adds the interfaces of modules that it lists** to the scope, and keeps it coherent. -/
theorem mem_contributions (h : Went compatibility known check context result context')
    (hs : context.scope.Coherent) :
    context'.scope.Coherent ∧ ∀ i ∈ context'.scope.contributions, i ∈ context.scope.contributions ∨
      ∃ e ∈ context'.imports, ∃ entry, known e.1 entry ∧ entry.interface = i := by
  induction h with
  | done => exact ⟨hs, fun _ hi => .inl hi⟩
  | refused _ _ ih => exact ih hs
  | @imported imported _ context₁ context₂ context₃ _ entry hknown hadd hrest ih =>
    obtain ⟨scope, hmerge, rfl⟩ := CheckContext.addImport_eq_ok hadd
    obtain ⟨hcoherent, hadded⟩ := ih (hs.merge hmerge)
    refine ⟨hcoherent, fun i hi => ?_⟩
    obtain hscope | hlater := hadded i hi
    · obtain hbefore | rfl := ImportedScope.mem_of_merge hmerge hscope
      · exact .inl hbefore
      · -- The module was listed when it was merged, and still is.
        obtain ⟨hash, hlisted⟩ := CheckContext.exists_mem_listImport context₁.imports imported
          entry.interface.fullHash
        exact .inr ⟨(imported, hash), hrest.mem_imports hlisted, entry, hknown, rfl⟩
    · exact .inr hlater
  | context _ ih => exact ih hs
  | setOptions _ ih => exact ih hs
  | warn _ ih => exact ih hs
  | read _ _ ih => exact ih hs
  | edit _ _ ih => exact ih hs
  | note _ ih => exact ih hs

/-- **What an import contributes after a check**: what it contributed before if it did, and else the
interface that is known of it. -/
theorem contribution?_of_import (hnamed : ∀ x entry, known x entry → entry.interface.name = x)
    (hunique : ∀ x entry entry', known x entry → known x entry' → entry = entry')
    (h : Went compatibility known check context result context') {e : ModuleName × Digest}
    (he : e ∈ context'.imports) :
    e ∈ context.imports ∨ ∃ entry, known e.1 entry ∧ entry.interface.fullHash = e.2 ∧
      context'.scope.contribution? e.1
        = some ((context.scope.contribution? e.1).getD entry.interface) := by
  induction h with
  | done => exact .inl he
  | refused _ _ ih => exact ih he
  | @imported imported _ context₁ context₂ context₃ _ entry hknown hadd hrest ih =>
    have hafter : context₂.scope.contribution? e.1 = (context₁.scope.contribution? e.1).or
        (if imported = e.1 then some entry.interface else none) := by
      obtain ⟨scope, hmerge, rfl⟩ := CheckContext.addImport_eq_ok hadd
      show scope.contribution? e.1 = _
      rw [ImportedScope.contribution?_of_merge hmerge, hnamed _ _ hknown]
    obtain hlisted | ⟨later, hlater, hhash, hcontribution⟩ := ih he
    · obtain ⟨scope, -, rfl⟩ := CheckContext.addImport_eq_ok hadd
      obtain hbefore | rfl := CheckContext.mem_listImport hlisted
      · exact .inl hbefore
      · refine .inr ⟨entry, hknown, rfl, hrest.contribution?_eq_some ?_⟩
        rw [hafter, if_pos rfl]
        cases context₁.scope.contribution? imported <;> rfl
    · refine .inr ⟨later, hlater, hhash, ?_⟩
      rw [hcontribution, hafter]
      by_cases hsame : imported = e.1
      · -- Imported twice, the module is known by the same entry.
        subst hsame
        rw [if_pos rfl, hunique _ _ _ hlater hknown]
        cases context₁.scope.contribution? e.1 <;> rfl
      · rw [if_neg hsame, Option.or_none]
  | context _ ih => exact ih he
  | setOptions _ ih => exact ih he
  | warn _ ih => exact ih he
  | read _ _ ih => exact ih he
  | edit _ _ ih => exact ih he
  | note _ ih => exact ih he

end Check.Went

end ModuleLoader
