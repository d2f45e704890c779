import ModuleLoader.Proofs.Scope.Merge

/-!
# Which contribution counts

A module contributes to a scope at most once, and the first contribution counts: a merge that finds
one leaves it, whatever the interface is that it was given. So what a module contributes in the end
was there at the start, or it is the first of its interfaces to come along.

For a reused interface this settles what each of its imports contributes
(`ImportedScope.contribution?_of_mergeWithImports`): the contribution from before if there was one,
and only otherwise the interface that the import is settled with.
-/

namespace ModuleLoader

/-- **Settled modules have interfaces of their own.** -/
def VisitedCache.Named (c : VisitedCache) : Prop :=
  ∀ module entry, c.get? module = some entry → entry.interface.name = module

namespace ImportedScope

variable {s s' : ImportedScope} {i j : Interface} {module : ModuleName}

/-! ## Looking up a contribution -/

/-- A module has been merged if it contributes. -/
theorem contains_eq_isSome (s : ImportedScope) (module : ModuleName) :
    s.contains module = (s.contribution? module).isSome :=
  List.isSome_find?.symm

/-- What a module contributes is one of the contributions, and has the name of the module. -/
theorem mem_of_contribution? (h : s.contribution? module = some i) :
    i ∈ s.contributions ∧ i.name = module :=
  ⟨List.mem_of_find?_eq_some h, by simpa using List.find?_some h⟩

/-- Where contributions have different names, each is what its module contributes. -/
theorem contribution?_eq_some (hunique : ∀ j ∈ s.contributions, j.name = i.name → j = i)
    (h : i ∈ s.contributions) : s.contribution? i.name = some i := by
  have hsome : (s.contribution? i.name).isSome := by
    rw [← contains_eq_isSome]
    exact List.any_eq_true.2 ⟨i, h, beq_self_eq_true _⟩
  obtain ⟨j, hj⟩ := Option.isSome_iff_exists.1 hsome
  obtain ⟨hmem, hname⟩ := mem_of_contribution? hj
  rw [hj, hunique j hmem hname]

/-- A module that is forgotten contributes nothing, and the others what they did. -/
theorem contribution?_forget (s : ImportedScope) (forgotten module : ModuleName) :
    (s.forget forgotten).contribution? module
      = if module = forgotten then none else s.contribution? module := by
  unfold contribution? forget
  rw [List.find?_filter]
  by_cases h : module = forgotten
  · rw [if_pos h, List.find?_eq_none]
    simp [h]
  · rw [if_neg h]
    -- A name that is sought is none that is dropped.
    refine congrArg (List.find? · s.contributions) (funext fun i => ?_)
    by_cases hname : i.name = module <;> simp [hname, h]

/-! ## Merging -/

/-- **What a module contributes after a merge** is what it contributed before, and else the interface
if it is its own. -/
theorem contribution?_of_merge (h : s.merge i = .ok s') (module : ModuleName) :
    s'.contribution? module
      = (s.contribution? module).or (if i.name = module then some i else none) := by
  obtain ⟨hcontains, rfl⟩ | ⟨-, rfl⟩ := merge_eq_ok h
  · by_cases hname : i.name = module
    · rw [contains_eq_isSome, hname] at hcontains
      rw [Option.or_of_isSome hcontains]
    · rw [if_neg hname, Option.or_none]
  · show List.find? _ (s.contributions ++ [i]) = _
    rw [List.find?_append, List.find?_singleton]
    simp only [beq_iff_eq]
    rfl

/-- **After merging one interface after another**, the first one of a module counts. -/
theorem contribution?_of_foldlM_merge {interfaces : List Interface}
    (h : interfaces.foldlM merge s = .ok s') (module : ModuleName) :
    s'.contribution? module
      = (s.contribution? module).or (interfaces.find? fun i => i.name == module) := by
  induction interfaces generalizing s with
  | nil =>
    obtain rfl := Except.ok.inj h
    exact Option.or_none.symm
  | cons i rest ih =>
    obtain ⟨s₁, hmerge, h⟩ := foldlM_merge_cons.1 h
    rw [ih h, contribution?_of_merge hmerge, Option.or_assoc, List.find?_cons]
    by_cases hname : i.name = module
    · rw [if_pos hname, beq_iff_eq.2 hname]
      rfl
    · rw [if_neg hname, beq_eq_false_iff_ne.2 hname]
      rfl

/-! ## Reused interfaces -/

variable {visited : VisitedCache}

/-- What is reached from an interface is the interface or settled. -/
theorem settled_of_mem_reach {unseen : List ModuleName} (h : j ∈ reach visited s unseen [i]) :
    j = i ∨ ∃ m entry, visited.get? m = some entry ∧ entry.interface = j := by
  refine of_mem_reach
    (p := fun j => j = i ∨ ∃ m entry, visited.get? m = some entry ∧ entry.interface = j) ?_ ?_ h
  · intro a _ b hb
    obtain ⟨e, -, entry, hget, rfl⟩ := mem_settledImports.1 hb
    exact .inr ⟨e.1, entry, hget, rfl⟩
  · exact fun a ha => .inl (List.mem_singleton.1 ha)

/-- Along settled imports nothing is met but the interface itself and settled interfaces. -/
theorem settled_of_leadsTo (hnamed : visited.Named) (h : LeadsTo visited i j) :
    j = i ∨ ∃ entry, visited.get? j.name = some entry ∧ entry.interface = j := by
  obtain rfl | ⟨a, -, hb⟩ := Relation.ReflTransGen.cases_tail h
  · exact .inl rfl
  · obtain ⟨e, -, entry, hget, rfl⟩ := mem_settledImports.1 hb
    exact .inr ⟨entry, (hnamed e.1 entry hget).symm ▸ hget, rfl⟩

/-- What a module contributes after a reused interface was merged comes from before, from the
interface, or from the settled modules. -/
theorem of_contribution?_mergeWithImports (hnamed : visited.Named)
    (h : s.mergeWithImports visited i = .ok s') (hj : s'.contribution? module = some j) :
    s.contribution? module = some j ∨ (j = i ∧ i.name = module) ∨
      ∃ entry, visited.get? module = some entry ∧ entry.interface = j := by
  rw [contribution?_of_foldlM_merge h] at hj
  obtain hbefore | ⟨-, hnew⟩ := Option.or_eq_some_iff.1 hj
  · exact .inl hbefore
  · refine .inr ?_
    have hname : j.name = module := by simpa using List.find?_some hnew
    obtain rfl | ⟨m, entry, hget, rfl⟩ :=
      settled_of_mem_reach (List.mem_reverse.1 (List.mem_of_find?_eq_some hnew))
    · exact .inl ⟨rfl, hname⟩
    · obtain rfl := (hnamed m entry hget).symm.trans hname
      exact .inr ⟨entry, hget, rfl⟩

/-- **What an import of a reused interface contributes**: the contribution from before if there is
one, and otherwise the interface that the import is settled with. -/
theorem contribution?_of_mergeWithImports (hnamed : visited.Named)
    (h : s.mergeWithImports visited i = .ok s') (hnew : s.contribution? i.name = none)
    {e : ModuleName × Digest} (he : e ∈ i.imports) (hother : e.1 ≠ i.name) {entry : VisitedEntry}
    (hget : visited.get? e.1 = some entry) :
    s'.contribution? e.1 = some ((s.contribution? e.1).getD entry.interface) := by
  rw [contribution?_of_foldlM_merge h]
  cases hbefore : s.contribution? e.1 with
  | some j => rfl
  | none =>
    have hfree : ∀ {m}, s.contribution? m = none → ¬ s.contains m = true := by
      intro m hm
      rw [contains_eq_isSome, hm]
      exact nofun
    have himport : entry.interface ∈ settledImports visited i :=
      mem_settledImports.2 ⟨e, he, entry, hget, rfl⟩
    have hname : entry.interface.name = e.1 := hnamed e.1 entry hget
    -- Reached are the interface itself, under a name of its own, and then the import.
    obtain ⟨hpending, hclosed⟩ := exists_mem_reach visited s (reachable visited i) [i]
    have hself : i ∈ reach visited s (reachable visited i) [i] := by
      unfold reach
      rw [if_pos ⟨List.mem_cons_self, hfree hnew⟩]
      exact List.mem_cons_self
    obtain ⟨j, hj, hjname⟩ := hclosed i hself entry.interface himport
      (name_mem_reachable himport i) (hname ▸ hfree hbefore)
    have hunique : ∀ k ∈ reach visited s (reachable visited i) [i], k.name = e.1 →
        k = entry.interface := by
      intro k hk hkname
      obtain rfl | ⟨m, known, hknown, rfl⟩ := settled_of_mem_reach hk
      · exact absurd hkname.symm hother
      · obtain rfl := (hnamed m known hknown).symm.trans hkname
        rw [Option.some.inj (hknown.symm.trans hget)]
    rw [Option.none_or, Option.getD_none, ← hname]
    refine contribution?_eq_some (s := ⟨(reach visited s (reachable visited i) [i]).reverse⟩) ?_ ?_
    · exact fun k hk hkname => hunique k (List.mem_reverse.1 hk) (hkname.trans hname)
    · exact List.mem_reverse.2 (hunique j hj (hjname.trans hname) ▸ hj)

end ImportedScope

end ModuleLoader
