import Mathlib.Data.List.Sort
import ModuleLoader.Proofs.Scope.Merge

/-!
# What a scope shows

A session shows its scope as a handful of tables: the modules that were merged, the names in scope,
the definitions that have a type, the bindings of builtins, and the partial definitions. Each table
is a union over the contributions, so which keys it holds does not depend on their order. What the
keys hold does, as the last contribution counts; but builtins are bound alike by all contributions
of a coherent scope, and of the other tables only the keys are looked at.

So coherent scopes with the same contributions show the same state, however these were merged. The
converse holds too, if no module contributes one interface here and another one there: the modules
that were merged are part of what is shown (`ImportedScope.sameState_iff`).
-/

namespace ModuleLoader

namespace OrderedMap

variable {α β : Type}

/-- The keys of a map are those that hold something. -/
theorem mem_keys_iff {m : OrderedMap α} {key : String} : key ∈ m.keys ↔ (m.get? key).isSome := by
  rw [Option.isSome_iff_exists]
  constructor
  · intro h
    obtain ⟨e, he, rfl⟩ := List.mem_map.1 h
    exact ⟨e.2, get?_of_mem he⟩
  · exact fun ⟨value, h⟩ => List.mem_map_of_mem (mem_of_get? h)

/-- **Maps that hold something for the same keys** list these in the same order. -/
theorem keys_eq {m : OrderedMap α} {n : OrderedMap β}
    (h : ∀ key, (m.get? key).isSome ↔ (n.get? key).isSome) : m.keys = n.keys := by
  have hsorted : ∀ {γ : Type} (m : OrderedMap γ), m.keys.Pairwise (· < ·) := fun m =>
    List.pairwise_map.2 m.sorted
  refine (hsorted m).eq_of_mem_iff (hsorted n) fun key => ?_
  rw [mem_keys_iff, mem_keys_iff, h]

end OrderedMap

/-- Sets with the same members are equal. -/
theorem NameSet.ext_isSome {m n : NameSet} (h : ∀ name, (m.get? name).isSome ↔ (n.get? name).isSome) :
    m = n := by
  refine OrderedMap.ext_get? fun name => ?_
  have hsame := h name
  cases hm : m.get? name <;> cases hn : n.get? name <;> simp_all

namespace ImportedScope

variable {s s' : ImportedScope}

/-- **A union holds the keys of all contributions.** -/
theorem isSome_get?_unionOf {α : Type} {table : Exports → OrderedMap α} {key : String} :
    ((s.unionOf table).get? key).isSome ↔
      ∃ i ∈ s.contributions, ((table i.exports).get? key).isSome := by
  constructor
  · intro h
    obtain ⟨x, hx⟩ := Option.isSome_iff_exists.1 h
    obtain ⟨i, hi, hkey⟩ := exists_of_get?_unionOf hx
    exact ⟨i, hi, by rw [hkey]; rfl⟩
  · rintro ⟨i, hi, hkey⟩
    obtain ⟨contributions⟩ := s
    induction contributions using List.reverseRecOn with
    | nil => contradiction
    | append_singleton init last ih =>
      rw [get?_unionOf_append, Option.isSome_or, Bool.or_eq_true]
      obtain hi | hi := List.mem_append.1 hi
      · exact .inr (ih hi)
      · exact .inl (List.mem_singleton.1 hi ▸ hkey)

/-- The modules shown are those that contribute. -/
theorem isSome_get?_modules {name : String} :
    (s.modules.get? name).isSome ↔ ∃ i ∈ s.contributions, i.name.text = name := by
  obtain ⟨contributions⟩ := s
  unfold modules
  induction contributions using List.reverseRecOn with
  | nil => simp; rfl
  | append_singleton init last ih =>
    rw [List.foldl_append]
    show ((OrderedMap.insert _ last.name.text ()).get? name).isSome ↔ _
    rw [OrderedMap.get?_insert]
    by_cases hlast : name = last.name.text
    · simp [hlast]
    · simpa [hlast, Ne.symm hlast] using ih

/-- **Two scopes show the same state**: the same modules, names, definitions, builtins and partial
definitions. -/
structure SameState (s s' : ImportedScope) : Prop where
  /-- The merged modules. -/
  modules : s.modules = s'.modules
  /-- The names in scope. -/
  names : s.names = s'.names
  /-- The definitions that have a type. -/
  signature : s.signature.keys = s'.signature.keys
  /-- The builtins and what they are bound to. -/
  builtins : s.builtins = s'.builtins
  /-- The partial definitions. -/
  partialDefinitions : s.partialDefinitions = s'.partialDefinitions

/-- **Coherent scopes with the same contributions show the same state.** -/
theorem SameState.of_contributions (hs : s.Coherent) (hs' : s'.Coherent)
    (h : ∀ i, i ∈ s.contributions ↔ i ∈ s'.contributions) : s.SameState s' where
  modules := NameSet.ext_isSome fun name => by simp only [isSome_get?_modules, h]
  names := NameSet.ext_isSome fun name => by
    simp only [ImportedScope.names, isSome_get?_unionOf, h]
  signature := OrderedMap.keys_eq fun name => by
    simp only [ImportedScope.signature, isSome_get?_unionOf, h]
  builtins := by
    -- A binding shown by one scope is that of a contribution, which the other one shows as well.
    have hshown : ∀ {s s' : ImportedScope}, s'.Coherent →
        (∀ i, i ∈ s.contributions → i ∈ s'.contributions) → ∀ {builtin x : String},
        s.builtins.get? builtin = some x → s'.builtins.get? builtin = some x := by
      intro s s' hs' hsub builtin x hx
      obtain ⟨i, hi, hbound⟩ := exists_of_get?_unionOf hx
      exact hs'.get?_builtins (hsub i hi) hbound
    refine OrderedMap.ext_get? fun builtin => Option.ext fun x => ?_
    exact ⟨hshown hs' fun i => (h i).1, hshown hs fun i => (h i).2⟩
  partialDefinitions :=
    NameSet.ext_isSome fun name => by
      simp only [ImportedScope.partialDefinitions, isSome_get?_unionOf, h]

/-- **Two coherent scopes show the same state just if their contributions are the same**, provided
that no module contributes one interface to one of them and another to the other. -/
theorem sameState_iff (hs : s.Coherent) (hs' : s'.Coherent)
    (hunique : ∀ i ∈ s.contributions, ∀ j ∈ s'.contributions, i.name = j.name → i = j) :
    s.SameState s' ↔ ∀ i, i ∈ s.contributions ↔ i ∈ s'.contributions := by
  refine ⟨fun h i => ?_, SameState.of_contributions hs hs'⟩
  have hmodules : ∀ name, (∃ i ∈ s.contributions, i.name.text = name) ↔
      ∃ i ∈ s'.contributions, i.name.text = name := by
    intro name
    rw [← isSome_get?_modules, ← isSome_get?_modules, h.modules]
  have hname : ∀ {i j : Interface}, i.name.text = j.name.text → i.name = j.name :=
    fun heq => congrArg ModuleName.mk heq
  constructor
  · intro hi
    obtain ⟨j, hj, heq⟩ := (hmodules i.name.text).1 ⟨i, hi, rfl⟩
    exact hunique i hi j hj (hname heq.symm) ▸ hj
  · intro hi
    obtain ⟨j, hj, heq⟩ := (hmodules i.name.text).2 ⟨i, hi, rfl⟩
    exact hunique j hj i hi (hname heq) ▸ hj

/-! ## Display forms -/

/-- Forms that are appended are among those of the longer list, and nothing else is. -/
theorem mem_appendNew {forms more : List String} {form : String} :
    form ∈ appendNew forms more ↔ form ∈ forms ∨ form ∈ more := by
  unfold appendNew
  induction more generalizing forms with
  | nil => simp
  | cons first rest ih =>
    rw [List.foldl_cons, ih]
    split
    · rename_i hold
      have hmem : first ∈ forms := by simpa using hold
      grind
    · grind

/-- **No form is appended twice.** -/
theorem nodup_appendNew {forms : List String} (h : forms.Nodup) (more : List String) :
    (appendNew forms more).Nodup := by
  refine List.foldlRecOn more _ h fun forms h form _ => ?_
  split
  · exact h
  · rename_i hnew
    refine List.nodup_append.2 ⟨h, List.pairwise_singleton _ _, ?_⟩
    rintro x hx y hy rfl
    rw [List.mem_singleton.1 hy] at hx
    exact hnew (by simpa using hx)

/-- Display forms with those of one more table, looked up: a name of that table has its forms
appended, and the others keep theirs. -/
theorem get?_addForms (forms more : OrderedMap (List String)) (name : String) :
    (addForms forms more).get? name = (more.get? name).elim (forms.get? name)
      fun new => some (appendNew ((forms.get? name).getD []) new) := by
  obtain ⟨entries, hsorted⟩ := more
  show (entries.foldl _ forms).get? name = (entries.lookup name).elim _ _
  induction entries generalizing forms with
  | nil => rfl
  | cons e rest ih =>
    obtain ⟨hfirst, hrest⟩ := List.pairwise_cons.1 hsorted
    rw [List.foldl_cons, ih _ hrest, OrderedMap.get?_insert, lookup_cons_pair]
    by_cases hname : name = e.1
    · rw [if_pos hname, if_pos hname, hname, OrderedMap.lookup_eq_none_of_lt hfirst]
      rfl
    · rw [if_neg hname, if_neg hname]

/-- The last contribution adds its display forms. -/
theorem displayForms_append (contributions : List Interface) (last : Interface) :
    displayForms ⟨contributions ++ [last]⟩
      = addForms (displayForms ⟨contributions⟩) last.exports.displayForms :=
  List.foldl_append

/-- **A scope has display forms for the names that a contribution has some for.** -/
theorem isSome_get?_displayForms {name : String} : (s.displayForms.get? name).isSome ↔
    ∃ i ∈ s.contributions, (i.exports.displayForms.get? name).isSome := by
  obtain ⟨contributions⟩ := s
  induction contributions using List.reverseRecOn with
  | nil => exact iff_of_false nofun nofun
  | append_singleton init last ih =>
    rw [displayForms_append, get?_addForms]
    cases hlast : last.exports.displayForms.get? name with
    | none => simpa [hlast] using ih
    | some forms => simp [hlast]

/-- **The display forms of a name** are those that a contribution has for it. -/
theorem mem_displayForms {name form : String} : form ∈ (s.displayForms.get? name).getD [] ↔
    ∃ i ∈ s.contributions, form ∈ (i.exports.displayForms.get? name).getD [] := by
  obtain ⟨contributions⟩ := s
  induction contributions using List.reverseRecOn with
  | nil => exact iff_of_false nofun nofun
  | append_singleton init last ih =>
    rw [displayForms_append, get?_addForms]
    cases hlast : last.exports.displayForms.get? name with
    | none => simpa [hlast] using ih
    | some forms =>
      show form ∈ appendNew _ forms ↔ _
      rw [mem_appendNew, ih]
      simp [hlast, or_and_right, exists_or]

/-- **No display form of a name is listed twice.** -/
theorem nodup_displayForms {name : String} {forms : List String}
    (h : s.displayForms.get? name = some forms) : forms.Nodup := by
  obtain ⟨contributions⟩ := s
  induction contributions using List.reverseRecOn generalizing forms with
  | nil => contradiction
  | append_singleton init last ih =>
    rw [displayForms_append, get?_addForms] at h
    cases hlast : last.exports.displayForms.get? name with
    | none => exact ih (by simpa [hlast] using h)
    | some more =>
      rw [hlast] at h
      obtain rfl := Option.some.inj h
      refine nodup_appendNew ?_ more
      cases hinit : (displayForms ⟨init⟩).get? name with
      | none => exact .nil
      | some forms => exact ih hinit

end ImportedScope

end ModuleLoader
