import ModuleLoader.Proofs.Scope.Sequence
import ModuleLoader.Proofs.Scope.Tables

/-!
# The order of merging

Importers list their imports in some order, and most of what they see of them should not depend on
it. Of the modules, the names, the builtins and the partial definitions nothing does: each is a set,
or a table that no two contributions fill differently. Display forms and warnings are lists, and
come in another order. The signature, the pattern synonyms and the user warnings are tables of which
the last contribution counts, so for them it has to be asked that there is nothing to choose between
(`ImportedScope.BindAlike`); and only the interfaces that are merged in another order have to be
asked, since all of them come after what was merged before.

Whether the merges succeed could depend on the order too, as each step compares an interface with
what has been merged by then. It does not, as the builtins in a scope are never more than those of
the contributions, nor fewer (`ImportedScope.WellMerged.exists_foldlM_merge_iff`).
-/

namespace ModuleLoader

namespace ImportedScope

variable {s s₁ s₂ : ImportedScope} {xs ys : List Interface}

/-! ## Tables of which the last contribution counts -/

/-- **Some interfaces bind alike** in a table: no two of them bind a key differently. -/
def BindAlike {α : Type} (table : Exports → OrderedMap α) (interfaces : List Interface) : Prop :=
  ∀ i ∈ interfaces, ∀ j ∈ interfaces, ∀ key x y, (table i.exports).get? key = some x →
    (table j.exports).get? key = some y → x = y

/-- What comes last counts, and what has been there counts else. -/
theorem get?_unionOf_appendAll {α : Type} (table : Exports → OrderedMap α)
    (contributions more : List Interface) (key : String) :
    (unionOf ⟨contributions ++ more⟩ table).get? key
      = ((unionOf ⟨more⟩ table).get? key).or ((unionOf ⟨contributions⟩ table).get? key) := by
  induction more using List.reverseRecOn with
  | nil => rw [List.append_nil]; rfl
  | append_singleton init last ih =>
    rw [← List.append_assoc, get?_unionOf_append, get?_unionOf_append, ih, Option.or_assoc]

/-- **Where contributions bind alike, a union shows every binding.** -/
theorem BindAlike.get?_unionOf_iff {α : Type} {table : Exports → OrderedMap α}
    (h : BindAlike table s.contributions) {key : String} {x : α} :
    (s.unionOf table).get? key = some x ↔
      ∃ i ∈ s.contributions, (table i.exports).get? key = some x := by
  refine ⟨exists_of_get?_unionOf, fun ⟨i, hi, hx⟩ => ?_⟩
  have hsome : ((s.unionOf table).get? key).isSome :=
    isSome_get?_unionOf.2 ⟨i, hi, by rw [hx]; rfl⟩
  obtain ⟨y, hy⟩ := Option.isSome_iff_exists.1 hsome
  obtain ⟨j, hj, hbound⟩ := exists_of_get?_unionOf hy
  rw [hy, h i hi j hj key x y hx hbound]

/-- **Interfaces that bind alike make the same of a table** in any order. -/
theorem BindAlike.unionOf_eq {α : Type} {table : Exports → OrderedMap α} (h : BindAlike table xs)
    (hperm : xs.Perm ys) (contributions : List Interface) :
    unionOf ⟨contributions ++ xs⟩ table = unionOf ⟨contributions ++ ys⟩ table := by
  have hys : BindAlike table ys := fun i hi j hj =>
    h i (hperm.mem_iff.2 hi) j (hperm.mem_iff.2 hj)
  refine OrderedMap.ext_get? fun key => ?_
  have hsame : (unionOf ⟨xs⟩ table).get? key = (unionOf ⟨ys⟩ table).get? key := by
    ext x
    rw [BindAlike.get?_unionOf_iff (s := ⟨xs⟩) h, BindAlike.get?_unionOf_iff (s := ⟨ys⟩) hys]
    simp only [hperm.mem_iff]
  rw [get?_unionOf_appendAll, get?_unionOf_appendAll, hsame]

/-! ## Scopes that differ in orders only -/

/-- **Two scopes show the same up to order.** -/
structure SameUpToOrder (s s' : ImportedScope) : Prop where
  /-- The merged modules. -/
  modules : s.modules = s'.modules
  /-- The names in scope. -/
  names : s.names = s'.names
  /-- The builtins and what they are bound to. -/
  builtins : s.builtins = s'.builtins
  /-- The partial definitions. -/
  partialDefinitions : s.partialDefinitions = s'.partialDefinitions
  /-- The names that have display forms. -/
  displayed : s.displayForms.keys = s'.displayForms.keys
  /-- The display forms of each name, in some order. -/
  displayForms : ∀ name,
    ((s.displayForms.get? name).getD []).Perm ((s'.displayForms.get? name).getD [])
  /-- The warnings, in some order. -/
  warnings : s.warnings.Perm s'.warnings

/-- **Scopes with the same contributions in another order show the same up to order.** -/
theorem SameUpToOrder.of_perm (hs₁ : s₁.Coherent) (hs₂ : s₂.Coherent)
    (hperm : s₁.contributions.Perm s₂.contributions) : s₁.SameUpToOrder s₂ := by
  have hstate : s₁.SameState s₂ := .of_contributions hs₁ hs₂ fun _ => hperm.mem_iff
  have hnodup : ∀ (s : ImportedScope) name, ((s.displayForms.get? name).getD []).Nodup := by
    intro s name
    cases hforms : s.displayForms.get? name with
    | none => exact .nil
    | some forms => exact nodup_displayForms hforms
  refine ⟨hstate.modules, hstate.names, hstate.builtins, hstate.partialDefinitions, ?_, ?_, ?_⟩
  · refine OrderedMap.keys_eq fun name => ?_
    simp only [isSome_get?_displayForms, hperm.mem_iff]
  · intro name
    refine (List.perm_ext_iff_of_nodup (hnodup s₁ name) (hnodup s₂ name)).2 fun form => ?_
    simp only [mem_displayForms, hperm.mem_iff]
  · exact hperm.flatMap_right Interface.warnings

/-- **The order of merging does not matter where it is not meant to.** Let a scope come about by any
edits, and let interfaces with different names be merged into it that it does not hold. They can be
merged one after another just if they can be in any other order, and both scopes show the same
modules, names, builtins and partial definitions, and the same display forms and warnings up to
order. If the interfaces bind alike in the signature, so do the scopes, and likewise for pattern
synonyms and for user warnings. -/
theorem foldlM_merge_of_perm (edits : List Edit) (hperm : xs.Perm ys)
    (hnames : (xs.map Interface.name).Nodup)
    (hnew : ∀ i ∈ xs, ¬ (after edits).contains i.name = true) :
    ((∃ s₁, xs.foldlM merge (after edits) = .ok s₁) ↔
      ∃ s₂, ys.foldlM merge (after edits) = .ok s₂) ∧
    ∀ s₁ s₂, xs.foldlM merge (after edits) = .ok s₁ → ys.foldlM merge (after edits) = .ok s₂ →
      s₁.SameUpToOrder s₂ ∧
      (BindAlike Exports.signature xs → s₁.signature = s₂.signature) ∧
      (BindAlike Exports.patternSynonyms xs → s₁.patternSynonyms = s₂.patternSynonyms) ∧
      (BindAlike Exports.userWarnings xs → s₁.userWarnings = s₂.userWarnings) := by
  have hstart := wellMerged_after edits
  have hnames' : (ys.map Interface.name).Nodup := (hperm.map _).nodup_iff.1 hnames
  have hnew' : ∀ i ∈ ys, ¬ (after edits).contains i.name = true := fun i hi =>
    hnew i (hperm.mem_iff.2 hi)
  refine ⟨?_, fun s₁ s₂ h₁ h₂ => ?_⟩
  · rw [hstart.exists_foldlM_merge_iff hnames hnew, hstart.exists_foldlM_merge_iff hnames' hnew']
    simp only [hperm.mem_iff]
  · obtain ⟨hcoherent₁, -⟩ := foldlM_merge_eq_ok hstart.coherent h₁
    obtain ⟨hcoherent₂, -⟩ := foldlM_merge_eq_ok hstart.coherent h₂
    obtain rfl := eq_of_foldlM_merge hnames hnew h₁
    obtain rfl := eq_of_foldlM_merge hnames' hnew' h₂
    exact ⟨.of_perm hcoherent₁ hcoherent₂ (hperm.append_left _),
      fun halike => halike.unionOf_eq hperm _, fun halike => halike.unionOf_eq hperm _,
      fun halike => halike.unionOf_eq hperm _⟩

/-! ## Two interfaces with much in common -/

/-- Two interfaces that share a builtin, a name and a display form, and differ in a pattern synonym.
-/
def twins : List Interface :=
  [sample "A" { Exports.empty with
    scope := .ofList ["a", "shared"]
    signature := .ofList [("A.a", "Set")]
    builtins := .ofList [("N", "n")]
    patternSynonyms := .ofList [("P", "a")]
    displayForms := .ofList [("plus", ["+", "_+_"])] },
  sample "B" { Exports.empty with
    scope := .ofList ["b", "shared"]
    signature := .ofList [("B.b", "Set")]
    builtins := .ofList [("N", "n")]
    patternSynonyms := .ofList [("P", "b")]
    displayForms := .ofList [("plus", ["_+_", "⊕"])] }]

/-- All names in the signatures of the two are bound alike. -/
theorem bindAlike_twins : BindAlike Exports.signature twins := by
  have hentries : ∀ i ∈ twins, ∀ e ∈ i.exports.signature.entries, e.2 = "Set" := by decide +kernel
  intro i hi j hj key x y hx hy
  exact (hentries i hi _ (OrderedMap.mem_of_get? hx)).trans
    (hentries j hj _ (OrderedMap.mem_of_get? hy)).symm

/-- A scope that holds one interface already, which binds the builtin that the twins bind. -/
def beforeTwins : List Edit :=
  [.merge (sample "N" { Exports.empty with builtins := .ofList [("N", "n")] })]

set_option maxRecDepth 100000 in
/-- Merged in both orders, the two show the same up to order, and the same signature. The pattern
synonym is the one of the interface that was merged last. -/
theorem foldlM_merge_of_perm_twins : ∃ s₁ s₂,
    twins.foldlM merge (after beforeTwins) = .ok s₁ ∧
    twins.reverse.foldlM merge (after beforeTwins) = .ok s₂ ∧
    s₁.SameUpToOrder s₂ ∧ s₁.signature = s₂.signature ∧
    s₁.patternSynonyms.get? "P" = some "b" ∧ s₂.patternSynonyms.get? "P" = some "a" := by
  have hmerges := foldlM_merge_of_perm beforeTwins (List.reverse_perm twins).symm
    (by decide +kernel) (by decide +kernel)
  have hfirst : ((twins.foldlM merge (after beforeTwins)).toOption.bind fun s =>
      s.patternSynonyms.get? "P") = some "b" := by
    decide +kernel
  have hlast : ((twins.reverse.foldlM merge (after beforeTwins)).toOption.bind fun s =>
      s.patternSynonyms.get? "P") = some "a" := by
    decide +kernel
  cases h₁ : twins.foldlM merge (after beforeTwins) with
  | error e => rw [h₁] at hfirst; contradiction
  | ok s₁ =>
    cases h₂ : twins.reverse.foldlM merge (after beforeTwins) with
    | error e => rw [h₂] at hlast; contradiction
    | ok s₂ =>
      rw [h₁] at hfirst
      rw [h₂] at hlast
      obtain ⟨hsame, hsignature, -⟩ := hmerges.2 s₁ s₂ h₁ h₂
      exact ⟨s₁, s₂, rfl, rfl, hsame, hsignature bindAlike_twins, hfirst, hlast⟩

end ImportedScope

end ModuleLoader
