import Mathlib.Data.List.Induction
import Mathlib.Logic.Relation
import ModuleLoader.Load.Entry

/-!
# What can be merged

Two interfaces agree if they bind no builtin differently. A scope is coherent if its contributions
agree with one another; merging keeps it that way. To a coherent scope an interface can be added just
if it agrees with every contribution (`ImportedScope.conflict?_eq_none_iff`): of several bindings of
one builtin the scope shows the last one, but by coherence they are all the same.

When an interface is reused, it is merged with everything that is reached from it along settled
imports. So all of these agree with one another if that succeeds
(`ImportedScope.agrees_of_mergeWithImports`), and it succeeds if they do
(`ImportedScope.mergeWithImports_eq_ok`).
-/

namespace ModuleLoader

/-! ## Unions of maps -/

namespace OrderedMap

variable {α : Type}

/-- A map that has been extended by a sorted list holds what the list holds, and else what it held. -/
theorem get?_insertAll {entries : List (String × α)} (h : entries.Pairwise fun a b => a.1 < b.1)
    (m : OrderedMap α) (key : String) :
    (m.insertAll entries).get? key = (entries.lookup key).or (m.get? key) := by
  induction entries generalizing m with
  | nil => rfl
  | cons e rest ih =>
    obtain ⟨hfirst, hrest⟩ := List.pairwise_cons.1 h
    obtain ⟨k, v⟩ := e
    show ((m.insert k v).insertAll rest).get? key = _
    rw [ih hrest, get?_insert, List.lookup_cons]
    by_cases hkey : key = k
    · subst hkey
      rw [lookup_eq_none_of_lt hfirst, if_pos rfl, beq_self_eq_true]
      rfl
    · rw [if_neg hkey, beq_eq_false_iff_ne.2 hkey]

/-- The union of two maps, looked up. -/
theorem get?_union (m n : OrderedMap α) (key : String) :
    (m.union n).get? key = (n.get? key).or (m.get? key) :=
  get?_insertAll n.sorted m key

/-- The entries of a map are what its keys hold. -/
theorem get?_of_mem {m : OrderedMap α} {e : String × α} (h : e ∈ m.entries) :
    m.get? e.1 = some e.2 := by
  obtain ⟨before, after, heq⟩ := List.append_of_mem h
  have hsorted := m.sorted
  rw [heq] at hsorted
  unfold get?
  rw [heq, List.lookup_append, List.lookup_eq_none_iff.2 ?_, List.lookup_cons, beq_self_eq_true]
  · rfl
  · intro e' he'
    have hlt := (List.pairwise_append.1 hsorted).2.2 e' he' e List.mem_cons_self
    exact bne_iff_ne.2 fun heq => String.lt_irrefl _ (heq ▸ hlt)

/-- What a key holds is an entry. -/
theorem mem_of_get? {m : OrderedMap α} {key : String} {value : α} (h : m.get? key = some value) :
    (key, value) ∈ m.entries := by
  obtain ⟨before, after, heq, -⟩ := List.lookup_eq_some_iff.1 h
  rw [heq]
  exact List.mem_append_right _ List.mem_cons_self

end OrderedMap

/-! ## Agreement -/

/-- **Two interfaces agree** if they bind no builtin differently. -/
def Interface.Agrees (i j : Interface) : Prop :=
  ∀ builtin x y, i.exports.builtins.get? builtin = some x →
    j.exports.builtins.get? builtin = some y → x = y

/-- An interface agrees with itself. -/
theorem Interface.agrees_refl (i : Interface) : i.Agrees i := by
  intro builtin x y hx hy
  rw [hx] at hy
  exact Option.some.inj hy

theorem Interface.Agrees.symm {i j : Interface} (h : i.Agrees j) : j.Agrees i :=
  fun builtin x y hx hy => (h builtin y x hy hx).symm

namespace ImportedScope

variable {s s' : ImportedScope} {i j : Interface}

/-- **A scope is coherent** if its contributions agree with one another. -/
def Coherent (s : ImportedScope) : Prop :=
  ∀ i ∈ s.contributions, ∀ j ∈ s.contributions, i.Agrees j

theorem coherent_empty : (∅ : ImportedScope).Coherent := nofun

/-- Of the last contribution the entries count. -/
theorem get?_unionOf_append {α : Type} (table : Exports → OrderedMap α)
    (contributions : List Interface) (last : Interface) (key : String) :
    ((unionOf ⟨contributions ++ [last]⟩ table).get? key)
      = ((table last.exports).get? key).or ((unionOf ⟨contributions⟩ table).get? key) := by
  unfold unionOf
  rw [List.foldl_append]
  exact OrderedMap.get?_union _ _ _

/-- What a union holds is held by the table of a contribution. -/
theorem exists_of_get?_unionOf {α : Type} {table : Exports → OrderedMap α} {key : String} {x : α}
    (h : (s.unionOf table).get? key = some x) :
    ∃ i ∈ s.contributions, (table i.exports).get? key = some x := by
  obtain ⟨contributions⟩ := s
  induction contributions using List.reverseRecOn with
  | nil => contradiction
  | append_singleton init last ih =>
    rw [get?_unionOf_append] at h
    obtain hlast | ⟨-, hinit⟩ := Option.or_eq_some_iff.1 h
    · exact ⟨last, List.mem_append_right _ (List.mem_singleton_self _), hlast⟩
    · obtain ⟨i, hi, hbound⟩ := ih hinit
      exact ⟨i, List.mem_append_left _ hi, hbound⟩

/-- **A coherent scope shows every binding** of its contributions. -/
theorem Coherent.get?_builtins (hs : s.Coherent) (hi : i ∈ s.contributions) {builtin x : String}
    (h : i.exports.builtins.get? builtin = some x) : s.builtins.get? builtin = some x := by
  obtain ⟨contributions⟩ := s
  induction contributions using List.reverseRecOn with
  | nil => exact absurd hi List.not_mem_nil
  | append_singleton init last ih =>
    unfold builtins
    rw [get?_unionOf_append]
    cases hlast : last.exports.builtins.get? builtin with
    | some y =>
      have hmem : last ∈ init ++ [last] := List.mem_append_right _ (List.mem_singleton_self _)
      rw [hs last hmem i hi builtin y x hlast h]
      rfl
    | none =>
      rw [Option.none_or]
      obtain hinit | hi := List.mem_append.1 hi
      · have hs' : Coherent ⟨init⟩ := fun a ha b hb =>
          hs a (List.mem_append_left _ ha) b (List.mem_append_left _ hb)
        exact ih hs' hinit
      · rw [List.mem_singleton.1 hi, hlast] at h
        contradiction

/-- An interface is in nobody's way if it agrees with every contribution. -/
theorem conflict?_eq_none (h : ∀ j ∈ s.contributions, j.Agrees i) : s.conflict? i = none := by
  unfold conflict?
  refine List.findSome?_eq_none_iff.2 fun e he => ?_
  split
  · rename_i existing hexisting
    obtain ⟨j, hj, hbound⟩ := exists_of_get?_unionOf hexisting
    exact if_pos (h j hj e.1 existing e.2 hbound (OrderedMap.get?_of_mem he))
  · rfl

/-- **To a coherent scope an interface can be added just if it agrees with every contribution.** -/
theorem conflict?_eq_none_iff (hs : s.Coherent) :
    s.conflict? i = none ↔ ∀ j ∈ s.contributions, j.Agrees i := by
  refine ⟨fun h j hj builtin x y hx hy => ?_, conflict?_eq_none⟩
  unfold conflict? at h
  have hentry := List.findSome?_eq_none_iff.1 h _ (OrderedMap.mem_of_get? hy)
  dsimp only at hentry
  rw [hs.get?_builtins hj hx] at hentry
  dsimp only at hentry
  split at hentry
  · assumption
  · contradiction

/-! ## Merging -/

/-- A merge that succeeds adds the interface, unless its module has been merged before. -/
theorem merge_eq_ok (h : s.merge i = .ok s') :
    (s.contains i.name = true ∧ s' = s) ∨
      (s.conflict? i = none ∧ s' = ⟨s.contributions ++ [i]⟩) := by
  unfold merge at h
  split at h
  · rename_i hcontains
    exact .inl ⟨hcontains, (Except.ok.inj h).symm⟩
  · split at h
    · contradiction
    · rename_i hfree
      exact .inr ⟨hfree, (Except.ok.inj h).symm⟩

/-- A merge that fails fails on a builtin. -/
theorem merge_eq_error {e : LoadError} (h : s.merge i = .error e) :
    ∃ builtin existing conflicting, e = .duplicateBuiltinBinding builtin existing conflicting
      i.name := by
  unfold merge at h
  split at h
  · contradiction
  · split at h
    · exact ⟨_, _, _, (Except.error.inj h).symm⟩
    · contradiction

/-- What agrees with every contribution can be merged. -/
theorem exists_merge_eq_ok (h : ∀ j ∈ s.contributions, j.Agrees i) : ∃ s', s.merge i = .ok s' := by
  by_cases hcontains : s.contains i.name = true
  · exact ⟨s, merge_of_contains hcontains⟩
  · exact ⟨_, merge_of_not_contains hcontains (conflict?_eq_none h)⟩

/-- What has been merged is one of the contributions, or it was merged before. -/
theorem mem_of_merge (h : s.merge i = .ok s') (hj : j ∈ s'.contributions) :
    j ∈ s.contributions ∨ j = i := by
  obtain ⟨-, rfl⟩ | ⟨-, rfl⟩ := merge_eq_ok h
  · exact .inl hj
  · exact (List.mem_append.1 hj).imp_right List.mem_singleton.1

/-- Contributions stay. -/
theorem mem_merge (h : s.merge i = .ok s') (hj : j ∈ s.contributions) : j ∈ s'.contributions := by
  obtain ⟨-, rfl⟩ | ⟨-, rfl⟩ := merge_eq_ok h
  · exact hj
  · exact List.mem_append_left _ hj

/-- After a merge the module of the interface has contributed. -/
theorem exists_of_merge (h : s.merge i = .ok s') : ∃ j ∈ s'.contributions, j.name = i.name := by
  obtain ⟨hcontains, rfl⟩ | ⟨-, rfl⟩ := merge_eq_ok h
  · obtain ⟨j, hj, hname⟩ := List.any_eq_true.1 hcontains
    exact ⟨j, hj, beq_iff_eq.1 hname⟩
  · exact ⟨i, List.mem_append_right _ (List.mem_singleton_self _), rfl⟩

/-- **Merging keeps a scope coherent.** -/
theorem Coherent.merge (hs : s.Coherent) (h : s.merge i = .ok s') : s'.Coherent := by
  obtain ⟨-, rfl⟩ | ⟨hfree, rfl⟩ := merge_eq_ok h
  · exact hs
  · have hall := (conflict?_eq_none_iff hs).1 hfree
    intro a ha b hb
    obtain ha | ha := List.mem_append.1 ha
    · obtain hb | hb := List.mem_append.1 hb
      · exact hs a ha b hb
      · exact List.mem_singleton.1 hb ▸ hall a ha
    · obtain rfl := List.mem_singleton.1 ha
      obtain hb | hb := List.mem_append.1 hb
      · exact (hall b hb).symm
      · exact List.mem_singleton.1 hb ▸ a.agrees_refl

/-- Interfaces can be merged one after another if the first one can, and then the others. -/
theorem foldlM_merge_cons {rest : List Interface} :
    (i :: rest).foldlM merge s = .ok s' ↔
      ∃ s₁, s.merge i = .ok s₁ ∧ rest.foldlM merge s₁ = .ok s' := by
  rw [List.foldlM_cons]
  constructor
  · intro h
    cases hmerge : s.merge i with
    | error e => rw [hmerge] at h; contradiction
    | ok s₁ => exact ⟨s₁, rfl, by rwa [hmerge] at h⟩
  · rintro ⟨s₁, hmerge, h⟩
    rw [hmerge]
    exact h

/-- **Merging one interface after another** keeps a scope coherent, and each module contributes. -/
theorem foldlM_merge_eq_ok {interfaces : List Interface} (hs : s.Coherent)
    (h : interfaces.foldlM merge s = .ok s') :
    s'.Coherent ∧ (∀ j ∈ s.contributions, j ∈ s'.contributions) ∧
      (∀ j ∈ s'.contributions, j ∈ s.contributions ∨ j ∈ interfaces) ∧
      ∀ i ∈ interfaces, ∃ j ∈ s'.contributions, j.name = i.name := by
  induction interfaces generalizing s with
  | nil =>
    obtain rfl := Except.ok.inj h
    exact ⟨hs, fun _ => id, fun _ => .inl, nofun⟩
  | cons i rest ih =>
    obtain ⟨s₁, hmerge, h⟩ := foldlM_merge_cons.1 h
    obtain ⟨hs', hkept, hmem, hnames⟩ := ih (hs.merge hmerge) h
    refine ⟨hs', fun j hj => hkept j (mem_merge hmerge hj), fun j hj => ?_, fun k hk => ?_⟩
    · obtain hj | hj := hmem j hj
      · obtain hj | rfl := mem_of_merge hmerge hj
        · exact .inl hj
        · exact .inr List.mem_cons_self
      · exact .inr (List.mem_cons_of_mem _ hj)
    · obtain rfl | hk := List.mem_cons.1 hk
      · obtain ⟨j, hj, hname⟩ := exists_of_merge hmerge
        exact ⟨j, hkept j hj, hname⟩
      · exact hnames k hk

/-- Interfaces that agree with one another can be merged one after another. -/
theorem exists_foldlM_merge_eq_ok {interfaces : List Interface}
    (h : ∀ i, i ∈ s.contributions ∨ i ∈ interfaces → ∀ j ∈ interfaces, i.Agrees j) :
    ∃ s', interfaces.foldlM merge s = .ok s' := by
  induction interfaces generalizing s with
  | nil => exact ⟨s, rfl⟩
  | cons i rest ih =>
    obtain ⟨s₁, hmerge⟩ := exists_merge_eq_ok fun j hj => h j (.inl hj) i List.mem_cons_self
    obtain ⟨s', hrest⟩ := ih (s := s₁) fun a ha b hb => by
      refine h a ?_ b (List.mem_cons_of_mem _ hb)
      obtain ha | ha := ha
      · obtain ha | rfl := mem_of_merge hmerge ha
        · exact .inl ha
        · exact .inr List.mem_cons_self
      · exact .inr (List.mem_cons_of_mem _ ha)
    exact ⟨s', foldlM_merge_cons.2 ⟨s₁, hmerge, hrest⟩⟩

/-- If interfaces cannot be merged one after another, one of them cannot be merged after those
before it. -/
theorem foldlM_merge_eq_error {interfaces : List Interface} {e : LoadError}
    (h : interfaces.foldlM merge s = .error e) :
    ∃ before z after merged, interfaces = before ++ z :: after ∧
      before.foldlM merge s = .ok merged ∧ merged.merge z = .error e := by
  induction interfaces generalizing s with
  | nil => contradiction
  | cons i rest ih =>
    rw [List.foldlM_cons] at h
    cases hmerge : s.merge i with
    | error e' =>
      rw [hmerge] at h
      exact ⟨[], i, rest, s, rfl, rfl, hmerge.trans (congrArg _ (Except.error.inj h))⟩
    | ok s₁ =>
      rw [hmerge] at h
      obtain ⟨before, z, after, merged, rfl, hbefore, hz⟩ := ih h
      exact ⟨i :: before, z, after, merged, rfl, foldlM_merge_cons.2 ⟨s₁, hmerge, hbefore⟩, hz⟩

/-- Nothing is merged at first. -/
theorem not_contains_empty (module : ModuleName) :
    ¬ (∅ : ImportedScope).contains module = true := nofun

/-! ## Following imports -/

/-- What is reached from pending interfaces has a property that passes to settled imports. -/
theorem of_mem_reach {visited : VisitedCache} {p : Interface → Prop}
    (hp : ∀ i, p i → ∀ j ∈ settledImports visited i, p j) {unseen : List ModuleName}
    {pending : List Interface} (hpending : ∀ i ∈ pending, p i)
    (h : j ∈ reach visited s unseen pending) : p j := by
  fun_induction reach visited s unseen pending with
  | case1 => exact absurd h List.not_mem_nil
  | case2 unseen i pending _ ih =>
    have hi := hpending i List.mem_cons_self
    obtain rfl | h := List.mem_cons.1 h
    · exact hi
    · refine ih (fun k hk => ?_) h
      obtain hk | hk := List.mem_append.1 hk
      · exact hp i hi k hk
      · exact hpending k (List.mem_cons_of_mem _ hk)
  | case3 unseen i pending _ ih => exact ih (fun k hk => hpending k (List.mem_cons_of_mem _ hk)) h

/-- **Whatever is pending is reached, and what is reached leads on to its settled imports**, as long
as their names have not been seen and are not merged yet. -/
theorem exists_mem_reach (visited : VisitedCache) (s : ImportedScope) (unseen : List ModuleName)
    (pending : List Interface) :
    (∀ i ∈ pending, i.name ∈ unseen → ¬ s.contains i.name = true →
      ∃ j ∈ reach visited s unseen pending, j.name = i.name) ∧
    ∀ i ∈ reach visited s unseen pending, ∀ k ∈ settledImports visited i, k.name ∈ unseen →
      ¬ s.contains k.name = true → ∃ j ∈ reach visited s unseen pending, j.name = k.name := by
  fun_induction reach visited s unseen pending with
  | case1 => exact ⟨nofun, nofun⟩
  | case2 unseen i pending hnew ih =>
    obtain ⟨hpending, hclosed⟩ := ih
    -- A name that is not struck is dealt with later, and the other one is entered now.
    have hlater : ∀ k, (k ∈ settledImports visited i ++ pending) → k.name ∈ unseen →
        ¬ s.contains k.name = true →
        ∃ j ∈ i :: reach visited s (strike i.name unseen) (settledImports visited i ++ pending),
          j.name = k.name := by
      intro k hk hunseen hfree
      by_cases hname : k.name = i.name
      · exact ⟨i, List.mem_cons_self, hname.symm⟩
      · obtain ⟨j, hj, heq⟩ :=
          hpending k hk (List.mem_filter.2 ⟨hunseen, by simpa using hname⟩) hfree
        exact ⟨j, List.mem_cons_of_mem _ hj, heq⟩
    refine ⟨fun k hk hunseen hfree => ?_, fun k hk l hl hunseen hfree => ?_⟩
    · obtain rfl | hk := List.mem_cons.1 hk
      · exact ⟨k, List.mem_cons_self, rfl⟩
      · exact hlater k (List.mem_append_right _ hk) hunseen hfree
    · obtain rfl | hk := List.mem_cons.1 hk
      · exact hlater l (List.mem_append_left _ hl) hunseen hfree
      · by_cases hname : l.name = i.name
        · exact ⟨i, List.mem_cons_self, hname.symm⟩
        · obtain ⟨j, hj, heq⟩ :=
            hclosed k hk l hl (List.mem_filter.2 ⟨hunseen, by simpa using hname⟩) hfree
          exact ⟨j, List.mem_cons_of_mem _ hj, heq⟩
  | case3 unseen i pending hold ih =>
    refine ⟨fun k hk hunseen hfree => ?_, ih.2⟩
    obtain rfl | hk := List.mem_cons.1 hk
    · exact absurd ⟨hunseen, hfree⟩ hold
    · exact ih.1 k hk hunseen hfree

/-- The settled imports of an interface are settled. -/
theorem mem_settledImports {visited : VisitedCache} :
    j ∈ settledImports visited i ↔
      ∃ e ∈ i.imports, ∃ entry, visited.get? e.1 = some entry ∧ entry.interface = j := by
  unfold settledImports
  simp only [List.mem_reverse, List.mem_filterMap, Option.map_eq_some_iff]

/-- The name of a settled import can be reached. -/
theorem name_mem_reachable {visited : VisitedCache} {k : Interface}
    (h : k ∈ settledImports visited j) (i : Interface) : k.name ∈ reachable visited i := by
  obtain ⟨e, -, entry, hget, rfl⟩ := mem_settledImports.1 h
  obtain ⟨before, after, heq, -⟩ := List.lookup_eq_some_iff.1 hget
  refine List.mem_cons_of_mem _ (List.mem_map.2 ⟨(e.1, entry), ?_, rfl⟩)
  rw [heq]
  exact List.mem_append_right _ List.mem_cons_self

open Relation

/-- One interface leads to another along settled imports. -/
abbrev LeadsTo (visited : VisitedCache) : Interface → Interface → Prop :=
  ReflTransGen fun i j => j ∈ settledImports visited i

variable {visited : VisitedCache}

/-- What is reached from an interface it leads to. -/
theorem leadsTo_of_mem_reach {unseen : List ModuleName} (h : j ∈ reach visited s unseen [i]) :
    LeadsTo visited i j := by
  refine of_mem_reach (p := LeadsTo visited i) (fun a ha b hb => ha.tail hb) (fun a ha => ?_) h
  rw [List.mem_singleton.1 ha]

/-- **An interface can be merged with everything that it leads to**, if all of that agrees. -/
theorem mergeWithImports_eq_ok
    (hagree : ∀ j k, LeadsTo visited i j → LeadsTo visited i k → j.Agrees k) :
    ∃ s, (∅ : ImportedScope).mergeWithImports visited i = .ok s := by
  refine exists_foldlM_merge_eq_ok fun j hj k hk =>
    hagree j k ?_ (leadsTo_of_mem_reach (List.mem_reverse.1 hk))
  obtain hj | hj := hj
  · exact absurd hj List.not_mem_nil
  · exact leadsTo_of_mem_reach (List.mem_reverse.1 hj)

/-- **Merged with everything that an interface leads to, the scope holds just that**, if names tell
these interfaces apart. -/
theorem mem_mergeWithImports_iff
    (hunique : ∀ j k, LeadsTo visited i j → LeadsTo visited i k → j.name = k.name → j = k)
    (h : (∅ : ImportedScope).mergeWithImports visited i = .ok s) :
    j ∈ s.contributions ↔ LeadsTo visited i j := by
  obtain ⟨-, -, hmem, hnames⟩ := foldlM_merge_eq_ok coherent_empty h
  obtain ⟨hpending, hclosed⟩ := exists_mem_reach visited ∅ (reachable visited i) [i]
  have hleads : ∀ k ∈ s.contributions, LeadsTo visited i k := by
    intro k hk
    obtain hnone | hreach := hmem k hk
    · exact absurd hnone List.not_mem_nil
    · exact leadsTo_of_mem_reach (List.mem_reverse.1 hreach)
  refine ⟨hleads j, fun hj => ?_⟩
  have hreached : j ∈ reach visited ∅ (reachable visited i) [i] := by
    induction hj with
    | refl =>
      obtain ⟨j, hj, hname⟩ :=
        hpending i (List.mem_singleton_self i) List.mem_cons_self (not_contains_empty _)
      exact hunique j i (leadsTo_of_mem_reach hj) .refl hname ▸ hj
    | tail ha hb ih =>
      obtain ⟨j, hj, hname⟩ :=
        hclosed _ ih _ hb (name_mem_reachable hb i) (not_contains_empty _)
      exact hunique j _ (leadsTo_of_mem_reach hj) (ha.tail hb) hname ▸ hj
  obtain ⟨k, hk, hname⟩ := hnames j (List.mem_reverse.2 hreached)
  exact hunique k j (hleads k hk) hj hname ▸ hk

/-- A merge of an interface and what it imports fails on a builtin, if it fails. -/
theorem mergeWithImports_eq_error {e : LoadError} (h : s.mergeWithImports visited i = .error e) :
    ∃ builtin existing conflicting module,
      e = .duplicateBuiltinBinding builtin existing conflicting module := by
  obtain ⟨_, i, _, merged, -, -, hmerge⟩ := foldlM_merge_eq_error h
  obtain ⟨builtin, existing, conflicting, heq⟩ := merge_eq_error hmerge
  exact ⟨builtin, existing, conflicting, i.name, heq⟩

/-- **All that an interface leads to agrees, if the interface could be merged with it**, and names
tell these interfaces apart. -/
theorem agrees_of_mergeWithImports
    (hunique : ∀ j k, LeadsTo visited i j → LeadsTo visited i k → j.name = k.name → j = k)
    (h : (∅ : ImportedScope).mergeWithImports visited i = .ok s) {j k : Interface}
    (hj : LeadsTo visited i j) (hk : LeadsTo visited i k) : j.Agrees k := by
  obtain ⟨hcoherent, -⟩ := foldlM_merge_eq_ok coherent_empty h
  exact hcoherent j ((mem_mergeWithImports_iff hunique h).2 hj) k
    ((mem_mergeWithImports_iff hunique h).2 hk)

end ImportedScope

end ModuleLoader
