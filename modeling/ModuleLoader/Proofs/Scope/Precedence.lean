import Mathlib.Data.List.Basic
import ModuleLoader.Proofs.Scope.Tour

/-!
# Imports before importers

When a reused interface is merged with what it imports, imports should come before their importers:
then an importer has the last word on a key that it shares with an import, and it is the importer
that is blamed if the two bind a builtin differently. The order in which the search enters
interfaces, reversed, does not always have this property.

The search enters what a tour through the imports meets, in the order of the first times. So the
order of merging is the right one just if the tour never meets an interface before it has met all of
its importers (`ImportedScope.inOrder_mergeOrder_iff`). That is so if nothing is shared, but not if
the tour comes to a shared import before it comes to all of those that share it.
-/

namespace ModuleLoader

namespace ImportedScope

open Relation

variable {visited : VisitedCache} {s s' : ImportedScope} {i j k : Interface}
  {unseen : List ModuleName} {pending tour : List Interface}

/-! ## Imports before importers -/

/-- **Imports come before importers** in an order of interfaces. -/
def InOrder (visited : VisitedCache) (order : List Interface) : Prop :=
  order.Pairwise fun earlier later => later ∉ settledImports visited earlier

/-- **A tour meets importers first**: whenever it meets an interface, it has met all of its
importers already, of those that it meets at all. -/
def ImportersFirst (visited : VisitedCache) (tour : List Interface) : Prop :=
  ∀ before y after, tour = before ++ y :: after → ∀ x ∈ tour, y ∈ settledImports visited x →
    x ∈ before

/-- **Imports come before importers just if the tour meets importers first.** -/
theorem Tours.inOrder_iff (hacyclic : Acyclic visited i) (hnamed : visited.Named)
    (h : Tours visited s [i] tour) :
    InOrder visited (s.mergeOrder visited i) ↔ ImportersFirst visited tour := by
  unfold InOrder
  rw [← List.reverse_reverse (s.mergeOrder visited i), List.pairwise_reverse,
    reverse_mergeOrder hacyclic hnamed h]
  constructor
  · rintro horder before y after rfl x hx hxy
    by_contra hnot
    have hx' := h.mem_firsts hacyclic hnamed hx
    have hy' := h.mem_firsts hacyclic hnamed (List.mem_append_right _ List.mem_cons_self)
    rw [firsts_append] at horder hx' hy'
    obtain ⟨-, hlater, hcross⟩ := List.pairwise_append.1 horder
    -- The importer is met for the first time when the import has been met already.
    have hxlater := (List.mem_append.1 hx').resolve_left fun hmem => hnot (mem_of_mem_firsts hmem).1
    obtain hyearlier | hylater := List.mem_append.1 hy'
    · exact hcross y hyearlier x hxlater hxy
    · have hyfirst := (mem_of_mem_firsts hylater).2
      rw [firsts_cons_of_mem hyfirst] at hlater hxlater
      obtain rfl | hxlater := List.mem_cons.1 hxlater
      · exact hacyclic.not_mem_settledImports (h.leadsTo_of_start hx) hxy
      · exact (List.pairwise_cons.1 hlater).1 x hxlater hxy
  · intro hfirst
    refine (pairwise_firsts _ _).imp_of_mem ?_
    rintro a b - hbmem ⟨before, after, hsplit, hb⟩ hab
    exact hb (hfirst before a after hsplit b (mem_of_mem_firsts hbmem).1 hab)

/-- **If nothing is shared, imports come before importers.** -/
theorem Tours.importersFirst_of_nodup (h : Tours visited s pending tour) (hnodup : tour.Nodup) :
    ImportersFirst visited tour := by
  intro before y after hsplit x hx hxy
  have hy : y ∈ tour := hsplit ▸ List.mem_append_right _ List.mem_cons_self
  obtain ⟨first, last, hsplit', hlast⟩ := h.exists_split hx hxy (h.not_contains hy)
  obtain ⟨middle, last', rfl⟩ := List.append_of_mem hlast
  -- There is one place only at which the import is met, and the importer stands before it.
  have hsplits : before ++ y :: after = (first ++ x :: middle) ++ y :: last' := by
    rw [← hsplit, hsplit']
    simp
  rw [hsplit] at hnodup
  have honce := (List.nodup_cons.1 (List.nodup_middle.1 hnodup)).1
  obtain ⟨rfl, -, -⟩ := (List.append_cons_inj_of_notMem
    (fun hmem => honce (List.mem_append_left _ hmem))
    (fun hmem => honce (List.mem_append_right _ hmem))).1 hsplits
  exact List.mem_append_right _ List.mem_cons_self

/-- Whatever the search enters was pending, or is imported by what it entered before. -/
theorem exists_importer_of_reach {before after : List Interface}
    (h : reach visited s unseen pending = before ++ j :: after) :
    j ∈ pending ∨ ∃ x ∈ before, j ∈ settledImports visited x := by
  fun_induction reach visited s unseen pending generalizing before with
  | case1 => simp at h
  | case2 unseen k pending _ ih =>
    obtain ⟨rfl, heq⟩ | ⟨before', rfl, heq⟩ := List.cons_eq_append_iff.1 h
    · obtain ⟨rfl, -⟩ := List.cons.inj heq
      exact .inl List.mem_cons_self
    · obtain hmem | ⟨x, hx, hxj⟩ := ih heq
      · obtain himport | hmem := List.mem_append.1 hmem
        · exact .inr ⟨k, List.mem_cons_self, himport⟩
        · exact .inl (List.mem_cons_of_mem _ hmem)
      · exact .inr ⟨x, List.mem_cons_of_mem _ hx, hxj⟩
  | case3 unseen k pending _ ih => exact (ih h).imp_left (List.mem_cons_of_mem _)

/-- **One importer at least comes later**, whatever imports what. -/
theorem exists_importer_of_mergeOrder {before after : List Interface}
    (h : s.mergeOrder visited i = before ++ j :: after) :
    j = i ∨ ∃ x ∈ after, j ∈ settledImports visited x := by
  have hreach : reach visited s (reachable visited i) [i]
      = after.reverse ++ j :: before.reverse := by
    rw [← List.reverse_reverse (reach visited s (reachable visited i) [i])]
    show (s.mergeOrder visited i).reverse = _
    simp [h]
  obtain hmem | ⟨x, hx, hxj⟩ := exists_importer_of_reach hreach
  · exact .inl (List.mem_singleton.1 hmem)
  · exact .inr ⟨x, List.mem_reverse.1 hx, hxj⟩

/-! ## What the order decides -/

/-- A table shows what the last of the interfaces that bind a key bind it to. -/
theorem exists_last_of_unionOf {α : Type} {table : Exports → OrderedMap α} {key : String} {x : α}
    {contributions more : List Interface}
    (h : (unionOf ⟨contributions ++ more⟩ table).get? key = some x)
    (hmore : ∃ j ∈ more, ((table j.exports).get? key).isSome = true) :
    ∃ before z after, more = before ++ z :: after ∧ (table z.exports).get? key = some x ∧
      ∀ j ∈ after, (table j.exports).get? key = none := by
  induction more using List.reverseRecOn with
  | nil => simp at hmore
  | append_singleton more last ih =>
    rw [← List.append_assoc, get?_unionOf_append] at h
    cases hlast : (table last.exports).get? key with
    | some y =>
      rw [hlast] at h
      exact ⟨more, last, [], rfl, hlast.trans h, nofun⟩
    | none =>
      rw [hlast, Option.none_or] at h
      have hinit : ∃ j ∈ more, ((table j.exports).get? key).isSome = true := by
        obtain ⟨j, hj, hbound⟩ := hmore
        obtain hj | hj := List.mem_append.1 hj
        · exact ⟨j, hj, hbound⟩
        · rw [List.mem_singleton.1 hj, hlast] at hbound
          contradiction
      obtain ⟨before, z, after, rfl, hz, hafter⟩ := ih h hinit
      refine ⟨before, z, after ++ [last], by simp, hz, fun j hj => ?_⟩
      obtain hj | hj := List.mem_append.1 hj
      · exact hafter j hj
      · exact List.mem_singleton.1 hj ▸ hlast

/-- What a merge that fails is blamed on: a builtin of the interface that a contribution binds to
something else. -/
theorem of_merge_eq_error {builtin existing conflicting : String} {module : ModuleName}
    (h : s.merge i = .error (.duplicateBuiltinBinding builtin existing conflicting module)) :
    i.name = module ∧ i.exports.builtins.get? builtin = some conflicting ∧
      ∃ j ∈ s.contributions, j.exports.builtins.get? builtin = some existing := by
  unfold merge at h
  split at h
  · contradiction
  · split at h
    · rename_i hconflict
      cases h
      obtain ⟨e, he, hentry⟩ := List.exists_of_findSome?_eq_some hconflict
      split at hentry
      · rename_i bound hbound
        split at hentry
        · contradiction
        · cases hentry
          exact ⟨rfl, OrderedMap.get?_of_mem he, exists_of_get?_unionOf hbound⟩
      · contradiction
    · contradiction

/-- **Importers have the last word** on what a scope shows: of the interfaces in an order, the one
whose binding of a key counts is imported by no other one that binds the key. -/
def LastWord (visited : VisitedCache) (order : List Interface) (s : ImportedScope) : Prop :=
  ∀ (α : Type) (table : Exports → OrderedMap α) (key : String) (x : α),
    (s.unionOf table).get? key = some x →
    (∃ j ∈ order, ((table j.exports).get? key).isSome = true) →
    ∃ z ∈ order, (table z.exports).get? key = some x ∧
      ∀ j ∈ order, z ∈ settledImports visited j → (table j.exports).get? key = none

/-- **Importers are blamed**: a builtin that two interfaces in an order bind differently is held
against one that the other does not import. If the scope bound it before, that binding stands, and
the blame is with the interface that is merged. -/
def Blamed (visited : VisitedCache) (order : List Interface) (s : ImportedScope)
    (builtin existing conflicting : String) (module : ModuleName) : Prop :=
  ∃ z ∈ order, z.name = module ∧ z.exports.builtins.get? builtin = some conflicting ∧
    ∃ j, j.exports.builtins.get? builtin = some existing ∧
      (j ∈ s.contributions ∨ j ∈ order ∧ z ∉ settledImports visited j)

/-- If imports come before importers, importers have the last word. -/
theorem InOrder.lastWord {order : List Interface} (h : InOrder visited order)
    (hself : ∀ j ∈ order, j ∉ settledImports visited j) :
    LastWord visited order ⟨s.contributions ++ order⟩ := by
  intro α table key x hx hbound
  obtain ⟨before, z, after, rfl, hz, hafter⟩ := exists_last_of_unionOf hx hbound
  have hmem : z ∈ before ++ z :: after := List.mem_append_right _ List.mem_cons_self
  refine ⟨z, hmem, hz, fun j hj himports => ?_⟩
  obtain hj | hj := List.mem_append.1 hj
  · exact absurd himports ((List.pairwise_append.1 h).2.2 j hj z List.mem_cons_self)
  · obtain rfl | hj := List.mem_cons.1 hj
    · exact absurd himports (hself j hmem)
    · exact hafter j hj

/-- If imports come before importers, importers are blamed. -/
theorem InOrder.blamed {order : List Interface} (h : InOrder visited order)
    (hnames : (order.map Interface.name).Nodup) (hnew : ∀ j ∈ order, ¬ s.contains j.name = true)
    {builtin existing conflicting : String} {module : ModuleName}
    (hmerge : order.foldlM merge s
      = .error (.duplicateBuiltinBinding builtin existing conflicting module)) :
    Blamed visited order s builtin existing conflicting module := by
  obtain ⟨before, z, after, merged, rfl, hbefore, hz⟩ := foldlM_merge_eq_error hmerge
  rw [List.map_append] at hnames
  obtain rfl := eq_of_foldlM_merge (List.nodup_append.1 hnames).1
    (fun j hj => hnew j (List.mem_append_left _ hj)) hbefore
  obtain ⟨hname, hconflicting, j, hj, hexisting⟩ := of_merge_eq_error hz
  refine ⟨z, List.mem_append_right _ List.mem_cons_self, hname, hconflicting, j, hexisting, ?_⟩
  refine (List.mem_append.1 hj).imp_right fun hj => ⟨List.mem_append_left _ hj, ?_⟩
  exact (List.pairwise_append.1 h).2.2 j hj z List.mem_cons_self

/-- **When imports are merged before their importers.** Let settled imports lead in no circle from a
reused interface. That each interface is merged after what it imports is true just if a tour through
the imports, the last ones first, never meets an interface before it has met all of its importers;
and that is so if nothing is shared. In any case one importer at least comes later.

If each is merged after what it imports, importers have the last word on what the scope shows, and
if there is a conflict, it is blamed on an interface that the other one does not import. -/
theorem inOrder_mergeOrder_iff (hnamed : visited.Named) (hacyclic : Acyclic visited i) :
    (∃ tour, Tours visited s [i] tour ∧
      (InOrder visited (s.mergeOrder visited i) ↔ ImportersFirst visited tour) ∧
      (tour.Nodup → InOrder visited (s.mergeOrder visited i))) ∧
    (∀ before j after, s.mergeOrder visited i = before ++ j :: after →
      j = i ∨ ∃ x ∈ after, j ∈ settledImports visited x) ∧
    (InOrder visited (s.mergeOrder visited i) →
      (∀ s', s.mergeWithImports visited i = .ok s' →
        LastWord visited (s.mergeOrder visited i) s') ∧
      ∀ builtin existing conflicting module, s.mergeWithImports visited i
          = .error (.duplicateBuiltinBinding builtin existing conflicting module) →
        Blamed visited (s.mergeOrder visited i) s builtin existing conflicting module) := by
  obtain ⟨tour, htour⟩ := hacyclic.exists_tours s
  have hiff := htour.inOrder_iff hacyclic hnamed
  refine ⟨⟨tour, htour, hiff, fun hnodup => hiff.2 (htour.importersFirst_of_nodup hnodup)⟩,
    fun before j after => exists_importer_of_mergeOrder, fun horder => ⟨fun s' hmerge => ?_,
    fun builtin existing conflicting module hmerge => ?_⟩⟩
  · rw [eq_of_mergeWithImports hmerge]
    exact horder.lastWord fun j hj => hacyclic.not_mem_settledImports
      (leadsTo_of_mem_reach (List.mem_reverse.1 hj))
  · exact horder.blamed (nodup_mergeOrder s visited i)
      (fun j hj => not_contains_of_mem_mergeOrder hj) hmerge

/-! ## A shared import that is met too early -/

/-- Two interfaces are settled that import a third one. The first of them and the third one have
pattern synonyms of the same name. -/
def shared : VisitedCache :=
  let settled (i : Interface) : ModuleName × VisitedEntry := (i.name, ⟨i, false, false⟩)
  ⟨[settled (sample "X" { Exports.empty with patternSynonyms := .ofList [("P", "x")] }),
    settled { sample "A" { Exports.empty with patternSynonyms := .ofList [("P", "a")] } with
      imports := [(⟨"X"⟩, .zero)] },
    settled { sample "B" .empty with imports := [(⟨"X"⟩, .zero)] }]⟩

/-- An interface that imports the first of them and then the second one. -/
def sharing : Interface :=
  { sample "M" .empty with imports := [(⟨"A"⟩, .zero), (⟨"B"⟩, .zero)] }

theorem named_shared : shared.Named := by
  intro module entry hget
  obtain ⟨before, after, heq, -⟩ := List.lookup_eq_some_iff.1 hget
  have hmem : (module, entry) ∈ shared.entries := by simp [heq]
  have hall : ∀ e ∈ shared.entries, e.2.interface.name = e.1 := by decide +kernel
  exact hall _ hmem

theorem acyclic_sharing : Acyclic shared sharing := by
  let rank (m : ModuleName) : Nat := [⟨"X"⟩, ⟨"A"⟩, ⟨"B"⟩, ⟨"M"⟩].idxOf m
  have hall : ∀ j ∈ sharing :: shared.entries.map (fun e => e.2.interface),
      ∀ k ∈ settledImports shared j, rank k.name < rank j.name := by
    decide +kernel
  exact .of_rank rank fun j hj => hall j hj.mem_cons

set_option maxRecDepth 100000 in
/-- **The first importer is merged before the import that it shares**, because the search comes to
that import by way of the second one. So it is the pattern synonym of the import that counts. -/
theorem inOrder_mergeOrder_iff_sharing : ∃ s,
    (∅ : ImportedScope).mergeWithImports shared sharing = .ok s ∧
    s.contributions.map Interface.name = [⟨"A"⟩, ⟨"X"⟩, ⟨"B"⟩, ⟨"M"⟩] ∧
    s.patternSynonyms.get? "P" = some "x" ∧
    ¬ InOrder shared ((∅ : ImportedScope).mergeOrder shared sharing) := by
  let w := (Worklist.turn shared ∅)^[5] (.start sharing)
  have hends : w.pending = [] := by decide +kernel
  have horder : (∅ : ImportedScope).mergeOrder shared sharing = w.entered.reverse :=
    Worklist.mergeOrder_eq hends
  have hrun : (w.entered.reverse.foldlM merge ∅).toOption.map (fun s =>
      (s.contributions.map Interface.name, s.patternSynonyms.get? "P"))
      = some ([⟨"A"⟩, ⟨"X"⟩, ⟨"B"⟩, ⟨"M"⟩], some "x") := by
    decide +kernel
  have hsome : ∃ j ∈ w.entered.reverse, (j.exports.patternSynonyms.get? "P").isSome = true := by
    decide +kernel
  have himporter : ∀ z ∈ w.entered.reverse, z.exports.patternSynonyms.get? "P" = some "x" →
      ∃ j ∈ w.entered.reverse, z ∈ settledImports shared j ∧
        j.exports.patternSynonyms.get? "P" ≠ none := by
    decide +kernel
  obtain ⟨s, hs, heq⟩ := Option.map_eq_some_iff.1 hrun
  obtain ⟨hnames, hshown⟩ := Prod.mk.inj heq
  have hmerge : (∅ : ImportedScope).mergeWithImports shared sharing = .ok s := by
    rw [mergeWithImports_eq_foldlM, horder]
    exact LoadError.eq_ok_of_toOption hs
  refine ⟨s, hmerge, hnames, hshown, fun hinOrder => ?_⟩
  obtain ⟨-, -, hdecides⟩ := inOrder_mergeOrder_iff named_shared acyclic_sharing
  obtain ⟨z, hz, hbound, hfree⟩ := (hdecides hinOrder).1 s hmerge String Exports.patternSynonyms "P"
    "x" hshown (horder ▸ hsome)
  rw [horder] at hz hfree
  obtain ⟨j, hj, himports, hbinds⟩ := himporter z hz hbound
  exact hbinds (hfree j hj himports)

end ImportedScope

end ModuleLoader
