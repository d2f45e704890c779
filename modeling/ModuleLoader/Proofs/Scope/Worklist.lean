import Mathlib.Data.List.Nodup
import Mathlib.Logic.Function.Iterate
import ModuleLoader.Proofs.Scope.Contribution
import ModuleLoader.Proofs.Scope.Sequence

/-!
# Following imports with a worklist

A reused interface is merged after what it imports. What that is, and in which order it comes, is
found by a search that keeps a stack of interfaces to look at and a set of names it has seen
(`Worklist`). It marks a name only when it takes an interface off the stack, so one interface can be
on the stack several times, and it looks no further where a module has been merged before.

However modules import each other, in circles even, the search comes to an end: an interface is put
on the stack only by an importer that is entered, and no name is entered twice. So the number of
turns is known, and what has been entered then is `ImportedScope.reach`
(`Worklist.turn_iterate_start`).
-/

namespace ModuleLoader

namespace ImportedScope

variable {visited : VisitedCache} {s s' : ImportedScope} {i j k : Interface}

/-! ## The order of merging -/

/-- **The order in which a reused interface and what it imports are merged.** -/
def mergeOrder (s : ImportedScope) (visited : VisitedCache) (i : Interface) : List Interface :=
  (reach visited s (reachable visited i) [i]).reverse

/-- In this order they are merged. -/
theorem mergeWithImports_eq_foldlM (s : ImportedScope) (visited : VisitedCache) (i : Interface) :
    s.mergeWithImports visited i = (s.mergeOrder visited i).foldlM merge s := rfl

/-- A name that is struck is no longer there, and the others are. -/
theorem mem_strike {m module : ModuleName} {unseen : List ModuleName} :
    m ∈ strike module unseen ↔ m ∈ unseen ∧ m ≠ module := by
  simp [strike]

/-- What is entered has a name that has not been seen and is not merged yet. -/
theorem name_of_mem_reach {unseen : List ModuleName} {pending : List Interface}
    (h : j ∈ reach visited s unseen pending) :
    j.name ∈ unseen ∧ ¬ s.contains j.name = true := by
  fun_induction reach visited s unseen pending with
  | case1 => exact absurd h List.not_mem_nil
  | case2 unseen i pending hnew ih =>
    obtain rfl | h := List.mem_cons.1 h
    · exact hnew
    · exact ⟨(mem_strike.1 (ih h).1).1, (ih h).2⟩
  | case3 unseen i pending _ ih => exact ih h

/-- **No name is entered twice.** -/
theorem nodup_reach (visited : VisitedCache) (s : ImportedScope) (unseen : List ModuleName)
    (pending : List Interface) :
    ((reach visited s unseen pending).map Interface.name).Nodup := by
  fun_induction reach visited s unseen pending with
  | case1 => exact .nil
  | case2 unseen i pending _ ih =>
    refine List.nodup_cons.2 ⟨fun hmem => ?_, ih⟩
    obtain ⟨j, hj, hname⟩ := List.mem_map.1 hmem
    exact (mem_strike.1 (name_of_mem_reach hj).1).2 hname
  | case3 _ _ _ _ ih => exact ih

/-- No module is merged twice. -/
theorem nodup_mergeOrder (s : ImportedScope) (visited : VisitedCache) (i : Interface) :
    ((s.mergeOrder visited i).map Interface.name).Nodup := by
  unfold mergeOrder
  rw [List.map_reverse, List.nodup_reverse]
  exact nodup_reach visited s _ _

/-- What has been merged before is not merged again. -/
theorem not_contains_of_mem_mergeOrder (h : j ∈ s.mergeOrder visited i) :
    ¬ s.contains j.name = true :=
  (name_of_mem_reach (List.mem_reverse.1 h)).2

/-- The interface itself comes last. -/
theorem exists_mergeOrder_eq (h : ¬ s.contains i.name = true) :
    ∃ before, s.mergeOrder visited i = before ++ [i] := by
  unfold mergeOrder reach
  rw [if_pos ⟨List.mem_cons_self, h⟩, List.reverse_cons]
  exact ⟨_, rfl⟩

/-- What an interface imports is merged with it, or has been merged before. -/
theorem mem_mergeOrder_of_settledImports (hj : j ∈ s.mergeOrder visited i)
    (hk : k ∈ settledImports visited j) (hnew : ¬ s.contains k.name = true) :
    ∃ l ∈ s.mergeOrder visited i, l.name = k.name := by
  obtain ⟨l, hl, hname⟩ := (exists_mem_reach visited s (reachable visited i) [i]).2 j
    (List.mem_reverse.1 hj) k hk (name_mem_reachable hk i) hnew
  exact ⟨l, List.mem_reverse.2 hl, hname⟩

/-- **A reused interface and what it imports go to the end of the contributions** in this order. -/
theorem eq_of_mergeWithImports (h : s.mergeWithImports visited i = .ok s') :
    s' = ⟨s.contributions ++ s.mergeOrder visited i⟩ :=
  eq_of_foldlM_merge (nodup_mergeOrder s visited i) (fun _ => not_contains_of_mem_mergeOrder) h

end ImportedScope

open ImportedScope

/-! ## The search, turn by turn -/

/-- **A search that follows imports.** -/
structure Worklist where
  /-- The interfaces to look at, the next one first. -/
  pending : List Interface
  /-- The names that have been seen. -/
  seen : List ModuleName
  /-- The interfaces that have been entered, in this order. -/
  entered : List Interface
  deriving DecidableEq

namespace Worklist

variable {visited : VisitedCache} {s : ImportedScope}

/-- A search that has to look at one interface. -/
def start (i : Interface) : Worklist := ⟨[i], [], []⟩

/-- **One turn of the search.** The next interface is marked as seen. Unless it had been seen or has
been merged before, it is entered, and its settled imports are to be looked at first. -/
def turn (visited : VisitedCache) (s : ImportedScope) : Worklist → Worklist
  | ⟨[], seen, entered⟩ => ⟨[], seen, entered⟩
  | ⟨i :: pending, seen, entered⟩ =>
    if i.name ∈ seen ∨ s.contains i.name = true then ⟨pending, i.name :: seen, entered⟩
    else ⟨settledImports visited i ++ pending, i.name :: seen, entered ++ [i]⟩

/-- The number of turns for as many pending interfaces and all that is entered on their account: one
for each interface that has been put on the stack. -/
def turns (visited : VisitedCache) (pending entered : List Interface) : Nat :=
  pending.length + (entered.flatMap (settledImports visited)).length

/-- It does not depend on the order. -/
theorem turns_reverse (visited : VisitedCache) (pending entered : List Interface) :
    turns visited pending entered.reverse = turns visited pending entered :=
  congrArg (pending.length + ·) ((List.reverse_perm entered).flatMap_right _).length_eq

/-- One turn is for the next interface. -/
theorem turns_cons (i : Interface) (pending entered : List Interface) :
    turns visited (i :: pending) entered = turns visited pending entered + 1 := by
  simp only [turns, List.length_cons]
  omega

/-- When that is entered, its imports are put on the stack. -/
theorem turns_cons_cons (i : Interface) (pending entered : List Interface) :
    turns visited (i :: pending) (i :: entered)
      = turns visited (settledImports visited i ++ pending) entered + 1 := by
  simp only [turns, List.length_cons, List.length_append, List.flatMap_cons]
  omega

/-- **The search comes to an end**, and has entered then what is reached. The names that count as
not seen are those that the search has not seen, as far as they can occur and are not merged. -/
theorem turn_iterate {unseen names : List ModuleName} {w : Worklist}
    (hpending : ∀ i ∈ w.pending, i.name ∈ names)
    (hnames : ∀ i, ∀ j ∈ settledImports visited i, j.name ∈ names)
    (hunseen : ∀ name ∈ names, ¬ s.contains name = true → (name ∈ unseen ↔ name ∉ w.seen)) :
    ∃ seen, (turn visited s)^[turns visited w.pending (reach visited s unseen w.pending)] w
      = ⟨[], seen, w.entered ++ reach visited s unseen w.pending⟩ := by
  obtain ⟨pending, seen, entered⟩ := w
  dsimp only at hpending hunseen ⊢
  fun_induction reach visited s unseen pending generalizing seen entered with
  | case1 => exact ⟨seen, by simp [turns]⟩
  | case2 unseen i pending hnew ih =>
    have hfresh : ¬ (i.name ∈ seen ∨ s.contains i.name = true) := by
      have hi := hunseen i.name (hpending i List.mem_cons_self) hnew.2
      exact not_or.2 ⟨hi.1 hnew.1, hnew.2⟩
    obtain ⟨final, hfinal⟩ := ih (i.name :: seen) (entered ++ [i])
      (fun j hj => (List.mem_append.1 hj).elim (hnames i j) fun hj =>
        hpending j (List.mem_cons_of_mem _ hj))
      (fun name hname hfree => by
        rw [mem_strike, hunseen name hname hfree, List.mem_cons, not_or, and_comm])
    refine ⟨final, ?_⟩
    rw [turns_cons_cons, Function.iterate_succ_apply, turn, if_neg hfresh, hfinal]
    simp
  | case3 unseen i pending hold ih =>
    have hskip : i.name ∈ seen ∨ s.contains i.name = true := by
      by_contra hnone
      obtain ⟨hseen, hfree⟩ := not_or.1 hnone
      exact hold ⟨(hunseen i.name (hpending i List.mem_cons_self) hfree).2 hseen, hfree⟩
    obtain ⟨final, hfinal⟩ := ih (i.name :: seen) entered
      (fun j hj => hpending j (List.mem_cons_of_mem _ hj))
      (fun name hname hfree => by
        rw [hunseen name hname hfree, List.mem_cons, not_or]
        refine ⟨fun hseen => ⟨?_, hseen⟩, And.right⟩
        rintro rfl
        exact hskip.elim hseen hfree)
    refine ⟨final, ?_⟩
    rw [turns_cons, Function.iterate_succ_apply, turn, if_pos hskip, hfinal]

/-- **Whatever imports what, the search for what an interface brings in comes to an end**, after one
turn for the interface and one for each import of what is merged. What has been entered then is
merged in the opposite order. -/
theorem turn_iterate_start (visited : VisitedCache) (s : ImportedScope) (i : Interface) :
    ∃ seen, (turn visited s)^[turns visited [i] (s.mergeOrder visited i)] (start i)
      = ⟨[], seen, (s.mergeOrder visited i).reverse⟩ := by
  rw [mergeOrder, turns_reverse, List.reverse_reverse]
  have hpending : ∀ j ∈ (start i).pending, j.name ∈ reachable visited i := fun j hj =>
    List.mem_singleton.1 hj ▸ List.mem_cons_self
  exact turn_iterate hpending (fun j k hk => name_mem_reachable hk i)
    fun name hname _ => iff_of_true hname List.not_mem_nil

/-- When nothing is pending, nothing happens any more. -/
theorem turn_iterate_nil (n : Nat) (seen : List ModuleName) (entered : List Interface) :
    (turn visited s)^[n] ⟨[], seen, entered⟩ = ⟨[], seen, entered⟩ :=
  Function.iterate_fixed rfl n

/-- **The order of merging can be read off the search** when nothing is pending, after whatever
number of turns. -/
theorem mergeOrder_eq {i : Interface} {n : Nat}
    (h : ((turn visited s)^[n] (start i)).pending = []) :
    s.mergeOrder visited i = ((turn visited s)^[n] (start i)).entered.reverse := by
  obtain ⟨seen, hends⟩ := turn_iterate_start visited s i
  have hboth := Function.iterate_add_apply (turn visited s) n
    (turns visited [i] (s.mergeOrder visited i)) (start i)
  rw [hends, turn_iterate_nil, Nat.add_comm, Function.iterate_add_apply] at hboth
  cases hstop : (turn visited s)^[n] (start i) with
  | mk pending seen' entered =>
    rw [hstop] at h hboth
    obtain rfl : pending = [] := h
    rw [turn_iterate_nil] at hboth
    rw [(Worklist.mk.inj hboth).2.2, List.reverse_reverse]

end Worklist

end ModuleLoader
