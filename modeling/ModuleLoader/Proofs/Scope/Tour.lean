import Mathlib.Data.Fintype.Card
import Mathlib.Data.Set.Finite.List
import ModuleLoader.Proofs.Scope.Worklist

/-!
# Tours through imports

Where imports lead in no circle, one can follow all of them at leisure, with what an interface
imports visited anew each time that it is met (`ImportedScope.Tours`). There are finitely many
interfaces to meet, so the tour comes to an end (`ImportedScope.Acyclic.exists_tours`).

The search that collects what a reused interface brings in is in a hurry and passes over what it has
seen before. It loses nothing by that, as what it has seen it has followed to the end. So it enters
just what the tour meets, in the order of the first times (`ImportedScope.reverse_mergeOrder`).
-/

namespace ModuleLoader

namespace ImportedScope

open Relation

variable {visited : VisitedCache} {s s' : ImportedScope} {i j k : Interface}
  {unseen : List ModuleName} {pending tour : List Interface}

/-! ## Imports that lead in no circle -/

/-- What an interface leads to is the interface or settled. -/
theorem LeadsTo.mem_cons (h : LeadsTo visited i j) :
    j ∈ i :: visited.entries.map fun e => e.2.interface := by
  obtain rfl | ⟨a, -, hb⟩ := ReflTransGen.cases_tail h
  · exact List.mem_cons_self
  · obtain ⟨e, -, entry, hget, rfl⟩ := mem_settledImports.1 hb
    obtain ⟨before, after, heq, -⟩ := List.lookup_eq_some_iff.1 hget
    exact List.mem_cons_of_mem _ (List.mem_map.2 ⟨(e.1, entry), by simp [heq], rfl⟩)

/-- **Settled imports lead in no circle**, as far as they are followed from an interface. -/
def Acyclic (visited : VisitedCache) (i : Interface) : Prop :=
  ∀ j k, LeadsTo visited i j → TransGen (fun a b => b ∈ settledImports visited a) j k →
    k.name ≠ j.name

/-- Imports lead in no circle if some number gets smaller at each step. -/
theorem Acyclic.of_rank (rank : ModuleName → Nat)
    (h : ∀ j, LeadsTo visited i j → ∀ k ∈ settledImports visited j, rank k.name < rank j.name) :
    Acyclic visited i := by
  intro j k hj hpath
  have hlt : rank k.name < rank j.name := by
    induction hpath with
    | single hk => exact h j hj _ hk
    | @tail k l hpath hl ih =>
      exact (h k (hj.trans hpath.to_reflTransGen) l hl).trans ih
  exact fun hname => Nat.lt_irrefl _ (hname ▸ hlt)

/-- Where imports lead in no circle, what an interface leads to is told apart by names. -/
theorem Acyclic.eq_of_name (h : Acyclic visited i) (hnamed : visited.Named)
    (hj : LeadsTo visited i j) (hk : LeadsTo visited i k) (hname : j.name = k.name) : j = k := by
  obtain rfl | ⟨entry, hget, rfl⟩ := settled_of_leadsTo hnamed hj
  · obtain heq | hpath := reflTransGen_iff_eq_or_transGen.1 hk
    · exact heq.symm
    · exact absurd hname.symm (h j k .refl hpath)
  · obtain rfl | ⟨entry', hget', rfl⟩ := settled_of_leadsTo hnamed hk
    · obtain heq | hpath := reflTransGen_iff_eq_or_transGen.1 hj
      · exact heq
      · exact absurd hname (h _ _ .refl hpath)
    · rw [hname, hget'] at hget
      rw [Option.some.inj hget]

/-- No interface imports itself then. -/
theorem Acyclic.not_mem_settledImports (h : Acyclic visited i) (hj : LeadsTo visited i j) :
    j ∉ settledImports visited j :=
  fun hmem => h j j hj (.single hmem) rfl

/-! ## Tours -/

/-- **A tour through pending interfaces**: each is met and then, before the next one, what it
imports as far as it is settled, however often it has been met before. Only what has been merged is
passed over. -/
inductive Tours (visited : VisitedCache) (s : ImportedScope) :
    (pending : List Interface) → (tour : List Interface) → Prop where
  /-- Nothing is pending. -/
  | nil : Tours visited s [] []
  /-- The next one has been merged. -/
  | skip {i : Interface} {pending tour : List Interface} : s.contains i.name = true →
      Tours visited s pending tour → Tours visited s (i :: pending) tour
  /-- The next one is met, then its imports, and then the others. -/
  | enter {i : Interface} {pending below after : List Interface} : ¬ s.contains i.name = true →
      Tours visited s (settledImports visited i) below → Tours visited s pending after →
      Tours visited s (i :: pending) (i :: (below ++ after))

namespace Tours

/-- A tour meets nothing that has been merged. -/
theorem not_contains (h : Tours visited s pending tour) (hj : j ∈ tour) :
    ¬ s.contains j.name = true := by
  induction h with
  | nil => exact absurd hj List.not_mem_nil
  | skip _ _ ih => exact ih hj
  | enter hnew _ _ ihbelow ihafter =>
    obtain rfl | hj := List.mem_cons.1 hj
    · exact hnew
    · exact (List.mem_append.1 hj).elim ihbelow ihafter

/-- What a tour meets, something pending leads to. -/
theorem leadsTo (h : Tours visited s pending tour) (hj : j ∈ tour) :
    ∃ k ∈ pending, LeadsTo visited k j := by
  induction h with
  | nil => exact absurd hj List.not_mem_nil
  | skip _ _ ih =>
    obtain ⟨k, hk, hleads⟩ := ih hj
    exact ⟨k, List.mem_cons_of_mem _ hk, hleads⟩
  | enter _ _ _ ihbelow ihafter =>
    obtain rfl | hj := List.mem_cons.1 hj
    · exact ⟨j, List.mem_cons_self, .refl⟩
    · obtain hj | hj := List.mem_append.1 hj
      · obtain ⟨k, hk, hleads⟩ := ihbelow hj
        exact ⟨_, List.mem_cons_self, .head hk hleads⟩
      · obtain ⟨k, hk, hleads⟩ := ihafter hj
        exact ⟨k, List.mem_cons_of_mem _ hk, hleads⟩

/-- Whatever is pending is met, unless it has been merged. -/
theorem mem_of_pending (h : Tours visited s pending tour) (hk : k ∈ pending)
    (hnew : ¬ s.contains k.name = true) : k ∈ tour := by
  induction h with
  | nil => exact absurd hk List.not_mem_nil
  | skip hold _ ih =>
    obtain rfl | hk := List.mem_cons.1 hk
    · exact absurd hold hnew
    · exact ih hk
  | enter _ _ _ _ ihafter =>
    obtain rfl | hk := List.mem_cons.1 hk
    · exact List.mem_cons_self
    · exact List.mem_cons_of_mem _ (List.mem_append_right _ (ihafter hk))

/-- **After an interface its imports are met**, unless they have been merged. -/
theorem exists_split (h : Tours visited s pending tour) (hj : j ∈ tour)
    (hk : k ∈ settledImports visited j) (hnew : ¬ s.contains k.name = true) :
    ∃ before after, tour = before ++ j :: after ∧ k ∈ after := by
  induction h with
  | nil => exact absurd hj List.not_mem_nil
  | skip _ _ ih => exact ih hj
  | @enter i pending below after _ hbelow _ ihbelow ihafter =>
    obtain rfl | hj := List.mem_cons.1 hj
    · exact ⟨[], _, rfl, List.mem_append_left _ (hbelow.mem_of_pending hk hnew)⟩
    · obtain hj | hj := List.mem_append.1 hj
      · obtain ⟨first, last, rfl, hmem⟩ := ihbelow hj
        exact ⟨i :: first, last ++ after, by simp, List.mem_append_left _ hmem⟩
      · obtain ⟨first, last, rfl, hmem⟩ := ihafter hj
        exact ⟨i :: (below ++ first), last, by simp, hmem⟩

/-- A tour that meets an interface meets its imports, unless they have been merged. -/
theorem mem_of_import (h : Tours visited s pending tour) (hj : j ∈ tour)
    (hk : k ∈ settledImports visited j) (hnew : ¬ s.contains k.name = true) : k ∈ tour := by
  obtain ⟨before, after, rfl, hmem⟩ := h.exists_split hj hk hnew
  exact List.mem_append_right _ (List.mem_cons_of_mem _ hmem)

/-- There is a tour through pending interfaces if there is one through the imports of each. -/
theorem exists_of_forall
    (h : ∀ k ∈ pending, ∃ below, Tours visited s (settledImports visited k) below) :
    ∃ tour, Tours visited s pending tour := by
  induction pending with
  | nil => exact ⟨[], .nil⟩
  | cons k pending ih =>
    obtain ⟨after, hafter⟩ := ih fun l hl => h l (List.mem_cons_of_mem _ hl)
    by_cases hold : s.contains k.name = true
    · exact ⟨after, .skip hold hafter⟩
    · obtain ⟨below, hbelow⟩ := h k List.mem_cons_self
      exact ⟨k :: (below ++ after), .enter hold hbelow hafter⟩

end Tours

/-- An interface leads to finitely many others. -/
theorem finite_leadsTo (visited : VisitedCache) (i : Interface) :
    {j | LeadsTo visited i j}.Finite :=
  (List.finite_toSet (i :: visited.entries.map fun (e : ModuleName × VisitedEntry) =>
    e.2.interface)).subset fun j (hj : LeadsTo visited i j) => hj.mem_cons

/-- **Where imports lead in no circle there is a tour.** -/
theorem Acyclic.exists_tours (h : Acyclic visited i) (s : ImportedScope) :
    ∃ tour, Tours visited s [i] tour := by
  let below (a b : {j | LeadsTo visited i j}) : Prop :=
    TransGen (fun a b => b ∈ settledImports visited a) b.1 a.1
  have htrans : IsTrans _ below := ⟨fun _ _ _ hab hbc => hbc.trans hab⟩
  have hirrefl : Std.Irrefl below := ⟨fun a hpath => h a.1 a.1 a.2 hpath rfl⟩
  have hfinite : Finite {j | LeadsTo visited i j} := finite_leadsTo visited i
  have hwf : WellFounded below := Finite.wellFounded_of_trans_of_irrefl below
  have hall : ∀ a : {j | LeadsTo visited i j},
      ∃ tour, Tours visited s (settledImports visited a.1) tour := by
    intro a
    induction a using hwf.induction with
    | _ a ih => exact Tours.exists_of_forall fun k hk => ih ⟨k, a.2.tail hk⟩ (.single hk)
  exact Tours.exists_of_forall fun k hk => List.mem_singleton.1 hk ▸ hall ⟨i, .refl⟩

/-! ## First meetings -/

/-- **The first meetings of a tour** with interfaces whose names have not been seen. -/
def firsts (unseen : List ModuleName) : (tour : List Interface) → List Interface
  | [] => []
  | j :: tour =>
    if j.name ∈ unseen then j :: firsts (strike j.name unseen) tour else firsts unseen tour

/-- The names that have not been seen after a tour. -/
def strikeAll (tour : List Interface) (unseen : List ModuleName) : List ModuleName :=
  tour.foldl (fun names j => strike j.name names) unseen

/-- A name that is not there is not struck. -/
theorem strike_of_notMem {module : ModuleName} (h : module ∉ unseen) :
    strike module unseen = unseen := by
  refine List.filter_eq_self.2 fun m hm => decide_eq_true ?_
  rintro rfl
  exact h hm

theorem mem_strikeAll {m : ModuleName} :
    m ∈ strikeAll tour unseen ↔ m ∈ unseen ∧ ∀ j ∈ tour, m ≠ j.name := by
  unfold strikeAll
  induction tour generalizing unseen with
  | nil => simp
  | cons j tour ih => simp [ih, mem_strike, and_assoc]

theorem firsts_cons_of_mem (h : j.name ∈ unseen) :
    firsts unseen (j :: tour) = j :: firsts (strike j.name unseen) tour := if_pos h

theorem firsts_cons_of_notMem (h : j.name ∉ unseen) :
    firsts unseen (j :: tour) = firsts unseen tour := if_neg h

/-- A tour that goes on meets for the first time what it has not met so far. -/
theorem firsts_append (unseen : List ModuleName) (before after : List Interface) :
    firsts unseen (before ++ after)
      = firsts unseen before ++ firsts (strikeAll before unseen) after := by
  induction before generalizing unseen with
  | nil => rfl
  | cons j before ih =>
    rw [List.cons_append, strikeAll, List.foldl_cons]
    by_cases hj : j.name ∈ unseen
    · rw [firsts_cons_of_mem hj, firsts_cons_of_mem hj, ih, List.cons_append]
      rfl
    · rw [firsts_cons_of_notMem hj, firsts_cons_of_notMem hj, ih, strike_of_notMem hj]
      rfl

/-- Nothing is met for the first time whose name has been seen. -/
theorem firsts_eq_nil (h : ∀ j ∈ tour, j.name ∉ unseen) : firsts unseen tour = [] := by
  induction tour with
  | nil => rfl
  | cons j tour ih =>
    rw [firsts_cons_of_notMem (h j List.mem_cons_self),
      ih fun k hk => h k (List.mem_cons_of_mem _ hk)]

/-- Such a tour strikes no name either. -/
theorem strikeAll_eq_self (h : ∀ j ∈ tour, j.name ∉ unseen) : strikeAll tour unseen = unseen := by
  unfold strikeAll
  induction tour with
  | nil => rfl
  | cons j tour ih =>
    rw [List.foldl_cons, strike_of_notMem (h j List.mem_cons_self),
      ih fun k hk => h k (List.mem_cons_of_mem _ hk)]

/-- What is met for the first time is met, and its name had not been seen. -/
theorem mem_of_mem_firsts (h : j ∈ firsts unseen tour) : j ∈ tour ∧ j.name ∈ unseen := by
  fun_induction firsts unseen tour with
  | case1 => exact absurd h List.not_mem_nil
  | case2 unseen k tour hk ih =>
    obtain rfl | h := List.mem_cons.1 h
    · exact ⟨List.mem_cons_self, hk⟩
    · exact ⟨List.mem_cons_of_mem _ (ih h).1, (mem_strike.1 (ih h).2).1⟩
  | case3 unseen k tour _ ih => exact ⟨List.mem_cons_of_mem _ (ih h).1, (ih h).2⟩

/-- Whatever is met is met for the first time, under a name that had not been seen. -/
theorem exists_mem_firsts (hj : j ∈ tour) (hunseen : j.name ∈ unseen) :
    ∃ k ∈ firsts unseen tour, k.name = j.name := by
  fun_induction firsts unseen tour with
  | case1 => exact absurd hj List.not_mem_nil
  | case2 unseen k tour hk ih =>
    by_cases hname : j.name = k.name
    · exact ⟨k, List.mem_cons_self, hname.symm⟩
    · have htour : j ∈ tour := (List.mem_cons.1 hj).resolve_left fun heq => hname (heq ▸ rfl)
      obtain ⟨l, hl, heq⟩ := ih htour (mem_strike.2 ⟨hunseen, hname⟩)
      exact ⟨l, List.mem_cons_of_mem _ hl, heq⟩
  | case3 unseen k tour hk ih =>
    refine ih ((List.mem_cons.1 hj).resolve_left ?_) hunseen
    rintro rfl
    exact hk hunseen

/-- **A tour meets an interface before it has met another one.** -/
def MeetsBefore (tour : List Interface) (j k : Interface) : Prop :=
  ∃ before after, tour = before ++ j :: after ∧ k ∉ before

/-- It does so too if it begins with a third one. -/
theorem MeetsBefore.cons (h : MeetsBefore tour j k) (hother : k ≠ i) :
    MeetsBefore (i :: tour) j k := by
  obtain ⟨before, after, rfl, hk⟩ := h
  exact ⟨i :: before, after, rfl, fun hmem => (List.mem_cons.1 hmem).elim hother hk⟩

/-- **First meetings are in order**: each is made before those that come after it. -/
theorem pairwise_firsts (unseen : List ModuleName) (tour : List Interface) :
    (firsts unseen tour).Pairwise (MeetsBefore tour) := by
  fun_induction firsts unseen tour with
  | case1 => exact .nil
  | case2 unseen i tour _ ih =>
    refine List.pairwise_cons.2 ⟨fun k _ => ⟨[], tour, rfl, List.not_mem_nil⟩, ?_⟩
    refine ih.imp_of_mem fun {j k} _ hk h => h.cons ?_
    rintro rfl
    exact (mem_strike.1 (mem_of_mem_firsts hk).2).2 rfl
  | case3 unseen i tour hi ih =>
    refine ih.imp_of_mem fun {j k} _ hk h => h.cons ?_
    rintro rfl
    exact hi (mem_of_mem_firsts hk).2

/-! ## The search and the tour -/

/-- **What has been seen has been followed up**, as far as pending interfaces lead to it: with its
name the names of its imports have been seen, unless these have been merged. -/
def FollowedUp (visited : VisitedCache) (s : ImportedScope) (unseen : List ModuleName)
    (pending : List Interface) : Prop :=
  ∀ j, (∃ k ∈ pending, LeadsTo visited k j) → j.name ∉ unseen →
    ∀ k ∈ settledImports visited j, ¬ s.contains k.name = true → k.name ∉ unseen

namespace FollowedUp

/-- With fewer interfaces pending there is less to follow up. -/
theorem tail (h : FollowedUp visited s unseen (i :: pending)) :
    FollowedUp visited s unseen pending :=
  fun j ⟨k, hk, hleads⟩ => h j ⟨k, List.mem_cons_of_mem _ hk, hleads⟩

/-- The imports of an interface lead to nothing that it does not lead to. -/
theorem imports (h : FollowedUp visited s unseen (i :: pending)) :
    FollowedUp visited s unseen (settledImports visited i) :=
  fun j ⟨_, hk, hleads⟩ => h j ⟨i, List.mem_cons_self, .head hk hleads⟩

/-- If an interface has been seen, its imports have been. -/
theorem notMem_of_import (h : FollowedUp visited s unseen (i :: pending)) (hi : i.name ∉ unseen) :
    ∀ k ∈ settledImports visited i, ¬ s.contains k.name = true → k.name ∉ unseen :=
  h i ⟨i, List.mem_cons_self, .refl⟩ hi

/-- An interface that is entered has not been followed up yet, but below it nothing leads back to
it. -/
theorem strike (h : FollowedUp visited s unseen (j :: pending)) (hacyclic : Acyclic visited i)
    (hj : LeadsTo visited i j) :
    FollowedUp visited s (strike j.name unseen) (settledImports visited j) := by
  rintro l ⟨k, hk, hleads⟩ hl m hm hfree hmem
  have hother : l.name ≠ j.name := hacyclic j l hj (.head' hk hleads)
  have hseen : l.name ∉ unseen := fun hmem => hl (mem_strike.2 ⟨hmem, hother⟩)
  exact h.imports l ⟨k, hk, hleads⟩ hseen m hm hfree (mem_strike.1 hmem).1

/-- **After the tour through its imports an interface has been followed up**, and so has all that
was met on the way. -/
theorem strikeAll {below : List Interface} (h : FollowedUp visited s unseen (j :: pending))
    (hacyclic : Acyclic visited i) (hnamed : visited.Named)
    (hpending : ∀ k ∈ j :: pending, LeadsTo visited i k)
    (hbelow : Tours visited s (settledImports visited j) below) :
    FollowedUp visited s (strikeAll below (ImportedScope.strike j.name unseen)) pending := by
  have hj : LeadsTo visited i j := hpending j List.mem_cons_self
  rintro l ⟨k, hk, hleads⟩ hl m hm hfree hmem
  have hleads' : LeadsTo visited i l := (hpending k (List.mem_cons_of_mem _ hk)).trans hleads
  obtain ⟨hstruck, hnone⟩ := mem_strikeAll.1 hmem
  by_cases hunseen : l.name ∈ unseen
  · -- It has just been met, and its imports were met below.
    refine hnone m ?_ rfl
    by_cases hself : l.name = j.name
    · obtain rfl := hacyclic.eq_of_name hnamed hleads' hj hself
      exact hbelow.mem_of_pending hm hfree
    · obtain ⟨b, hb, hname⟩ : ∃ b ∈ below, l.name = b.name := by
        by_contra hnever
        push Not at hnever
        exact hl (mem_strikeAll.2 ⟨mem_strike.2 ⟨hunseen, hself⟩, hnever⟩)
      obtain ⟨k', hk', hpath⟩ := hbelow.leadsTo hb
      obtain rfl := hacyclic.eq_of_name hnamed hleads' ((hj.tail hk').trans hpath) hname
      exact hbelow.mem_of_import hb hm hfree
  · exact h.tail l ⟨k, hk, hleads⟩ hunseen m hm hfree (mem_strike.1 hstruck).1

end FollowedUp

/-- A tour meets only names that have been seen, if those of what is pending have been and all of
that has been followed up. -/
theorem Tours.notMem_unseen (h : Tours visited s pending tour)
    (hpending : ∀ k ∈ pending, ¬ s.contains k.name = true → k.name ∉ unseen)
    (hseen : FollowedUp visited s unseen pending) : ∀ j ∈ tour, j.name ∉ unseen := by
  induction h with
  | nil => exact nofun
  | skip _ _ ih => exact ih (fun k hk => hpending k (List.mem_cons_of_mem _ hk)) hseen.tail
  | @enter i pending below after hnew hbelow hafter ihbelow ihafter =>
    have hi := hpending i List.mem_cons_self hnew
    intro j hj
    obtain rfl | hj := List.mem_cons.1 hj
    · exact hi
    · obtain hj | hj := List.mem_append.1 hj
      · exact ihbelow (hseen.notMem_of_import hi) hseen.imports j hj
      · exact ihafter (fun k hk => hpending k (List.mem_cons_of_mem _ hk)) hseen.tail j hj

/-- **The search enters what a tour meets first.** It passes over what the tour meets once more,
with what is below, for by then all of that has been seen. -/
theorem Tours.reach_append (hacyclic : Acyclic visited i) (hnamed : visited.Named)
    (h : Tours visited s pending tour) (hpending : ∀ k ∈ pending, LeadsTo visited i k)
    (hseen : FollowedUp visited s unseen pending) (rest : List Interface) :
    reach visited s unseen (pending ++ rest)
      = firsts unseen tour ++ reach visited s (strikeAll tour unseen) rest := by
  induction h generalizing unseen rest with
  | nil => rfl
  | @skip j pending tour hold _ ih =>
    rw [List.cons_append, reach, if_neg fun hnew => hnew.2 hold]
    exact ih (fun k hk => hpending k (List.mem_cons_of_mem _ hk)) hseen.tail rest
  | @enter j pending below after hnew hbelow hafter ihbelow ihafter =>
    have hj : LeadsTo visited i j := hpending j List.mem_cons_self
    have hrest : ∀ k ∈ pending, LeadsTo visited i k := fun k hk =>
      hpending k (List.mem_cons_of_mem _ hk)
    by_cases hunseen : j.name ∈ unseen
    · rw [List.cons_append, reach, if_pos ⟨hunseen, hnew⟩,
        ihbelow (fun k hk => hj.tail hk) (hseen.strike hacyclic hj),
        ihafter hrest (hseen.strikeAll hacyclic hnamed hpending hbelow),
        firsts_cons_of_mem hunseen, firsts_append]
      simp [strikeAll]
    · -- It has been seen before, and so has all that is below it.
      have hbelowSeen : ∀ k ∈ below, k.name ∉ unseen :=
        hbelow.notMem_unseen (hseen.notMem_of_import hunseen) hseen.imports
      have hstruck : strikeAll (j :: (below ++ after)) unseen = strikeAll after unseen := by
        conv_rhs => rw [← strikeAll_eq_self hbelowSeen]
        simp [strikeAll, strike_of_notMem hunseen]
      rw [List.cons_append, reach, if_neg fun hnew => hunseen hnew.1, ihafter hrest hseen.tail,
        firsts_cons_of_notMem hunseen, firsts_append, firsts_eq_nil hbelowSeen,
        strikeAll_eq_self hbelowSeen, List.nil_append, hstruck]

/-- What an interface leads to has one of the names that can occur on the way. -/
theorem LeadsTo.name_mem_reachable (h : LeadsTo visited i j) : j.name ∈ reachable visited i := by
  obtain rfl | ⟨a, -, hb⟩ := ReflTransGen.cases_tail h
  · exact List.mem_cons_self
  · exact ImportedScope.name_mem_reachable hb i

/-- What a tour from an interface meets, the interface leads to. -/
theorem Tours.leadsTo_of_start (h : Tours visited s [i] tour) (hj : j ∈ tour) :
    LeadsTo visited i j := by
  obtain ⟨k, hk, hpath⟩ := h.leadsTo hj
  exact List.mem_singleton.1 hk ▸ hpath

/-- Whatever it meets it meets for the first time. -/
theorem Tours.mem_firsts (h : Tours visited s [i] tour) (hacyclic : Acyclic visited i)
    (hnamed : visited.Named) (hj : j ∈ tour) : j ∈ firsts (reachable visited i) tour := by
  have hleads := h.leadsTo_of_start hj
  obtain ⟨k, hk, hname⟩ := exists_mem_firsts hj hleads.name_mem_reachable
  exact hacyclic.eq_of_name hnamed (h.leadsTo_of_start (mem_of_mem_firsts hk).1) hleads hname ▸ hk

/-- **What is merged with an interface, in the opposite order, is what a tour from the interface
meets, in the order of the first times.** -/
theorem reverse_mergeOrder (hacyclic : Acyclic visited i) (hnamed : visited.Named)
    (h : Tours visited s [i] tour) :
    (s.mergeOrder visited i).reverse = firsts (reachable visited i) tour := by
  have happend : reach visited s (reachable visited i) ([i] ++ []) = _ :=
    h.reach_append hacyclic hnamed (fun k hk => List.mem_singleton.1 hk ▸ .refl)
      (fun j ⟨k, hk, hleads⟩ hj =>
        absurd (LeadsTo.name_mem_reachable (List.mem_singleton.1 hk ▸ hleads)) hj) []
  rw [mergeOrder, List.reverse_reverse]
  simpa [reach] using happend

end ImportedScope

end ModuleLoader
