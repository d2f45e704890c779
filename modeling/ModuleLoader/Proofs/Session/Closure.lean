import ModuleLoader.Proofs.Scope.Tour
import ModuleLoader.Proofs.Scope.Worklist
import ModuleLoader.Proofs.Session.Contribution
import ModuleLoader.Proofs.Session.Settled

/-!
# What a reused module brings in

A module whose interface is reused is not checked, and so nothing merges its imports on the way.
They are found by following recorded imports instead (`Worklist`). The search passes over imports
that are not settled and does not look behind modules that are merged already. Neither loses
anything: what is reused records only imports that are settled by then, and so do those; and behind
what has been merged everything is merged as well, if the scope is closed under imports
(`ImportedScope.ClosedBut`). The module itself is the exception. What it contributed to the scope is
forgotten first, and modules that import it may be there.

So a module that is reused brings in its imports, their imports and so on, each with the interface
that it is settled with, and comes last (`Session.reuse_brings_in`).
-/

namespace ModuleLoader

open Relation

/-! ## What an interface imports -/

namespace VisitedCache

variable {c : VisitedCache} {i j : Interface}

/-- **A module is imported by an interface**, or by one of the modules that it imports, and so on.
-/
def Below (c : VisitedCache) (i : Interface) (module : ModuleName) : Prop :=
  ∃ e ∈ i.imports, ReflTransGen c.Records e.1 module

/-- Along settled imports nothing is met but the interface itself and what is below it. -/
theorem Named.below_of_leadsTo (hc : c.Named) (h : ImportedScope.LeadsTo c i j) :
    j = i ∨ c.Below i j.name := by
  induction h with
  | refl => exact .inl rfl
  | @tail j k hpath hk ih =>
    obtain ⟨e, he, entry, hget, rfl⟩ := ImportedScope.mem_settledImports.1 hk
    rw [hc e.1 entry hget]
    obtain rfl | ⟨first, hfirst, hbelow⟩ := ih
    · exact .inr ⟨e, he, .refl⟩
    · obtain rfl | ⟨known, hknown, rfl⟩ := ImportedScope.settled_of_leadsTo hc hpath
      · exact .inr ⟨e, he, .refl⟩
      · exact .inr ⟨first, hfirst, hbelow.tail ⟨known, hknown, e.2, he⟩⟩

end VisitedCache

/-! ## Closed scopes -/

namespace ImportedScope

variable {c c' : VisitedCache} {s s' : ImportedScope} {module : ModuleName} {i j : Interface}

/-- **A scope is closed under imports, one module aside**: every other module that has been merged
is settled, and its imports have been merged too, or are that module. -/
def ClosedBut (module : ModuleName) (c : VisitedCache) (s : ImportedScope) : Prop :=
  ∀ x, x ≠ module → s.contains x = true →
    ∃ entry, c.get? x = some entry ∧ ∀ e ∈ entry.interface.imports,
      e.1 = module ∨ s.contains e.1 = true

theorem closedBut_iff : s.ClosedBut module c ↔ ∀ j ∈ s.contributions, j.name ≠ module →
    ∃ entry ∈ c.get? j.name, ∀ e ∈ entry.interface.imports,
      e.1 = module ∨ s.contains e.1 = true := by
  constructor
  · exact fun h j hj hname => h j.name hname (contains_iff.2 (List.mem_map_of_mem hj))
  · intro h x hname hx
    obtain ⟨j, hj, rfl⟩ := List.mem_map.1 (contains_iff.1 hx)
    exact h j hj hname

instance : Decidable (s.ClosedBut module c) := decidable_of_iff _ closedBut_iff.symm

/-- Settling more modules keeps a scope closed. -/
theorem ClosedBut.mono (h : s.ClosedBut module c)
    (hext : ∀ m entry, c.get? m = some entry → c'.get? m = some entry) :
    s.ClosedBut module c' := by
  intro x hx hcontains
  obtain ⟨entry, hget, himports⟩ := h x hx hcontains
  exact ⟨entry, hext x entry hget, himports⟩

/-- A module has been merged after another one was forgotten, if it had been before and is another
one. -/
theorem contains_forget {forgotten : ModuleName} :
    (s.forget forgotten).contains module = true ↔
      module ≠ forgotten ∧ s.contains module = true := by
  simp only [contains_eq_isSome, contribution?_forget]
  split <;> simp_all

/-- **An interface of a module can be reused with all that it imports**: its imports are settled,
and so are theirs. -/
structure Closed (c : VisitedCache) (module : ModuleName) (i : Interface) : Prop where
  /-- Settled modules have interfaces of their own. -/
  named : c.Named
  /-- What a settled module imports is settled. -/
  records : ∀ m imported, c.Records m imported → ∃ entry, c.get? imported = some entry
  /-- The interface belongs to the module. -/
  name : i.name = module
  /-- What it imports is settled. -/
  imports : ∀ e ∈ i.imports, ∃ entry, c.get? e.1 = some entry
  /-- If the module is settled, then with this interface. -/
  own : ∀ entry, c.get? module = some entry → entry.interface = i

namespace Closed

variable (hclosed : Closed c module i)

include hclosed

/-- What is merged with the interface is the interface, or what another module is settled with. -/
theorem settled_of_mem_mergeOrder (hj : j ∈ s.mergeOrder c i) :
    j = i ∨ ∃ entry, c.get? j.name = some entry ∧ entry.interface = j :=
  settled_of_leadsTo hclosed.named (leadsTo_of_mem_reach (List.mem_reverse.1 hj))

/-- What is merged with the interface belongs to the module, or to one below the interface. -/
theorem below_of_mem_mergeOrder (hj : j ∈ s.mergeOrder c i) :
    j.name = module ∨ c.Below i j.name := by
  obtain rfl | hbelow :=
    hclosed.named.below_of_leadsTo (leadsTo_of_mem_reach (List.mem_reverse.1 hj))
  · exact .inl hclosed.name
  · exact .inr hbelow

/-- The interface comes last where its module has been forgotten. -/
theorem exists_mergeOrder_forget (s : ImportedScope) :
    ∃ new, (s.forget module).mergeOrder c i = new ++ [i] :=
  exists_mergeOrder_eq (by simp [hclosed.name])

variable (hscope : s.ClosedBut module c)
  (hmerge : (s.forget module).mergeWithImports c i = .ok s')

include hmerge

omit hclosed in
/-- What has been merged then was merged before, or is merged with the interface. -/
theorem contains_iff_mergeOrder {x : ModuleName} : s'.contains x = true ↔
    (s.forget module).contains x = true ∨ ∃ j ∈ (s.forget module).mergeOrder c i, j.name = x := by
  obtain rfl := eq_of_mergeWithImports hmerge
  simp [contains, List.any_append]

/-- The module itself has been merged then. -/
theorem contains_self : s'.contains module = true := by
  obtain ⟨new, horder⟩ := hclosed.exists_mergeOrder_forget s
  refine (contains_iff_mergeOrder hmerge).2 (.inr ⟨i, ?_, hclosed.name⟩)
  simp [horder]

/-- What was merged before has been merged then, the module itself included. -/
theorem contains_of_before {x : ModuleName} (hold : s.contains x = true) :
    s'.contains x = true := by
  by_cases hself : x = module
  · exact hself ▸ hclosed.contains_self hmerge
  · exact (contains_iff_mergeOrder hmerge).2 (.inl (contains_forget.2 ⟨hself, hold⟩))

/-- What an interface imports that is merged has been merged then. -/
theorem contains_import (hj : j ∈ (s.forget module).mergeOrder c i) {e : ModuleName × Digest}
    (he : e ∈ j.imports) {entry : VisitedEntry} (hget : c.get? e.1 = some entry) :
    s'.contains e.1 = true := by
  rw [contains_iff_mergeOrder hmerge]
  by_cases hold : (s.forget module).contains e.1 = true
  · exact .inl hold
  · have hname := hclosed.named e.1 entry hget
    obtain ⟨k, hk, heq⟩ := mem_mergeOrder_of_settledImports hj
      (mem_settledImports.2 ⟨e, he, entry, hget, rfl⟩) (hname ▸ hold)
    exact .inr ⟨k, hk, heq.trans hname⟩

include hscope

/-- **Imports of what has been merged then have been merged too.** -/
theorem contains_of_records {x y : ModuleName} (hx : s'.contains x = true) (h : c.Records x y) :
    s'.contains y = true := by
  obtain ⟨entry, hget, hash, hmem⟩ := h
  obtain ⟨known, hknown⟩ := hclosed.records x y ⟨entry, hget, hash, hmem⟩
  obtain hold | ⟨j, hj, rfl⟩ := (contains_iff_mergeOrder hmerge).1 hx
  · -- What was merged before has its imports there, apart from the module, which is merged now.
    obtain ⟨hother, hbefore⟩ := contains_forget.1 hold
    obtain ⟨entry', hget', himports⟩ := hscope x hother hbefore
    obtain rfl := Option.some.inj (hget'.symm.trans hget)
    obtain rfl | hmerged := himports _ hmem
    · exact hclosed.contains_self hmerge
    · exact hclosed.contains_of_before hmerge hmerged
  · have hentry : entry.interface = j := by
      obtain rfl | ⟨entry', hget', heq⟩ := hclosed.settled_of_mem_mergeOrder hj
      · exact hclosed.own entry (hclosed.name ▸ hget)
      · rw [Option.some.inj (hget.symm.trans hget')]
        exact heq
    exact hclosed.contains_import hmerge hj (hentry ▸ hmem) hknown

/-- **The modules that have been merged then** are those from before, the module itself, and what is
below its interface. -/
theorem contains_iff {x : ModuleName} : s'.contains x = true ↔
    s.contains x = true ∨ x = module ∨ c.Below i x := by
  constructor
  · intro hx
    obtain hold | ⟨j, hj, rfl⟩ := (contains_iff_mergeOrder hmerge).1 hx
    · exact .inl (contains_forget.1 hold).2
    · exact .inr (hclosed.below_of_mem_mergeOrder hj)
  · rintro (hold | rfl | ⟨e, he, hpath⟩)
    · exact hclosed.contains_of_before hmerge hold
    · exact hclosed.contains_self hmerge
    · induction hpath with
      | refl =>
        obtain ⟨entry, hget⟩ := hclosed.imports e he
        obtain ⟨new, horder⟩ := hclosed.exists_mergeOrder_forget s
        exact hclosed.contains_import hmerge (by simp [horder]) he hget
      | tail _ hrecords ih => exact hclosed.contains_of_records hscope hmerge ih hrecords

omit hscope in
/-- **The new contributions**, of which the interface is the last one. Each of the others is what
its module is settled with, and none had been merged before. -/
theorem exists_contributions : ∃ new,
    s'.contributions = (s.forget module).contributions ++ new ++ [i] ∧
    ((new ++ [i]).map Interface.name).Nodup ∧
    ∀ j ∈ new, ¬ s.contains j.name = true ∧
      ∃ entry, c.get? j.name = some entry ∧ entry.interface = j := by
  obtain ⟨new, horder⟩ := hclosed.exists_mergeOrder_forget s
  obtain rfl := eq_of_mergeWithImports hmerge
  have hnodup := nodup_mergeOrder (s.forget module) c i
  rw [horder] at hnodup
  refine ⟨new, by simp [horder], hnodup, fun j hj => ?_⟩
  have hmem : j ∈ (s.forget module).mergeOrder c i := horder ▸ List.mem_append_left _ hj
  have hother : j.name ≠ i.name := by
    rw [List.map_append] at hnodup
    exact (List.nodup_append.1 hnodup).2.2 _ (List.mem_map_of_mem hj) _ (List.mem_singleton_self _)
  refine ⟨fun hold => not_contains_of_mem_mergeOrder hmem (contains_forget.2 ⟨?_, hold⟩), ?_⟩
  · exact hclosed.name ▸ hother
  · refine (hclosed.settled_of_mem_mergeOrder hmem).resolve_left ?_
    rintro rfl
    exact hother rfl

end Closed

end ImportedScope

/-! ## Loads that reuse an interface -/

namespace Setup

variable {setup : Setup} {importer : Importer} {scope : ImportedScope} {module : ModuleName}
  {mode : CheckMode} {s : LoadState} {i : Interface}

/-- **An interface is reused for an entry module**: the one that the module is settled with, or, if
it is not settled, the stored one when that turns out to be up to date. -/
inductive Reuses (setup : Setup) (importer : Importer) (scope : ImportedScope) (module : ModuleName)
    (mode : CheckMode) (s : LoadState) : Interface → Prop where
  /-- The module is settled. -/
  | recalled {entry : VisitedEntry} : s.caches.visited.get? module = some entry →
      Reuses setup importer scope module mode s entry.interface
  /-- The stored interface is up to date. -/
  | stored {target : Target} {i : Interface} {located validated : LoadState} :
      s.caches.visited.get? module = none →
      (setup.locate module >>= refreshFor mode).run.run s = some (.ok target, located) →
      (setup.validate importer target scope).run.run located = some (.ok (.ok i), validated) →
      Reuses setup importer scope module mode s i

/-- What a consistent session has settled is closed under imports, so that an interface can be
reused if its imports are settled. -/
theorem Consistent.closed {c : VisitedCache} (hc : setup.Consistent c) (hname : i.name = module)
    (himports : ∀ e ∈ i.imports, ∃ entry, c.get? e.1 = some entry)
    (hown : ∀ entry, c.get? module = some entry → entry.interface = i) :
    ImportedScope.Closed c module i where
  named := hc.named
  records := by
    rintro m imported ⟨entry, hget, hash, hmem⟩
    obtain ⟨-, known, hknown, -⟩ := hc.imports hget hmem
    exact ⟨known, hknown⟩
  name := hname
  imports := himports
  own := hown

/-- A module that is not settled counts as coming after all that are. -/
theorem Consistent.rank_lt_of_none {c : VisitedCache} (hc : setup.Consistent c)
    {imported : ModuleName} (hnone : c.get? module = none) {entry : VisitedEntry}
    (hget : c.get? imported = some entry) :
    Consistent.rank c imported < Consistent.rank c module := by
  obtain ⟨before, after, heq⟩ := Consistent.exists_split hget
  have hlast : Consistent.rank c module = c.entries.length := by
    refine List.findIdx_eq_length.2 fun e he => ?_
    have hother := bne_iff_ne.1 (List.lookup_eq_none_iff.1 hnone e he)
    exact beq_eq_false_iff_ne.2 hother.symm
  rw [Consistent.rank_eq hc heq, hlast, heq]
  simp

/-- **What can be reused leads in no circle**, since imports are settled before importers. -/
theorem Consistent.acyclic {c : VisitedCache} (hc : setup.Consistent c)
    (hclosed : ImportedScope.Closed c module i) : ImportedScope.Acyclic c i := by
  refine .of_rank (Consistent.rank c) fun j hj k hk => ?_
  obtain ⟨e, he, entry, hget, rfl⟩ := ImportedScope.mem_settledImports.1 hk
  rw [hc.named e.1 entry hget]
  obtain rfl | ⟨known, hknown, rfl⟩ := ImportedScope.settled_of_leadsTo hc.named hj
  · rw [hclosed.name]
    cases hmodule : c.get? module with
    | none => exact hc.rank_lt_of_none hmodule hget
    | some own => exact hc.rank_lt ⟨own, hmodule, e.2, hclosed.own own hmodule ▸ he⟩
  · exact hc.rank_lt ⟨known, hknown, e.2, he⟩

/-- Settling an entry module, if the mode is the one that settles. -/
theorem run_settleEntry (mode : CheckMode) (module : ModuleName) (entry : VisitedEntry)
    (s : LoadState) : ∃ s', (settleEntry mode module entry).run.run s = some (.ok (), s') ∧
      s'.caches.visited = if mode.persists = true then s.caches.visited.record module entry
        else s.caches.visited := by
  unfold settleEntry
  split
  · exact ⟨_, rfl, rfl⟩
  · exact ⟨_, rfl, rfl⟩

/-- A stored interface that is up to date is settled, if the mode settles, and then merged. -/
theorem run_loadEntry_of_stored {target : Target} {located validated : LoadState}
    (hmode : mode.retainsPrivate = false) (hnone : s.caches.visited.get? module = none)
    (hlocate : (setup.locate module >>= refreshFor mode).run.run s = some (.ok target, located))
    (hvalidate : (setup.validate importer target scope).run.run located
      = some (.ok (.ok i), validated)) :
    (setup.loadEntry importer scope module mode).run.run s
      = (settleEntry mode target.name ⟨i, false, target.isPrimitive⟩ >>= fun _ =>
          reuse scope i []).run.run validated := by
  have hvisited : (Load.visited? module).run.run s = some (.ok none, s) := hnone ▸ rfl
  unfold loadEntry loadTarget
  rw [Load.run_bind, hvisited]
  dsimp only [Option.bind_some]
  rw [← bind_assoc, Load.run_bind, hlocate]
  dsimp only [Option.bind_some]
  rw [hmode, if_neg Bool.false_ne_true]
  unfold validateEntry
  rw [Load.run_bind, hvalidate]
  rfl

/-- **A load that reuses an interface ends by merging it** with what it imports, if it ends at all,
and by then its imports are settled. -/
theorem Reuses.run_loadEntry (h : setup.Reuses importer scope module mode s i)
    (hmode : mode.retainsPrivate = false) (hcodec : setup.codec.Faithful)
    (himporter : importer.Maintains (fun s => setup.Consistent s.caches.visited) (fun _ => True)
      [module])
    (hs : setup.Consistent s.caches.visited) :
    ∃ warnings ready, LoadState.Extends [] s ready ∧
      ImportedScope.Closed ready.caches.visited module i ∧
      (setup.loadEntry importer scope module mode).run.run s
        = (reuse scope i warnings).run.run ready := by
  cases h with
  | @recalled entry hget =>
    refine ⟨entry.interface.warnings, s, .refl [] s, ?_, ?_⟩
    · refine hs.closed (hs.named module entry hget) (fun e he => ?_) fun entry' hget' => ?_
      · obtain ⟨-, known, hknown, -⟩ := hs.imports hget he
        exact ⟨known, hknown⟩
      · rw [Option.some.inj (hget'.symm.trans hget)]
    · rw [run_loadEntry_settled hget scope hmode, run_reuse]
      cases scope.mergeWithImports s.caches.visited entry.interface <;> rfl
  | @stored target _ located validated hnone hlocate hvalidate =>
    let c := setup.snapshot hcodec
    have hwanted : c.rule.wanted module := trivial
    obtain ⟨hs₁, hext₁, htarget, hplace⟩ := c.locateFor [module] hwanted mode hs _ _ hlocate
    obtain ⟨hs₂, hext₂, hvalid⟩ := c.validate himporter hplace
      (htarget.name ▸ htarget.isPrimitive) scope hs₁ _ _ hvalidate
    have hfit := hvalid i rfl
    have hnone₂ : validated.caches.visited.get? module = none :=
      (hext₁.trans hext₂).get?_eq_none (List.mem_singleton_self _) hnone
    obtain ⟨ready, hrun, hready⟩ :=
      run_settleEntry mode target.name ⟨i, false, target.isPrimitive⟩ validated
    have houter : target.name ∉ ([] : List ModuleName) := List.not_mem_nil
    obtain ⟨hs₃, hext₃, -⟩ := c.settleEntry houter hs₂ (fun _ => htarget.name ▸ hnone₂)
      (fun _ => hfit) _ _ hrun
    refine ⟨[], ready, ((hext₁.trans hext₂).of_subset (List.nil_subset _)).trans hext₃, ?_, ?_⟩
    · refine hs₃.closed (hfit.name.trans htarget.name) (fun e he => ?_) fun entry hget => ?_
      · obtain ⟨known, hknown, -⟩ := hfit.imports e he
        exact ⟨known, hext₃.get? hknown⟩
      · -- The module is settled only by the load itself, and only in the mode that does so.
        rw [hready] at hget
        split at hget
        · obtain hold | ⟨-, rfl⟩ := VisitedCache.get?_record_eq_some hget
          · rw [hnone₂] at hold
            contradiction
          · rfl
        · rw [hnone₂] at hget
          contradiction
    · rw [run_loadEntry_of_stored hmode hnone hlocate hvalidate, Load.run_bind, hrun]
      rfl

end Setup

/-! ## Sessions -/

namespace Session

variable {s s' : Session} {module : ModuleName} {mode : CheckMode} {depth : Nat}
  {world world' : World} {loaded : Loaded} {i : Interface}

/-- **A load of a session reuses an interface**, in a mode in which that is done. -/
def Reuses (s : Session) (depth : Nat) (module : ModuleName) (mode : CheckMode) (world : World)
    (i : Interface) : Prop :=
  mode.retainsPrivate = false ∧ ∃ stack, s.stack.push module = .ok stack ∧
    s.setup.Reuses (s.setup.resolve depth stack) (s.scope.forget module) module mode
      ⟨s.caches, world⟩ i

/-- What a load that has reused an interface gives, and the scope then. -/
theorem Reachable.of_reuses (h : s.Reachable) (hcodec : s.setup.codec.Faithful)
    (hreuses : s.Reuses depth module mode world i)
    (hload : s.loadWithin depth module mode world = some (.ok loaded, s', world')) :
    loaded.interface = i ∧ LoadState.Extends [] ⟨s.caches, world⟩ ⟨s'.caches, world'⟩ ∧
      ImportedScope.Closed s'.caches.visited module i ∧
      (s.scope.forget module).mergeWithImports s'.caches.visited i = .ok s'.scope := by
  obtain ⟨hmode, stack, hpush, hreuses⟩ := hreuses
  obtain ⟨stack', outcome, hframes, hrun, hresult, -, -, hscope⟩ :=
    loadWithin_eq_some h.stack_eq hload
  have hstack : stack.frames = [module] := by
    rw [ImportStack.frames_of_push hpush, h.stack_eq]
    rfl
  obtain rfl : stack' = stack := ImportStack.ext (hframes.trans hstack.symm)
  have himporter := (Setup.snapshot s.setup hcodec).resolve depth stack'
  rw [hframes] at himporter
  obtain ⟨warnings, ready, hext, hclosed, heq⟩ :=
    hreuses.run_loadEntry hmode hcodec himporter (h.consistent hcodec)
  rw [heq, Setup.run_reuse] at hrun
  cases hmerge : (s.scope.forget module).mergeWithImports ready.caches.visited i with
  | error e =>
    rw [hmerge] at hrun
    obtain ⟨rfl, -⟩ := Prod.mk.inj (Option.some.inj hrun)
    contradiction
  | ok merged =>
    rw [hmerge] at hrun
    obtain ⟨rfl, rfl⟩ := Prod.mk.inj (Option.some.inj hrun)
    obtain rfl := Except.ok.inj hresult
    exact ⟨rfl, hext, hclosed, hscope ▸ hmerge⟩

/-- **No load reuses an interface that imports itself through others.** -/
theorem Reachable.acyclic_of_reuses (h : s.Reachable) (hcodec : s.setup.codec.Faithful)
    (hreuses : s.Reuses depth module mode world i)
    (hload : s.loadWithin depth module mode world = some (.ok loaded, s', world')) :
    ImportedScope.Acyclic s'.caches.visited i := by
  obtain ⟨-, -, hclosed, -⟩ := h.of_reuses hcodec hreuses hload
  obtain ⟨_, _, -, -, -, hsetup, -⟩ := loadWithin_eq_some h.stack_eq hload
  exact ((h.load hload).consistent (hsetup ▸ hcodec)).acyclic hclosed

/-- **A reused module brings in its imports, their imports and so on.** The search for them comes to
an end whatever imports what: one turn is needed for the interface and one for each import of what
it enters, and what it has entered then is merged in the opposite order.

In a session let a load succeed that reuses an interface, and let the scope be closed under imports
before, the module aside. Then the modules merged afterwards are those from before, the module, and
what is below the interface. What is new is contributed once, by the interface that its module is
settled with; and the returned interface comes last. -/
theorem reuse_brings_in :
    (∀ (visited : VisitedCache) (scope : ImportedScope) (i : Interface), ∃ seen entered,
      (Worklist.turn visited scope)^[Worklist.turns visited [i] entered] (.start i)
        = ⟨[], seen, entered⟩ ∧
      scope.mergeWithImports visited i = entered.reverse.foldlM ImportedScope.merge scope) ∧
    ∀ (s s' : Session) (depth : Nat) (module : ModuleName) (mode : CheckMode)
      (world world' : World) (loaded : Loaded) (i : Interface), s.Reachable →
      s.setup.codec.Faithful → s.Reuses depth module mode world i →
      s.loadWithin depth module mode world = some (.ok loaded, s', world') →
      s.scope.ClosedBut module s.caches.visited →
      loaded.interface = i ∧ i.name = module ∧
      (∀ x, s'.scope.contains x = true ↔
        s.scope.contains x = true ∨ x = module ∨ s'.caches.visited.Below i x) ∧
      ∃ new, s'.scope.contributions = (s.scope.forget module).contributions ++ new ++ [i] ∧
        ((new ++ [i]).map Interface.name).Nodup ∧
        ∀ j ∈ new, ¬ s.scope.contains j.name = true ∧
          ∃ entry, s'.caches.visited.get? j.name = some entry ∧ entry.interface = j := by
  refine ⟨fun visited scope i => ?_, fun s s' depth module mode world world' loaded i h hcodec
    hreuses hload hscope => ?_⟩
  · obtain ⟨seen, hends⟩ := Worklist.turn_iterate_start visited scope i
    refine ⟨seen, (scope.mergeOrder visited i).reverse, ?_, ?_⟩
    · rw [Worklist.turns_reverse]
      exact hends
    · rw [List.reverse_reverse, ImportedScope.mergeWithImports_eq_foldlM]
  · obtain ⟨rfl, hext, hclosed, hmerge⟩ := h.of_reuses hcodec hreuses hload
    have hscope' := hscope.mono fun m entry => hext.get?
    exact ⟨rfl, hclosed.name, fun x => hclosed.contains_iff hscope' hmerge,
      hclosed.exists_contributions hmerge⟩

/-! ## Two scripts that share an import -/

/-- A settled module is loaded by merging its interface with what it imports. -/
theorem loadWithin_recalled (hstack : s.stack = ∅) {entry : VisitedEntry} {merged : ImportedScope}
    (hget : s.caches.visited.get? module = some entry) (hmode : mode.retainsPrivate = false)
    (hmerge : (s.scope.forget module).mergeWithImports s.caches.visited entry.interface
      = .ok merged) :
    s.loadWithin depth module mode world = some
      (.ok ⟨entry.interface, entry.interface.warnings⟩, { s with scope := merged }, world) := by
  obtain ⟨stack, hpush⟩ : ∃ stack, s.stack.push module = .ok stack := hstack ▸ ⟨_, rfl⟩
  unfold loadWithin Setup.entering
  rw [hpush]
  dsimp only
  rw [Setup.run_loadEntry_settled hget _ hmode, hmerge]
  rfl

/-- A directory in which a script imports two others, and both of these a fourth one. One more
script imports the first one and is wrong. -/
def sharingDisk : Disk :=
  ⟨[(["p"], .directory), (["p", "A.lm"], .file (Bytes.ofText "import X")),
    (["p", "B.lm"], .file (Bytes.ofText "import X")),
    (["p", "F.lm"], .file (Bytes.ofText "import M\nerror no")),
    (["p", "M.lm"], .file (Bytes.ofText "import A\nimport B")),
    (["p", "X.lm"], .file (Bytes.ofText "def x"))]⟩

set_option maxRecDepth 100000 in
/-- One of the two is loaded and brings in the shared script. A load of the wrong script fails, but
settles the others. So the script that imports both is reused next, and brings in the one that is
missing. -/
theorem reuse_brings_in_sharing : ∃ (s s' : Session) (w w' : World) (loaded : Loaded),
    s.Reachable ∧ s.Reuses 4 ⟨"M"⟩ .batch w loaded.interface ∧
    s.loadWithin 4 ⟨"M"⟩ .batch w = some (.ok loaded, s', w') ∧
    s.scope.contributions.map Interface.name = [⟨"X"⟩, ⟨"A"⟩] ∧
    s.scope.ClosedBut ⟨"M"⟩ s.caches.visited ∧
    (∀ x, s'.scope.contains x = true ↔
      s.scope.contains x = true ∨ x = ⟨"M"⟩ ∨ s'.caches.visited.Below loaded.interface x) ∧
    s'.scope.contributions.map Interface.name = [⟨"X"⟩, ⟨"A"⟩, ⟨"B"⟩, ⟨"M"⟩] := by
  let start := Session.start (.scripts { build := { writeInterfaces := false } } [⟨"p"⟩])
  have hrun : ((start.loadWithin 4 ⟨"A"⟩ .batch (.quiet sharingDisk)).bind fun r =>
      (r.2.1.loadWithin 4 ⟨"F"⟩ .batch r.2.2).bind fun r' =>
        (r'.2.1.caches.visited.get? ⟨"M"⟩).bind fun entry =>
          let w := (Worklist.turn r'.2.1.caches.visited (r'.2.1.scope.forget ⟨"M"⟩))^[4]
            (.start entry.interface)
          (w.entered.reverse.foldlM ImportedScope.merge (r'.2.1.scope.forget ⟨"M"⟩)).toOption.map
            fun merged => (decide (w.pending = []),
              decide (r'.2.1.scope.ClosedBut ⟨"M"⟩ r'.2.1.caches.visited),
              r'.2.1.scope.contributions.map Interface.name,
              merged.contributions.map Interface.name))
      = some (true, true, [⟨"X"⟩, ⟨"A"⟩], [⟨"X"⟩, ⟨"A"⟩, ⟨"B"⟩, ⟨"M"⟩]) := by
    decide +kernel
  obtain ⟨⟨first, s₁, w₁⟩, hfirst, hrun⟩ := Option.bind_eq_some_iff.1 hrun
  obtain ⟨⟨second, s, w⟩, hsecond, hrun⟩ := Option.bind_eq_some_iff.1 hrun
  obtain ⟨entry, hget, hrun⟩ := Option.bind_eq_some_iff.1 hrun
  obtain ⟨merged, hmerged, heq⟩ := Option.map_eq_some_iff.1 hrun
  simp only [Prod.mk.injEq, decide_eq_true_eq] at heq
  obtain ⟨hends, hclosed, hbefore, hafter⟩ := heq
  have hreachable : s.Reachable := .load (.load (.start _) hfirst) hsecond
  have hcodec : s.setup.codec.Faithful := by
    obtain ⟨_, _, -, -, -, hsetup, -⟩ := loadWithin_eq_some rfl hfirst
    obtain ⟨_, _, -, -, -, hsetup', -⟩ :=
      loadWithin_eq_some (Reachable.load (.start _) hfirst).stack_eq hsecond
    rw [hsetup', hsetup]
    exact Codec.standard_faithful
  have hmerge : (s.scope.forget ⟨"M"⟩).mergeWithImports s.caches.visited entry.interface
      = .ok merged := by
    rw [ImportedScope.mergeWithImports_eq_foldlM, Worklist.mergeOrder_eq hends]
    exact LoadError.eq_ok_of_toOption hmerged
  have hload : s.loadWithin 4 ⟨"M"⟩ .batch w = _ :=
    loadWithin_recalled hreachable.stack_eq hget rfl hmerge
  have hreuses : s.Reuses 4 ⟨"M"⟩ .batch w entry.interface := by
    refine ⟨rfl, ?_⟩
    rw [hreachable.stack_eq]
    exact ⟨_, rfl, .recalled hget⟩
  obtain ⟨-, -, hcontains, -⟩ := reuse_brings_in.2 _ _ _ _ _ _ _ _ _ hreachable hcodec hreuses hload
    hclosed
  exact ⟨s, _, w, w, _, hreachable, hreuses, hload, hbefore, hclosed, hcontains, hafter⟩

end Session

end ModuleLoader
