import ModuleLoader.Proofs.Load.Maintained
import ModuleLoader.Proofs.Load.Steps

/-!
# The course of settled modules and journal

Modules are settled at three places of a load and checked at two, and at none of them does the loader
look whether that has happened before: it has looked much earlier, and gone through any number of
other modules since. What makes this right is that a module is in progress all the while, and that
modules in progress are not settled meanwhile.

`VisitedCache.Course` says what comes of it, event by event. A module is settled only while nothing
is known of it, so that recording it always adds to the settled modules; and a checker is called on a
module only while nothing is known of the module, with exceptions that are up to the load: the ones
that keep private declarations check a module whether it is settled or not.

Nothing is assumed of checkers, codecs and files, and none of the steps that matter here depends on
any of them. So there is no contract to be fulfilled (`Setup.Contract`), and what is written and read
need not even be the same.
-/

namespace ModuleLoader

open Load

/-- The module that an event settles. -/
def Event.settled? : Event → Option ModuleName
  | settled module => some module
  | _ => none

namespace VisitedCache

/-- **A course of events** from some settled modules to others. The calls of checkers on modules that
are settled *again* are named. -/
inductive Course (again : ModuleName → CheckMode → Prop) (start : VisitedCache) :
    List Event → VisitedCache → Prop where
  /-- Nothing has happened. -/
  | refl : Course again start [] start
  /-- A checker was called on a module, which is not settled unless it is checked again. -/
  | checking {events : List Event} {c : VisitedCache} {module : ModuleName} {mode : CheckMode} :
      Course again start events c → c.get? module = none ∨ again module mode →
      Course again start (events ++ [.checking module mode]) c
  /-- A module was settled of which nothing had been known. -/
  | settled {events : List Event} {c : VisitedCache} {module : ModuleName} (entry : VisitedEntry) :
      Course again start events c → c.get? module = none →
      Course again start (events ++ [.settled module]) (c.record module entry)
  /-- A checker left a note. -/
  | note {events : List Event} {c : VisitedCache} (text : String) : Course again start events c →
      Course again start (events ++ [.note text]) c

namespace Course

variable {again : ModuleName → CheckMode → Prop} {start c : VisitedCache} {events : List Event}
  {module : ModuleName} {entry : VisitedEntry}

/-- **What is settled stays settled.** -/
theorem get? (h : Course again start events c) (hget : start.get? module = some entry) :
    c.get? module = some entry := by
  induction h with
  | refl => exact hget
  | checking _ _ ih => exact ih
  | settled _ _ _ ih => exact get?_record_of_get? ih _ _
  | note _ _ ih => exact ih

/-- **A settled module is not settled again.** -/
theorem settled_notMem (h : Course again start events c) (hget : start.get? module = some entry) :
    .settled module ∉ events := by
  induction h with
  | refl => exact List.not_mem_nil
  | checking _ _ ih => simpa using ih
  | @settled events c' module' _ hcourse hnone ih =>
    have hne : module ≠ module' := by
      rintro rfl
      exact absurd (hcourse.get? hget) (by rw [hnone]; exact nofun)
    simpa [hne] using ih
  | note _ _ ih => simpa using ih

/-- **A settled module is checked only if it is checked again.** -/
theorem again_of_checking_mem (h : Course again start events c)
    (hget : start.get? module = some entry) {mode : CheckMode}
    (hmem : .checking module mode ∈ events) : again module mode := by
  induction h with
  | refl => exact absurd hmem List.not_mem_nil
  | checking hcourse hallowed ih =>
    obtain hmem | hlast := List.mem_append.1 hmem
    · exact ih hmem
    · obtain ⟨rfl, rfl⟩ := Event.checking.inj (List.mem_singleton.1 hlast)
      refine hallowed.resolve_left fun hnone => ?_
      exact absurd (hcourse.get? hget) (by rw [hnone]; exact nofun)
  | settled _ _ _ ih => exact ih (by simpa using hmem)
  | note _ _ ih => exact ih (by simpa using hmem)

/-- **Every event that settles a module adds it to the settled ones**, after those before it. -/
theorem entries_map (h : Course again start events c) :
    c.entries.map Prod.fst = start.entries.map Prod.fst ++ events.filterMap Event.settled? := by
  induction h with
  | refl => exact (List.append_nil _).symm
  | checking _ _ ih =>
    rw [List.filterMap_append]
    exact ih.trans (congrArg _ (List.append_nil _).symm)
  | @settled events c' module' entry' _ hnone ih =>
    have hrecord : (c'.record module' entry').entries = c'.entries ++ [(module', entry')] := by
      unfold record contains
      rw [hnone]
      rfl
    rw [hrecord, List.map_append, ih, List.filterMap_append, List.append_assoc]
    rfl
  | note _ _ ih =>
    rw [List.filterMap_append]
    exact ih.trans (congrArg _ (List.append_nil _).symm)

/-- **What is settled on the way was unknown before**, and is settled once. -/
theorem nodup_settled (h : Course again start events c) :
    (events.filterMap Event.settled?).Nodup ∧
      ∀ x ∈ events.filterMap Event.settled?, start.get? x = none := by
  induction h with
  | refl => exact ⟨.nil, nofun⟩
  | checking _ _ ih =>
    rw [List.filterMap_append, show [Event.checking _ _].filterMap Event.settled? = [] from rfl,
      List.append_nil]
    exact ih
  | @settled events c' module' _ hcourse hnone ih =>
    have hnew : module' ∉ events.filterMap Event.settled? := by
      intro hmem
      have hkey : module' ∈ c'.entries.map Prod.fst := by
        rw [hcourse.entries_map]
        exact List.mem_append_right _ hmem
      obtain ⟨e, he, heq⟩ := List.mem_map.1 hkey
      have hdiffer := List.lookup_eq_none_iff.1 hnone e he
      rw [heq] at hdiffer
      simp at hdiffer
    have hunknown : start.get? module' = none := by
      cases hget : start.get? module' with
      | none => rfl
      | some entry => exact absurd (hcourse.get? hget) (by rw [hnone]; exact nofun)
    rw [List.filterMap_append]
    refine ⟨List.nodup_append.2 ⟨ih.1, by simp [Event.settled?], ?_⟩, fun x hx => ?_⟩
    · intro x hx y hy heq
      obtain rfl : y = module' := by simpa [Event.settled?] using hy
      exact hnew (heq ▸ hx)
    · obtain hx | hx := List.mem_append.1 hx
      · exact ih.2 x hx
      · obtain rfl : x = module' := by simpa [Event.settled?] using hx
        exact hunknown
  | note _ _ ih =>
    rw [List.filterMap_append, show [Event.note _].filterMap Event.settled? = [] from rfl,
      List.append_nil]
    exact ih

end Course

end VisitedCache

/-! ## Along a load -/

/-- **A state on a course** from settled modules and a journal. -/
def LoadState.OnCourse (again : ModuleName → CheckMode → Prop) (start : VisitedCache)
    (journal : List Event) (s : LoadState) : Prop :=
  ∃ events, s.world.journal = journal ++ events ∧
    VisitedCache.Course again start events s.caches.visited

namespace LoadState.OnCourse

variable {again : ModuleName → CheckMode → Prop} {start : VisitedCache} {journal : List Event}
  {s s' : LoadState}

/-- A course begins where one is. -/
theorem refl (s : LoadState) :
    OnCourse again s.caches.visited s.world.journal s :=
  ⟨[], (List.append_nil _).symm, .refl⟩

/-- A step that neither settles nor records anything is no part of the course. -/
theorem of_eq (h : OnCourse again start journal s) (hvisited : s'.caches.visited = s.caches.visited)
    (hjournal : s'.world.journal = s.world.journal) : OnCourse again start journal s' := by
  obtain ⟨events, heq, hcourse⟩ := h
  exact ⟨events, hjournal.trans heq, hvisited ▸ hcourse⟩

theorem note (h : OnCourse again start journal s) (text : String) :
    OnCourse again start journal (s.record (.note text)) := by
  obtain ⟨events, heq, hcourse⟩ := h
  refine ⟨events ++ [.note text], ?_, .note text hcourse⟩
  show s.world.journal ++ [Event.note text] = _
  rw [heq, List.append_assoc]

theorem checking (h : OnCourse again start journal s) {module : ModuleName} {mode : CheckMode}
    (hallowed : s.caches.visited.get? module = none ∨ again module mode) :
    OnCourse again start journal (s.record (.checking module mode)) := by
  obtain ⟨events, heq, hcourse⟩ := h
  refine ⟨events ++ [.checking module mode], ?_, .checking hcourse hallowed⟩
  show s.world.journal ++ [Event.checking module mode] = _
  rw [heq, List.append_assoc]

theorem settle (h : OnCourse again start journal s) {module : ModuleName} (entry : VisitedEntry)
    (hnone : s.caches.visited.get? module = none) :
    OnCourse again start journal ((s.settle module entry).record (.settled module)) := by
  obtain ⟨events, heq, hcourse⟩ := h
  refine ⟨events ++ [.settled module], ?_, .settled entry hcourse hnone⟩
  show s.world.journal ++ [Event.settled module] = _
  rw [heq, List.append_assoc]

end LoadState.OnCourse

/-! ### Steps that settle and record nothing -/

namespace Load

variable {α : Type} {load : Load α}

/-- **A step that settles nothing** and leaves no trace in the journal, however it ends. -/
def Still (load : Load α) : Prop :=
  ∀ s r s', load.run.run s = some (r, s') →
    s'.caches.visited = s.caches.visited ∧ s'.world.journal = s.world.journal

/-- Other programs settle nothing either. -/
theorem journal_access (s : LoadState) : s.access.world.journal = s.world.journal := by
  show s.world.next.journal = _
  unfold World.next
  split <;> rfl

section Maintains

variable {again : ModuleName → CheckMode → Prop} {start : VisitedCache} {journal : List Event}
  {frames : List ModuleName} {s : LoadState}

/-- **A still step stays on a course**, whatever else is known of its result. -/
theorem Still.maintains_of {ok : α → LoadState → Prop} (h : load.Still)
    (hs : s.OnCourse again start journal) (hok : load.Ensures s ok fun _ _ => True) :
    load.Maintains (LoadState.OnCourse again start journal) frames s ok := by
  intro r s' hrun
  obtain ⟨hvisited, hjournal⟩ := h s r s' hrun
  have hresult := hok r s' hrun
  cases r with
  | ok a => exact ⟨hs.of_eq hvisited hjournal, .of_eq hvisited, hresult⟩
  | error e => exact ⟨hs.of_eq hvisited hjournal, .of_eq hvisited⟩

theorem Still.maintains (h : load.Still) (hs : s.OnCourse again start journal) :
    load.Maintains (LoadState.OnCourse again start journal) frames s fun _ _ => True :=
  h.maintains_of hs .trivial

end Maintains

theorem still_disk : disk.Still := by
  intro s r s' hrun
  obtain ⟨rfl, rfl⟩ := Prod.mk.inj (Option.some.inj ((run_disk s).symm.trans hrun))
  exact ⟨rfl, journal_access s⟩

theorem still_edit (change : Disk → Except DiskFault Disk) : (edit change).Still := by
  intro s r s' hrun
  cases edits_of_run hrun with
  | changed _ => exact ⟨rfl, journal_access s⟩
  | refused _ => exact ⟨rfl, journal_access s⟩

theorem still_keep (module : ModuleName) (i : Interface) : (keep module i).Still := by
  intro s r s' hrun
  have hkeep : (keep module i).run.run s = some (.ok (), s.keep module i) := rfl
  obtain ⟨rfl, rfl⟩ := Prod.mk.inj (Option.some.inj (hkeep.symm.trans hrun))
  exact ⟨rfl, rfl⟩

end Load

namespace Setup

variable {setup : Setup} {module : ModuleName}

theorem still_locate : (setup.locate module).Still := by
  intro s r s' hrun
  have hjournal := (journal_access s.access).trans (journal_access s)
  cases locates_of_run hrun with
  | missing _ => exact ⟨rfl, journal_access s⟩
  | unreadable _ _ => exact ⟨rfl, hjournal⟩
  | located _ _ => exact ⟨rfl, hjournal⟩

theorem still_refresh (target : Target) : (Setup.refresh target).Still := by
  intro s r s' hrun
  cases refreshes_of_run hrun with
  | unreadable _ => exact ⟨rfl, journal_access s⟩
  | refreshed _ => exact ⟨rfl, journal_access s⟩

theorem still_refreshFor (mode : CheckMode) (target : Target) :
    (Setup.refreshFor mode target).Still := by
  unfold refreshFor
  split
  · intro s r s' hrun
    obtain ⟨rfl, rfl⟩ := Prod.mk.inj (Option.some.inj hrun)
    exact ⟨rfl, rfl⟩
  · exact still_refresh target

theorem still_stored (target : Target) : (setup.stored target).Still := by
  intro s r s' hrun
  have hlooked : (setup.lookedUp s target).world.journal = s.world.journal := journal_access s
  have hexists := (journal_access (setup.lookedUp s target)).trans hlooked
  have hread := (journal_access (setup.lookedUp s target).access).trans hexists
  cases looksUp_of_run hrun with
  | decoded _ _ _ => exact ⟨rfl, hlooked⟩
  | absent _ => exact ⟨rfl, hexists⟩
  | unreadable _ => exact ⟨rfl, hread⟩
  | read _ => exact ⟨rfl, hread⟩

theorem still_persist (target : Target) (i : Interface) : (setup.persist target i).Still := by
  intro s r s' hrun
  cases persists_of_run hrun with
  | written _ => exact ⟨rfl, journal_access s⟩
  | failed _ => exact ⟨rfl, journal_access s⟩

/-- What is located is the target of the module. -/
theorem ensures_locate (s : LoadState) : (setup.locate module).Ensures s
    (fun target _ => setup.IsTarget module target) fun _ _ => True := by
  intro r s' hrun
  cases locates_of_run hrun with
  | missing _ => exact True.intro
  | unreadable _ _ => exact True.intro
  | located _ _ => exact setup.isTarget_targetAt _ _ _

/-- A target that is read again is that of the same module. -/
theorem ensures_refresh (target : Target) (s : LoadState) : (Setup.refresh target).Ensures s
    (fun target' _ => target'.name = target.name) fun _ _ => True := by
  intro r s' hrun
  cases refreshes_of_run hrun with
  | unreadable _ => exact True.intro
  | refreshed _ => exact rfl

end Setup

/-! ### The functions of the loader -/

namespace LoadState.OnCourse

variable {again : ModuleName → CheckMode → Prop} {start : VisitedCache} {journal : List Event}
  {setup : Setup} {importer : Importer} {frames : List ModuleName} {s : LoadState}

section Importing

variable (himporter : importer.Maintains (OnCourse again start journal) (fun _ => True) frames)

include himporter

/-- The run of a check, by induction on its requests. -/
theorem run {α : Type} (check : Check α) (context : CheckContext)
    (hs : s.OnCourse again start journal) :
    (setup.run importer context check).Maintains (OnCourse again start journal) frames s
      fun _ _ => True := by
  induction check generalizing context s with
  | done result => exact Maintains.pure hs True.intro
  | fail error => exact Maintains.throw hs
  | ask request next ih =>
    have hanswer : (setup.answer importer context request).Maintains
        (OnCourse again start journal) frames s fun _ _ => True := by
      cases request with
      | resolve imported =>
        exact (Setup.Contract.importInto himporter context True.intro hs).mono
          fun _ _ _ _ _ => True.intro
      | context => exact Maintains.pure hs True.intro
      | setOptions options => exact Maintains.pure hs True.intro
      | warn warning => exact Maintains.pure hs True.intro
      | read path =>
        exact (still_disk.maintains hs).bind fun _ _ hs₁ _ _ => Maintains.pure hs₁ True.intro
      | edit change =>
        exact ((still_edit change).maintains hs).bind
          fun _ _ hs₁ _ _ => Maintains.pure hs₁ True.intro
      | note text => exact Maintains.after rfl (.of_eq rfl) (Maintains.pure (hs.note text) True.intro)
    exact hanswer.bind fun r s₁ hs₁ _ _ => ih r.1 r.2 hs₁

/-- A target is validated. -/
theorem validate (target : Target) (scope : ImportedScope) (hs : s.OnCourse again start journal) :
    (setup.validate importer target scope).Maintains (OnCourse again start journal) frames s
      fun _ _ => True := by
  unfold Setup.validate
  refine ((Setup.still_stored target).maintains hs).bind fun r s₁ hs₁ _ _ => ?_
  cases r with
  | error reason => exact Maintains.pure hs₁ True.intro
  | ok i =>
    dsimp only
    split
    · exact Maintains.pure hs₁ True.intro
    · refine (Setup.Contract.changedImport? himporter scope (fun _ _ => True.intro) hs₁).bind
        fun reason s₂ hs₂ _ _ => ?_
      cases reason with
      | some reason => exact Maintains.pure hs₂ True.intro
      | none =>
        exact ((still_keep target.name i).maintains hs₂).bind
          fun _ _ hs₃ _ _ => Maintains.pure hs₃ True.intro

/-- **A target is checked**, if it may be. -/
theorem build (target : Target) (mode : CheckMode) (scope : ImportedScope)
    (hs : s.OnCourse again start journal)
    (hallowed : s.caches.visited.get? target.name = none ∨ again target.name mode) :
    (setup.build importer target mode scope).Maintains (OnCourse again start journal) frames s
      fun _ _ => True := by
  unfold Setup.build
  refine Maintains.after rfl (.of_eq rfl) ?_
  refine (run himporter _ _ (hs.checking hallowed)).bind fun r s₁ hs₁ _ _ => ?_
  obtain ⟨checked, context⟩ := r
  dsimp only
  split
  · cases (setup.interfaceOf target checked context).sealed setup.codec with
    | error e => exact Maintains.after_failure rfl (.refl frames s₁) hs₁
    | ok i =>
      refine Maintains.after rfl (.refl frames s₁) ?_
      split
      · exact ((Setup.still_persist target i).maintains hs₁).bind
          fun _ _ hs₂ _ _ => Maintains.pure hs₂ True.intro
      · exact Maintains.pure hs₁ True.intro
  · exact Maintains.throw hs₁

/-- **A target is checked until it is up to date**, all the while in progress and so never settled. -/
theorem rebuild (scope : ImportedScope) (left : Nat) {target : Target}
    (hmem : target.name ∈ frames) (hs : s.OnCourse again start journal)
    (hnone : s.caches.visited.get? target.name = none) :
    (setup.rebuild importer scope left target).Maintains (OnCourse again start journal) frames s
      fun _ _ => True := by
  induction left generalizing target s with
  | zero => exact Maintains.throw hs
  | succ left ih =>
    unfold Setup.rebuild
    refine (build himporter target .batch scope hs (.inl hnone)).bind fun built s₁ hs₁ hext₁ _ => ?_
    split
    · have hrefresh : (Setup.refresh target).Maintains (OnCourse again start journal) frames s₁
          fun target' _ => target'.name = target.name :=
        (Setup.still_refresh target).maintains_of hs₁ (Setup.ensures_refresh target s₁)
      refine hrefresh.bind fun target' s₂ hs₂ hext₂ hname => ?_
      refine (validate himporter target' scope hs₂).bind fun r s₃ hs₃ hext₃ _ => ?_
      cases r with
      | ok i => exact Maintains.pure hs₃ True.intro
      | error reason =>
        have hnone₃ : s₃.caches.visited.get? target.name = none :=
          ((hext₁.trans hext₂).trans hext₃).get?_eq_none hmem hnone
        exact ih (hname ▸ hmem) hs₃ (hname ▸ hnone₃)
    · exact Maintains.pure hs₁ True.intro

/-- A target is obtained. -/
theorem obtain (scope : ImportedScope) {target : Target} (hmem : target.name ∈ frames)
    (hs : s.OnCourse again start journal) (hnone : s.caches.visited.get? target.name = none) :
    (setup.obtain importer scope target).Maintains (OnCourse again start journal) frames s
      fun _ _ => True := by
  unfold Setup.obtain
  refine (validate himporter target scope hs).bind fun r s₁ hs₁ hext _ => ?_
  cases r with
  | ok i => exact Maintains.pure hs₁ True.intro
  | error reason =>
    exact (rebuild himporter scope setup.attempts hmem hs₁ (hext.get?_eq_none hmem hnone)).bind
      fun _ _ hs₂ _ _ => Maintains.pure hs₂ True.intro

/-- **A module is settled on request.** In progress since nothing was known of it, it is still unknown
when it is settled. -/
theorem settleImport {module : ModuleName} {outer : List ModuleName} (hsubset : outer ⊆ frames)
    (hmem : module ∈ frames) (hnew : module ∉ outer) (scope : ImportedScope)
    (hs : s.OnCourse again start journal) :
    (setup.settleImport importer scope module).Maintains (OnCourse again start journal) outer s
      fun entry s' => s'.caches.visited.get? module = some entry := by
  unfold Setup.settleImport
  refine Maintains.after rfl (.refl outer s) ?_
  cases hvisited : s.caches.visited.get? module with
  | some entry => exact Maintains.pure hs hvisited
  | none =>
    have hobtain : (setup.locate module >>= setup.obtain importer scope).Maintains
        (OnCourse again start journal) frames s fun _ _ => True := by
      refine (Setup.still_locate.maintains_of hs (Setup.ensures_locate s)).bind
        fun target s₁ hs₁ hext htarget => ?_
      obtain rfl := htarget.name
      exact obtain himporter scope hmem hs₁ (hext.get?_eq_none hmem hvisited)
    rw [← bind_assoc]
    refine hobtain.bind_of_subset hsubset fun entry s₁ hs₁ hext _ => ?_
    have hnone : s₁.caches.visited.get? module = none := hext.get?_eq_none hmem hvisited
    exact Maintains.of_run rfl (LoadState.Extends.settle hnew) (hs₁.settle entry hnone)
      (LoadState.get?_settle hnone entry)

end Importing

/-- **Resolving an import stays on a course**, to every depth. -/
theorem resolve (depth : Nat) (stack : ImportStack) :
    (setup.resolve depth stack).Maintains (OnCourse again start journal) (fun _ => True)
      stack.frames := by
  induction depth generalizing stack with
  | zero => exact fun _ _ _ _ _ => ensures_exhausted
  | succ depth ih =>
    intro scope module s _ hs
    rw [Setup.resolve_succ]
    unfold Setup.resolveStep Setup.entering
    cases hpush : stack.push module with
    | error cycle => exact Maintains.after_failure rfl (.refl _ s) hs
    | ok pushed =>
      have hframes := ImportStack.frames_of_push hpush
      have hnew := ImportStack.notMem_of_push hpush
      refine (settleImport (ih pushed) (hframes ▸ List.subset_append_left _ _)
        (hframes ▸ List.mem_append_right _ (List.mem_singleton_self _)) hnew scope hs).bind
        fun entry s₁ hs₁ _ hvisited => ?_
      split
      · rename_i himportable
        exact Maintains.pure hs₁ ⟨hvisited, himportable⟩
      · exact Maintains.throw hs₁

/-! ### Entry modules -/

/-- An entry module is settled in a mode that settles. -/
theorem settleEntry {mode : CheckMode} {module : ModuleName} {outer : List ModuleName}
    (entry : VisitedEntry) (hnew : module ∉ outer) (hs : s.OnCourse again start journal)
    (hnone : mode.persists = true → s.caches.visited.get? module = none) :
    (Setup.settleEntry mode module entry).Maintains (OnCourse again start journal) outer s
      fun _ _ => True := by
  unfold Setup.settleEntry
  split
  · rename_i hmode
    exact Maintains.of_run rfl (LoadState.Extends.settle hnew)
      (hs.settle entry (hnone hmode)) True.intro
  · exact Maintains.pure hs True.intro

/-- An entry module is checked in place. -/
theorem buildEntry {outer : List ModuleName}
    (himporter : importer.Maintains (OnCourse again start journal) (fun _ => True) frames)
    {target : Target} (hsubset : outer ⊆ frames) (hmem : target.name ∈ frames)
    (hnew : target.name ∉ outer) (mode : CheckMode) (scope : ImportedScope)
    (hs : s.OnCourse again start journal)
    (hallowed : s.caches.visited.get? target.name = none ∨
      again target.name mode ∧ mode.persists = false) :
    (setup.buildEntry importer target mode scope).Maintains (OnCourse again start journal) outer s
      fun _ _ => True := by
  unfold Setup.buildEntry
  refine (build himporter target mode scope hs (hallowed.imp_right And.left)).bind_of_subset hsubset
    fun built s₁ hs₁ hext _ => ?_
  have hnone : mode.persists = true → s₁.caches.visited.get? target.name = none := by
    intro hmode
    refine hext.get?_eq_none hmem (hallowed.resolve_right fun h => ?_)
    rw [hmode] at h
    exact absurd h.2 nofun
  refine (settleEntry _ hnew hs₁ hnone).bind fun _ s₂ hs₂ _ _ => ?_
  cases built.scope.merge built.interface with
  | error e => exact Maintains.after_failure rfl (.refl _ s₂) hs₂
  | ok scope => exact Maintains.pure hs₂ True.intro

/-- **An entry module is loaded**, while it is in progress. If it is settled already, then it is
checked only in a mode that keeps private declarations, and in that it is checked again. -/
theorem loadEntry {module : ModuleName} {outer : List ModuleName}
    (himporter : importer.Maintains (OnCourse again start journal) (fun _ => True) frames)
    (hsubset : outer ⊆ frames) (hmem : module ∈ frames) (hnew : module ∉ outer) {mode : CheckMode}
    (scope : ImportedScope) (hs : s.OnCourse again start journal)
    (hagain : mode.retainsPrivate = true → again module mode) :
    (setup.loadEntry importer scope module mode).Maintains (OnCourse again start journal) outer s
      fun _ _ => True := by
  unfold Setup.loadEntry
  refine Maintains.after rfl (.refl _ s) ?_
  split
  · exact (Setup.Contract.endReusing scope _ _ hs).mono fun _ _ _ _ _ => True.intro
  · rename_i hcase
    have hunsettled : mode.retainsPrivate = false → s.caches.visited.get? module = none := by
      intro hmode
      cases hvisited : s.caches.visited.get? module with
      | none => rfl
      | some entry => exact (hcase entry hvisited hmode).elim
    have hrefresh : (setup.locate module >>= Setup.refreshFor mode).Maintains
        (OnCourse again start journal) frames s fun target _ => target.name = module := by
      refine (Setup.still_locate.maintains_of hs (Setup.ensures_locate s)).bind
        fun located s₁ hs₁ _ htarget => ?_
      unfold Setup.refreshFor
      split
      · exact Maintains.pure hs₁ htarget.name
      · exact (Setup.still_refresh located).maintains_of hs₁
          ((Setup.ensures_refresh located s₁).mono_ok fun _ _ h => h.trans htarget.name)
    unfold Setup.loadTarget
    rw [← bind_assoc]
    refine hrefresh.bind_of_subset hsubset fun target s₁ hs₁ hext₁ hname => ?_
    subst hname
    split
    · rename_i hmode
      have hpersists : mode.persists = false := by
        cases mode with
        | scopeOnly => rfl
        | typeCheck retainPrivate => rw [show retainPrivate = true from hmode]; rfl
      exact buildEntry himporter hsubset hmem hnew mode scope hs₁
        (.inr ⟨hagain hmode, hpersists⟩)
    · rename_i hmode
      have hnone₁ := hext₁.get?_eq_none hmem (hunsettled (Bool.not_eq_true _ ▸ hmode))
      unfold Setup.validateEntry
      refine (validate himporter target scope hs₁).bind_of_subset hsubset
        fun r s₂ hs₂ hext₂ _ => ?_
      have hnone₂ := hext₂.get?_eq_none hmem hnone₁
      cases r with
      | ok i =>
        refine (settleEntry _ hnew hs₂ fun _ => hnone₂).bind fun _ s₃ hs₃ _ _ => ?_
        exact (Setup.Contract.endReusing scope i [] hs₃).mono fun _ _ _ _ _ => True.intro
      | error reason =>
        exact buildEntry himporter hsubset hmem hnew mode scope hs₂ (.inl hnone₂)

end LoadState.OnCourse

/-- **What has been resolved is known**, and nothing that was known before is lost. -/
theorem Setup.knows_of_resolve {setup : Setup} {depth : Nat} {stack : ImportStack}
    {scope : ImportedScope} {s s' : LoadState} {x : ModuleName} {r : Except LoadError VisitedEntry}
    (h : (setup.resolve depth stack scope x).run.run s = some (r, s')) :
    LoadState.Extends stack.frames s s' ∧ ∀ entry, r = .ok entry → s'.Knows x entry := by
  have hmaintains : (setup.resolve depth stack).Maintains
      (LoadState.OnCourse (fun _ _ => False) s.caches.visited s.world.journal) (fun _ => True)
      stack.frames :=
    LoadState.OnCourse.resolve depth stack
  have hcourse := hmaintains scope x s trivial (.refl s) r s' h
  cases r with
  | ok entry =>
    obtain ⟨-, hext, hknows⟩ := hcourse
    refine ⟨hext, fun _ heq => ?_⟩
    rwa [← Except.ok.inj heq]
  | error e => exact ⟨hcourse.2, nofun⟩

end ModuleLoader
