import ModuleLoader.Proofs.Load.Chronicle

/-!
# Rules of conduct

Frame conditions of loads, of the form *what this load does not touch*, all follow one line. A load
is made of few kinds of steps, it does not touch a module while that module is in progress, and what
is true of one step after another is true of them together. A `Setup.Conduct` is a relation between
the state before and the state after, for the modules in progress in between, together with the
proof that every kind of step is in it; `Setup.Conduct.resolve` says that the relation then holds
between the two ends of whatever is resolved, to every depth, whatever checkers do and however the
resolution ends.

Of the steps that concern one module – looking up its decoded interface, keeping it, writing it,
settling it – only those have to be in the relation whose module is *not* in progress. That none of
the others happens is what `Setup.Conduct.resolve` adds: a module is pushed onto the stack before
anything is done for it, and a module that is on the stack already is not pushed again.
-/

namespace ModuleLoader

open Load

namespace Setup

/-- **A rule of conduct**: a relation between the states before and after, while some modules are in
progress, that every step of a load is in. -/
structure Conduct (setup : Setup) where
  /-- The relation. -/
  obeys : List ModuleName → LoadState → LoadState → Prop
  /-- Nothing is done. -/
  refl (frames : List ModuleName) (s : LoadState) : obeys frames s s
  /-- One thing is done after another. -/
  trans {frames : List ModuleName} {s₁ s₂ s₃ : LoadState} :
    obeys frames s₁ s₂ → obeys frames s₂ s₃ → obeys frames s₁ s₃
  /-- With fewer modules in progress less is demanded. -/
  of_subset {frames frames' : List ModuleName} {s s' : LoadState} : frames ⊆ frames' →
    obeys frames' s s' → obeys frames s s'
  /-- The disk is accessed. -/
  access (frames : List ModuleName) (s : LoadState) : obeys frames s s.access
  /-- An event is recorded, but no check of a module in progress. -/
  record {frames : List ModuleName} {event : Event} (s : LoadState) :
    (∀ x mode, event = .checking x mode → x ∉ frames) → obeys frames s (s.record event)
  /-- A source that was read, or read again, is remembered. -/
  sources (frames : List ModuleName) (s : LoadState) {d : Disk} {path : Path} {file : SourceFile}
      {sources : SourceCache} :
    s.caches.sources.load d path = .ok (file, sources) ∨
      s.caches.sources.reload d path = .ok (file, sources) → obeys frames s (s.withSources sources)
  /-- A checker changes the disk. -/
  edit {frames : List ModuleName} {s : LoadState} {change : Disk → Except DiskFault Disk}
      {d : Disk} :
    setup.MayEdit change → change s.world.disk = .ok d → obeys frames s (s.withDisk d)
  /-- The decoded interface of a module is looked up, which may drop it. -/
  lookUp {frames : List ModuleName} {x : ModuleName} (s : LoadState) (onDisk : Option Digest) :
    x ∉ frames → obeys frames s (s.withDecoded (s.caches.decoded.getCurrent? x onDisk).2)
  /-- An interface is kept for a module. -/
  keep {frames : List ModuleName} {x : ModuleName} (s : LoadState) (i : Interface) :
    x ∉ frames → obeys frames s (s.keep x i)
  /-- An interface is written where the artifact of its module lies, or that fails. -/
  write {frames : List ModuleName} {s : LoadState} {path : Path} {i : Interface}
      {result : Except CacheError Interface} {d : Disk} :
    i.name ∉ frames → setup.Lies i.name path →
    setup.store.write setup.codec path i s.world.disk = (result, d) → obeys frames s (s.withDisk d)
  /-- A module is settled. -/
  settle {frames : List ModuleName} {x : ModuleName} (s : LoadState) (entry : VisitedEntry) :
    x ∉ frames → obeys frames s (s.settle x entry)

end Setup

namespace Load

variable {α β : Type} {setup : Setup} {conduct : setup.Conduct} {frames : List ModuleName}
  {load : Load α}

/-- **A load obeys a rule of conduct**, whatever state it starts in and however it ends. -/
def Obeys (conduct : setup.Conduct) (frames : List ModuleName) (load : Load α) : Prop :=
  ∀ s r s', load.run.run s = some (r, s') → conduct.obeys frames s s'

namespace Obeys

theorem of_run {a : LoadState → α} {s' : LoadState → LoadState}
    (hrun : ∀ s, load.run.run s = some (.ok (a s), s' s))
    (h : ∀ s, conduct.obeys frames s (s' s)) : load.Obeys conduct frames := by
  intro s r t hload
  obtain ⟨rfl, rfl⟩ := Prod.mk.inj (Option.some.inj ((hrun s).symm.trans hload))
  exact h s

theorem pure (a : α) : (pure a : Load α).Obeys conduct frames :=
  of_run (fun _ => rfl) (conduct.refl frames)

theorem ofExcept (result : Except LoadError α) : (ofExcept result).Obeys conduct frames := by
  intro s r s' hrun
  obtain ⟨-, rfl⟩ := Prod.mk.inj (Option.some.inj hrun)
  exact conduct.refl frames s

theorem throw (e : LoadError) : (throw e : Load α).Obeys conduct frames := ofExcept (.error e)

/-- One load after another, the first with a result of which something holds. -/
theorem bind_of {ok : α → Prop} (hok : load.Yields ok) (h : load.Obeys conduct frames)
    {next : α → Load β} (hnext : ∀ a, ok a → (next a).Obeys conduct frames) :
    (load >>= next).Obeys conduct frames := by
  intro s r s'' hrun
  rw [run_bind] at hrun
  obtain ⟨⟨r₁, s'⟩, hrun₁, hrun⟩ := Option.bind_eq_some_iff.1 hrun
  have hfirst := h s r₁ s' hrun₁
  cases r₁ with
  | ok a => exact conduct.trans hfirst (hnext a (hok s a s' hrun₁) s' r s'' hrun)
  | error e =>
    obtain ⟨rfl, rfl⟩ := Prod.mk.inj (Option.some.inj hrun)
    exact hfirst

/-- One load after another. -/
theorem bind (h : load.Obeys conduct frames) {next : α → Load β}
    (hnext : ∀ a, (next a).Obeys conduct frames) : (load >>= next).Obeys conduct frames := by
  have hany : load.Yields fun _ => True := fun _ _ _ _ => trivial
  exact bind_of hany h fun a _ => hnext a

/-- A failure that is looked at is no failure any more. -/
theorem outcome (h : load.Obeys conduct frames) : load.outcome.Obeys conduct frames := by
  intro s r s' hrun
  rw [run_outcome] at hrun
  obtain ⟨⟨r₁, s₁⟩, hload, heq⟩ := Option.map_eq_some_iff.1 hrun
  obtain ⟨rfl, rfl⟩ := Prod.mk.inj heq
  exact h s r₁ s₁ hload

theorem of_subset {frames' : List ModuleName} (hsubset : frames ⊆ frames')
    (h : load.Obeys conduct frames') : load.Obeys conduct frames :=
  fun s r s' hrun => conduct.of_subset hsubset (h s r s' hrun)

theorem disk : disk.Obeys conduct frames := of_run run_disk (conduct.access frames)

end Obeys

end Load

namespace Setup

variable {setup : Setup} {module : ModuleName} {target : Target}

namespace Conduct

variable (conduct : setup.Conduct) {frames : List ModuleName} {importer : Importer}
  {mode : CheckMode}

/-! ### Steps -/

theorem locate : (setup.locate module).Obeys conduct frames := by
  intro s r s' hrun
  have hfirst := conduct.access frames s
  have htwice := conduct.trans hfirst (conduct.access frames s.access)
  cases locates_of_run hrun with
  | missing _ => exact hfirst
  | unreadable _ _ => exact htwice
  | located _ hload => exact conduct.trans htwice (conduct.sources frames _ (.inl hload))

theorem refresh : (refresh target).Obeys conduct frames := by
  intro s r s' hrun
  have hfirst := conduct.access frames s
  cases refreshes_of_run hrun with
  | unreadable _ => exact hfirst
  | refreshed hreload => exact conduct.trans hfirst (conduct.sources frames _ (.inr hreload))

theorem stored (hnew : target.name ∉ frames) : (setup.stored target).Obeys conduct frames := by
  intro s r s' hrun
  have hlooked : conduct.obeys frames s (setup.lookedUp s target) :=
    conduct.trans (conduct.access frames s) (conduct.lookUp s.access _ hnew)
  have hexists := conduct.trans hlooked (conduct.access frames _)
  have hread := conduct.trans hexists (conduct.access frames _)
  cases looksUp_of_run hrun with
  | decoded _ _ _ => exact hlooked
  | absent _ => exact hexists
  | unreadable _ => exact hread
  | read _ => exact hread

theorem persist {i : Interface} (hnew : i.name ∉ frames) (hi : i.name = target.name)
    (hlies : setup.Lies target.name target.interfacePath) :
    (setup.persist target i).Obeys conduct frames := by
  intro s r s' hrun
  have hfirst := conduct.access frames s
  cases persists_of_run hrun with
  | written hwrite =>
    have hwritten := conduct.trans hfirst (conduct.write hnew (hi.symm ▸ hlies) hwrite)
    exact conduct.trans hwritten (conduct.keep _ _ (hi ▸ hnew))
  | failed hwrite => exact conduct.trans hfirst (conduct.write hnew (hi.symm ▸ hlies) hwrite)

theorem visited? : (Load.visited? module).Obeys conduct frames :=
  Obeys.of_run (fun _ => rfl) (conduct.refl frames)

theorem settles (hnew : module ∉ frames) (entry : VisitedEntry) :
    (Load.settle module entry).Obeys conduct frames := by
  have hrun : ∀ s, (Load.settle module entry).run.run s
      = some (.ok (), (s.settle module entry).record (.settled module)) := fun _ => rfl
  exact Obeys.of_run hrun fun s =>
    conduct.trans (conduct.settle s entry hnew) (conduct.record _ fun _ _ => nofun)

/-! ### The functions of the loader -/

section Importing

variable {conduct} (himporter : ∀ scope m, (importer scope m).Obeys conduct frames)

include himporter

theorem importInto (context : CheckContext) (imported : ModuleName) :
    (setup.importInto importer context imported).Obeys conduct frames := by
  rw [Setup.importInto_eq]
  exact (himporter context.scope imported).outcome.bind fun _ => Obeys.pure _

/-- A request is answered: of the changes it may ask for. -/
theorem answer (context : CheckContext) (request : Request)
    (hedits : ∀ change, request = .edit change → setup.MayEdit change) :
    (setup.answer importer context request).Obeys conduct frames := by
  cases request with
  | resolve imported => exact importInto himporter context imported
  | context => exact Obeys.pure _
  | setOptions options => exact Obeys.pure _
  | warn warning => exact Obeys.pure _
  | read path => exact Obeys.disk.bind fun _ => Obeys.pure _
  | edit change =>
    refine Obeys.bind ?_ fun _ => Obeys.pure _
    intro s r s' hrun
    have hfirst := conduct.access frames s
    cases edits_of_run hrun with
    | changed hchange => exact conduct.trans hfirst (conduct.edit (hedits change rfl) hchange)
    | refused _ => exact hfirst
  | note text =>
    have hnote : (Load.record (.note text)).Obeys conduct frames :=
      Obeys.of_run (fun _ => rfl) fun s => conduct.record s fun _ _ => nofun
    exact hnote.bind fun _ => Obeys.pure _

/-- **A check obeys through its requests**, by induction on them. -/
theorem run {α : Type} (check : Check α) (context : CheckContext)
    (hedits : ∀ change, check.Edits change → setup.MayEdit change) :
    (setup.run importer context check).Obeys conduct frames := by
  induction check generalizing context with
  | done result => exact Obeys.pure _
  | fail error => exact Obeys.throw _
  | ask request next ih =>
    refine (answer himporter context request ?_).bind fun r => ?_
    · rintro change rfl
      exact hedits change .now
    · exact ih r.1 r.2 fun change h => hedits change (.later r.1 h)

theorem changedImport? (scope : ImportedScope) (imports : List (ModuleName × Digest)) :
    (Interface.changedImport? (currentHash importer scope) imports).Obeys conduct frames := by
  induction imports with
  | nil => exact Obeys.pure _
  | cons e rest ih =>
    obtain ⟨imported, recorded⟩ := e
    unfold Interface.changedImport? currentHash
    refine ((himporter scope imported).bind fun _ => Obeys.pure _).bind fun digest => ?_
    split
    · exact ih
    · exact Obeys.pure _

theorem validate (hnew : target.name ∉ frames) (scope : ImportedScope) :
    (setup.validate importer target scope).Obeys conduct frames := by
  unfold Setup.validate
  refine (conduct.stored hnew).bind fun r => ?_
  cases r with
  | error reason => exact Obeys.pure _
  | ok i =>
    dsimp only
    split
    · exact Obeys.pure _
    · refine (changedImport? himporter scope i.imports).bind fun reason => ?_
      cases reason with
      | some reason => exact Obeys.pure _
      | none =>
        have hkeep : (Load.keep target.name i).Obeys conduct frames :=
          Obeys.of_run (fun _ => rfl) fun s => conduct.keep s i hnew
        exact hkeep.bind fun _ => Obeys.pure _

/-- **A target is checked in a mode in which nothing is written.** The target itself may be in
progress, if the relation does not mind that it is checked. -/
theorem build_of_not_persists (scope : ImportedScope) (hmode : mode.persists = false)
    (hrecord : ∀ s, conduct.obeys frames s (s.record (.checking target.name mode))) :
    (setup.build importer target mode scope).Obeys conduct frames := by
  unfold Setup.build
  have hchecking : (Load.record (.checking target.name mode)).Obeys conduct frames :=
    Obeys.of_run (fun _ => rfl) hrecord
  refine hchecking.bind fun _ => ?_
  refine (run himporter _ _ fun change h => ⟨target.name, target.source, mode, h⟩).bind fun r => ?_
  obtain ⟨checked, context⟩ := r
  dsimp only
  split
  · refine (Obeys.ofExcept _).bind fun i => ?_
    have hwrites : setup.writes mode i = false := by
      unfold writes
      rw [hmode, Bool.false_and, Bool.false_and]
    rw [if_neg (by simp [hwrites])]
    exact Obeys.pure _
  · exact Obeys.throw _

/-- **A target is checked, and what comes of it may be written**, as long as the target is not in
progress elsewhere. -/
theorem build (hlies : setup.Lies target.name target.interfacePath) (hnew : target.name ∉ frames)
    (mode : CheckMode) (scope : ImportedScope) :
    (setup.build importer target mode scope).Obeys conduct frames := by
  unfold Setup.build
  have hchecking : (Load.record (.checking target.name mode)).Obeys conduct frames := by
    refine Obeys.of_run (fun _ => rfl) fun s => conduct.record s ?_
    rintro _ _ ⟨⟩
    exact hnew
  refine hchecking.bind fun _ => ?_
  refine (run himporter _ _ fun change h => ⟨target.name, target.source, mode, h⟩).bind fun r => ?_
  obtain ⟨checked, context⟩ := r
  dsimp only
  split
  · rename_i hname
    have hyields : (Load.ofExcept (((setup.interfaceOf target checked context).sealed
        setup.codec).mapError .cache)).Yields fun i => i.name = target.name := by
      intro t i t' h
      cases hsealed : (setup.interfaceOf target checked context).sealed setup.codec with
      | error e => rw [hsealed] at h; exact absurd (congrArg Prod.fst (Option.some.inj h)) nofun
      | ok j =>
        rw [hsealed] at h
        obtain rfl := Except.ok.inj (congrArg Prod.fst (Option.some.inj h))
        obtain ⟨body, -, rfl⟩ := Interface.sealed_eq_ok hsealed
        exact hname
    refine Obeys.bind_of hyields (Obeys.ofExcept _) fun i hi => ?_
    split
    · exact (conduct.persist (hi ▸ hnew) hi hlies).bind fun _ => Obeys.pure _
    · exact Obeys.pure _
  · exact Obeys.throw _

theorem rebuild (scope : ImportedScope) (left : Nat)
    (hlies : setup.Lies target.name target.interfacePath) (hnew : target.name ∉ frames) :
    (setup.rebuild importer scope left target).Obeys conduct frames := by
  induction left generalizing target with
  | zero => exact Obeys.throw _
  | succ left ih =>
    unfold Setup.rebuild
    refine (build himporter hlies hnew .batch scope).bind fun built => ?_
    split
    · refine Obeys.bind_of yields_refresh conduct.refresh ?_
      rintro _ ⟨source, rfl⟩
      have hnew' : ({ target with source } : Target).name ∉ frames := hnew
      refine (validate himporter hnew' scope).bind fun r => ?_
      cases r with
      | ok i => exact Obeys.pure _
      | error reason => exact ih hlies hnew
    · exact Obeys.pure _

theorem obtain (scope : ImportedScope) (hlies : setup.Lies target.name target.interfacePath)
    (hnew : target.name ∉ frames) :
    (setup.obtain importer scope target).Obeys conduct frames := by
  unfold Setup.obtain
  refine (validate himporter hnew scope).bind fun r => ?_
  cases r with
  | ok i => exact Obeys.pure _
  | error reason =>
    exact (rebuild himporter scope setup.attempts hlies hnew).bind fun _ => Obeys.pure _

/-- A module is settled on request, if it is not in progress. -/
theorem settleImport (hnew : module ∉ frames) (scope : ImportedScope) :
    (setup.settleImport importer scope module).Obeys conduct frames := by
  unfold Setup.settleImport
  refine conduct.visited?.bind fun known? => ?_
  cases known? with
  | some entry => exact Obeys.pure _
  | none =>
    refine Obeys.bind_of yields_locate conduct.locate ?_
    rintro target ⟨rfl, hlies⟩
    refine (obtain himporter scope hlies hnew).bind fun entry => ?_
    exact (conduct.settles hnew entry).bind fun _ => Obeys.pure _

end Importing

/-- **Resolving an import obeys every rule of conduct**, to every depth. -/
theorem resolve (depth : Nat) (stack : ImportStack) (scope : ImportedScope) (module : ModuleName) :
    (setup.resolve depth stack scope module).Obeys conduct stack.frames := by
  induction depth generalizing stack scope module with
  | zero => exact fun _ _ _ hrun => nomatch hrun
  | succ depth ih =>
    rw [resolve_succ]
    unfold resolveStep entering
    refine Obeys.bind ?_ fun entry => ?_
    · cases hpush : stack.push module with
      | error cycle => exact Obeys.throw _
      | ok pushed =>
        have hsubset : stack.frames ⊆ pushed.frames :=
          ImportStack.frames_of_push hpush ▸ List.subset_append_left _ _
        exact settleImport (fun scope m => (ih pushed scope m).of_subset hsubset)
          (ImportStack.notMem_of_push hpush) scope
    · split
      · exact Obeys.pure _
      · exact Obeys.throw _

/-! ### Entry modules -/

theorem settleEntry (hnew : module ∉ frames) (entry : VisitedEntry) :
    (settleEntry mode module entry).Obeys conduct frames := by
  unfold Setup.settleEntry
  split
  · exact conduct.settles hnew entry
  · exact Obeys.pure _

theorem reuse (scope : ImportedScope) (i : Interface) (warnings : List Diagnostic) :
    (reuse scope i warnings).Obeys conduct frames := by
  unfold Setup.reuse
  exact (Obeys.of_run run_get (conduct.refl frames)).bind fun s =>
    (Obeys.ofExcept _).bind fun _ => Obeys.pure _

theorem refreshFor : (refreshFor mode target).Obeys conduct frames := by
  unfold Setup.refreshFor
  split
  · exact Obeys.pure _
  · exact conduct.refresh

section Importing

variable {conduct} (himporter : ∀ scope m, (importer scope m).Obeys conduct frames)

include himporter

theorem buildEntry (hlies : setup.Lies target.name target.interfacePath)
    (hnew : target.name ∉ frames) (scope : ImportedScope) :
    (setup.buildEntry importer target mode scope).Obeys conduct frames := by
  unfold Setup.buildEntry
  refine (build himporter hlies hnew mode scope).bind fun built => ?_
  exact (conduct.settleEntry hnew _).bind fun _ => (Obeys.ofExcept _).bind fun _ => Obeys.pure _

theorem validateEntry (hlies : setup.Lies target.name target.interfacePath)
    (hnew : target.name ∉ frames) (scope : ImportedScope) :
    (setup.validateEntry importer target mode scope).Obeys conduct frames := by
  unfold Setup.validateEntry
  refine (validate himporter hnew scope).bind fun r => ?_
  cases r with
  | ok i => exact (conduct.settleEntry hnew _).bind fun _ => conduct.reuse scope i []
  | error reason => exact buildEntry himporter hlies hnew scope

/-- **Loading an entry module obeys every rule of conduct**, while nothing is excluded that is done
for the module itself. -/
theorem loadEntry (hnew : module ∉ frames) (scope : ImportedScope) :
    (setup.loadEntry importer scope module mode).Obeys conduct frames := by
  unfold Setup.loadEntry
  refine conduct.visited?.bind fun known? => ?_
  split
  · exact conduct.reuse _ _ _
  · unfold loadTarget
    refine Obeys.bind_of yields_locate conduct.locate ?_
    rintro located ⟨rfl, hlies⟩
    refine Obeys.bind_of yields_refreshFor conduct.refreshFor ?_
    rintro _ ⟨source, rfl⟩
    have hlies' : setup.Lies ({ located with source } : Target).name
        ({ located with source } : Target).interfacePath := hlies
    split
    · exact buildEntry himporter hlies' hnew scope
    · exact validateEntry himporter hlies' hnew scope

end Importing

end Conduct

end Setup

end ModuleLoader
