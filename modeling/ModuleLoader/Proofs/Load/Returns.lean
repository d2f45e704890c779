import ModuleLoader.Proofs.Load.Maintained
import ModuleLoader.Proofs.Load.Steps

/-!
# Loads that return

A load has no outcome if it goes too deep, and this is the only way in which it can come to none. A
check ends after finitely many requests, recorded imports are finitely many, and targets are checked
again a limited number of times. So whatever the loader does, it returns if its way of importing
does: this is shown along the functions of the loader, from any state.

How deep a load has to go depends on what it finds, and there is more to say about that
(`ModuleLoader.Proofs.Session.Termination`).
-/

namespace ModuleLoader

open Load

namespace Load

variable {α β : Type} {load : Load α}

/-- **A load returns**: from every state it has an outcome. -/
def Returns (load : Load α) : Prop := ∀ s, ∃ r, load.run.run s = some r

namespace Returns

theorem pure (a : α) : (Pure.pure a : Load α).Returns := fun s => ⟨(.ok a, s), rfl⟩

theorem throw (e : LoadError) : (MonadExcept.throw e : Load α).Returns :=
  fun s => ⟨(.error e, s), rfl⟩

theorem ofExcept (result : Except LoadError α) : (Load.ofExcept result).Returns :=
  fun s => ⟨(result, s), rfl⟩

/-- **One load after another.** -/
theorem bind {next : α → Load β} (h : load.Returns) (hnext : ∀ a, (next a).Returns) :
    (load >>= next).Returns := by
  intro s
  obtain ⟨⟨result, s'⟩, hrun⟩ := h s
  rw [run_bind, hrun]
  cases result with
  | ok a => exact hnext a s'
  | error e => exact ⟨(.error e, s'), rfl⟩

theorem outcome (h : load.Returns) : load.outcome.Returns := by
  intro s
  obtain ⟨r, hrun⟩ := h s
  rw [run_outcome, hrun]
  exact ⟨_, rfl⟩

theorem disk : disk.Returns := fun _ => ⟨_, rfl⟩

theorem record (event : Event) : (Load.record event).Returns := fun _ => ⟨_, rfl⟩

theorem edit (change : Disk → Except DiskFault Disk) : (Load.edit change).Returns :=
  fun s => ⟨_, run_edit s change⟩

theorem keep (module : ModuleName) (i : Interface) : (Load.keep module i).Returns :=
  fun _ => ⟨_, rfl⟩

theorem settle (module : ModuleName) (entry : VisitedEntry) : (Load.settle module entry).Returns :=
  fun _ => ⟨_, rfl⟩

theorem visited? (module : ModuleName) : (Load.visited? module).Returns := fun _ => ⟨_, rfl⟩

end Returns

/-- A load that fails where another one has no outcome. -/
def orFail (e : LoadError) (load : Load α) : Load α :=
  ExceptT.mk fun s => some ((load.run.run s).getD (.error e, s))

theorem returns_orFail (e : LoadError) (load : Load α) : (load.orFail e).Returns :=
  fun _ => ⟨_, rfl⟩

/-- Where the other one has an outcome the two do the same. -/
theorem run_orFail {e : LoadError} {s : LoadState} {r : Except LoadError α × LoadState}
    (h : load.run.run s = some r) : (load.orFail e).run.run s = load.run.run s := by
  show some ((load.run.run s).getD (.error e, s)) = load.run.run s
  rw [h]
  rfl

end Load

namespace Setup

variable {setup : Setup}

/-! ## The steps of a load -/

theorem returns_locate (module : ModuleName) : (setup.locate module).Returns :=
  fun s => ⟨_, setup.run_locate s module⟩

theorem returns_refresh (target : Target) : (refresh target).Returns :=
  fun s => ⟨_, run_refresh s target⟩

theorem returns_stored (target : Target) : (setup.stored target).Returns :=
  fun s => ⟨_, setup.run_stored s target⟩

theorem returns_persist (target : Target) (i : Interface) : (setup.persist target i).Returns :=
  fun s => ⟨_, setup.run_persist s target i⟩

theorem returns_settleEntry (mode : CheckMode) (module : ModuleName) (entry : VisitedEntry) :
    (settleEntry mode module entry).Returns := by
  unfold settleEntry
  split
  · exact .settle module entry
  · exact .pure ()

theorem returns_refreshFor (mode : CheckMode) (target : Target) :
    (refreshFor mode target).Returns := by
  unfold refreshFor
  split
  · exact .pure target
  · exact returns_refresh target

theorem returns_reuse (scope : ImportedScope) (i : Interface) (warnings : List Diagnostic) :
    (reuse scope i warnings).Returns :=
  fun s => ⟨_, run_reuse s scope i warnings⟩

/-! ## The functions of the loader -/

section Importing

variable {importer : Importer} (himporter : ∀ scope module, (importer scope module).Returns)

include himporter

theorem returns_importInto (context : CheckContext) (imported : ModuleName) :
    (setup.importInto importer context imported).Returns := by
  rw [importInto_eq]
  exact (himporter context.scope imported).outcome.bind fun _ => .pure _

theorem returns_answer (context : CheckContext) (request : Request) :
    (setup.answer importer context request).Returns := by
  cases request with
  | resolve imported => exact returns_importInto himporter context imported
  | context => exact .pure _
  | setOptions options => exact .pure _
  | warn warning => exact .pure _
  | read path => exact Returns.disk.bind fun _ => .pure _
  | edit change => exact (Returns.edit change).bind fun _ => .pure _
  | note text => exact (Returns.record _).bind fun _ => .pure _

/-- **A check returns** if its imports do, by induction on its requests. -/
theorem returns_run {α : Type} (check : Check α) (context : CheckContext) :
    (setup.run importer context check).Returns := by
  induction check generalizing context with
  | done result => exact .pure _
  | fail error => exact .throw error
  | ask request next ih =>
    exact (returns_answer himporter context request).bind fun r => ih r.1 r.2

theorem returns_changedImport? (scope : ImportedScope) (imports : List (ModuleName × Digest)) :
    (Interface.changedImport? (currentHash importer scope) imports).Returns := by
  induction imports with
  | nil => exact .pure _
  | cons e rest ih =>
    obtain ⟨imported, recorded⟩ := e
    unfold Interface.changedImport? currentHash
    refine ((himporter scope imported).bind fun _ => .pure _).bind fun digest => ?_
    split
    · exact ih
    · exact .pure _

theorem returns_validate (target : Target) (scope : ImportedScope) :
    (setup.validate importer target scope).Returns := by
  unfold validate
  refine (returns_stored target).bind fun r => ?_
  cases r with
  | error reason => exact .pure _
  | ok i =>
    dsimp only
    split
    · exact .pure _
    · refine (returns_changedImport? himporter scope i.imports).bind fun reason => ?_
      cases reason with
      | some reason => exact .pure _
      | none => exact (Returns.keep target.name i).bind fun _ => .pure _

theorem returns_build (target : Target) (mode : CheckMode) (scope : ImportedScope) :
    (setup.build importer target mode scope).Returns := by
  unfold build
  refine (Returns.record _).bind fun _ => (returns_run himporter _ _).bind fun r => ?_
  obtain ⟨checked, context⟩ := r
  dsimp only
  split
  · refine (Returns.ofExcept _).bind fun i => ?_
    split
    · exact (returns_persist target i).bind fun _ => .pure _
    · exact .pure _
  · exact .throw _

/-- **Checking a target again returns**, by induction on the attempts that are left. -/
theorem returns_rebuild (scope : ImportedScope) (left : Nat) (target : Target) :
    (setup.rebuild importer scope left target).Returns := by
  induction left generalizing target with
  | zero => exact .throw _
  | succ left ih =>
    unfold rebuild
    refine (returns_build himporter target .batch scope).bind fun built => ?_
    split
    · refine (returns_refresh target).bind fun target' => ?_
      refine (returns_validate himporter target' scope).bind fun r => ?_
      cases r with
      | ok i => exact .pure _
      | error reason => exact ih target'
    · exact .pure _

theorem returns_obtain (scope : ImportedScope) (target : Target) :
    (setup.obtain importer scope target).Returns := by
  unfold obtain
  refine (returns_validate himporter target scope).bind fun r => ?_
  cases r with
  | ok i => exact .pure _
  | error reason =>
    exact (returns_rebuild himporter scope setup.attempts target).bind fun _ => .pure _

/-- **Settling a module returns** if its imports do. -/
theorem returns_settleImport (scope : ImportedScope) (module : ModuleName) :
    (setup.settleImport importer scope module).Returns := by
  unfold settleImport
  refine (Returns.visited? module).bind fun known => ?_
  cases known with
  | some entry => exact .pure _
  | none =>
    refine (returns_locate module).bind fun target => ?_
    refine (returns_obtain himporter scope target).bind fun entry => ?_
    exact (Returns.settle module entry).bind fun _ => .pure _

theorem returns_buildEntry (target : Target) (mode : CheckMode) (scope : ImportedScope) :
    (setup.buildEntry importer target mode scope).Returns := by
  unfold buildEntry
  refine (returns_build himporter target mode scope).bind fun built => ?_
  refine (returns_settleEntry mode target.name _).bind fun _ => ?_
  exact (Returns.ofExcept _).bind fun _ => .pure _

theorem returns_validateEntry (target : Target) (mode : CheckMode) (scope : ImportedScope) :
    (setup.validateEntry importer target mode scope).Returns := by
  unfold validateEntry
  refine (returns_validate himporter target scope).bind fun r => ?_
  cases r with
  | ok i =>
    exact (returns_settleEntry mode target.name _).bind fun _ => returns_reuse scope i []
  | error reason => exact returns_buildEntry himporter target mode scope

/-- **Loading an entry module returns** if its imports do. -/
theorem returns_loadEntry (scope : ImportedScope) (module : ModuleName) (mode : CheckMode) :
    (setup.loadEntry importer scope module mode).Returns := by
  unfold loadEntry
  refine (Returns.visited? module).bind fun known => ?_
  split
  · exact returns_reuse _ _ _
  · unfold loadTarget
    refine (returns_locate module).bind fun located => ?_
    refine (returns_refreshFor mode located).bind fun target => ?_
    split
    · exact returns_buildEntry himporter target mode scope
    · exact returns_validateEntry himporter target mode scope

end Importing

end Setup

end ModuleLoader
