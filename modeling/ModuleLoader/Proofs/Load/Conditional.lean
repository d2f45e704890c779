import ModuleLoader.Proofs.Load.Watched

/-!
# Resolutions under a condition

A load resolves imports at many moments, and something is to be said of all of them: which modules
are in progress then, or what the disk is like. One way to say it is to put the resolutions under a
condition (`Setup.resolveIf`). One that begins without it has no outcome, and neither has the load.
So if a load has the same outcome under the condition, every resolution in it begins as it should.

Other than watched resolutions (`Setup.resolveWatched`), these are bound to what is there before
they begin, and a condition that can be decided can be tried out.
-/

namespace ModuleLoader

namespace Load

variable {α : Type} {p : Disk → Prop} [DecidablePred p] {load : Load α} {s : LoadState}

/-- **A load that takes place on some disks only**: on any other it has no outcome. -/
def onlyIf (p : Disk → Prop) [DecidablePred p] (load : Load α) : Load α :=
  ExceptT.mk fun s => if p s.world.disk then load.run.run s else none

/-- On these disks it is the load that it was. -/
theorem run_onlyIf (h : p s.world.disk) : (load.onlyIf p).run.run s = load.run.run s := if_pos h

/-- If it has an outcome then that is the one of the load, on one of these disks. -/
theorem of_run_onlyIf {r : Except LoadError α × LoadState}
    (h : (load.onlyIf p).run.run s = some r) : p s.world.disk ∧ load.run.run s = some r := by
  by_cases hp : p s.world.disk
  · exact ⟨hp, (run_onlyIf hp).symm.trans h⟩
  · exact absurd ((if_neg hp).symm.trans h) nofun

/-- If these are all disks then nothing is changed. -/
theorem onlyIf_true (load : Load α) : load.onlyIf (fun _ => True) = load := by
  funext s
  show (if True then load.run.run s else none) = load.run.run s
  exact if_pos trivial

end Load

namespace Setup

/-- **Resolves an import to a given depth under a condition** on the modules in progress, the import
and the disk. -/
def resolveIf (setup : Setup) (p : ImportStack → ModuleName → Disk → Prop)
    [∀ stack module, DecidablePred (p stack module)] : (depth : Nat) → Resolver
  | 0, _, _, _ => Load.exhausted
  | depth + 1, stack, scope, module =>
    (setup.resolveStep (setup.resolveIf p depth) stack scope module).onlyIf (p stack module)

/-- One level of a resolution under a condition. -/
theorem resolveIf_succ (setup : Setup) (p : ImportStack → ModuleName → Disk → Prop)
    [∀ stack module, DecidablePred (p stack module)] (depth : Nat) (stack : ImportStack)
    (scope : ImportedScope) (module : ModuleName) :
    setup.resolveIf p (depth + 1) stack scope module
      = (setup.resolveStep (setup.resolveIf p depth) stack scope module).onlyIf (p stack module) :=
  rfl

/-- **A condition that always holds changes nothing.** -/
theorem resolveIf_true (setup : Setup) (depth : Nat) :
    setup.resolveIf (fun _ _ _ => True) depth = setup.resolve depth := by
  induction depth with
  | zero => rfl
  | succ depth ih =>
    funext stack scope module
    rw [resolveIf_succ, resolve_succ, ih]
    exact Load.onlyIf_true _

end Setup

/-! ## What a load makes of a session -/

namespace Session

/-- A session after a load. -/
def concluded (s : Session) (r : Except LoadError (Loaded × ImportedScope) × LoadState) :
    Except LoadError Loaded × Session × World :=
  match r.1 with
  | .ok (loaded, scope) => (.ok loaded, { s with caches := r.2.caches, scope }, r.2.world)
  | .error e => (.error e, { s with caches := r.2.caches }, r.2.world)

/-- What a load makes of a session. -/
theorem loadBy_eq_map (resolver : Resolver) (s : Session) (module : ModuleName) (mode : CheckMode)
    (world : World) : s.loadBy resolver module mode world
      = ((Setup.entering s.stack module fun stack => s.setup.loadEntry (resolver stack)
          (s.scope.forget module) module mode).run.run ⟨s.caches, world⟩).map s.concluded := by
  unfold loadBy
  dsimp only
  cases (Setup.entering s.stack module fun stack => s.setup.loadEntry (resolver stack)
    (s.scope.forget module) module mode).run.run ⟨s.caches, world⟩ with
  | none => rfl
  | some r => obtain ⟨r | r, state⟩ := r <;> rfl

end Session

end ModuleLoader
