import ModuleLoader.Proofs.Load.Validation
import ModuleLoader.Proofs.Scope.Merge
import ModuleLoader.Script.Checker

/-!
# Who says that a module has diverged

That a module has diverged is a verdict: it was rebuilt as often as the settings allow, and what was
written was never up to date. Errors travel, though. A checker is told why an import was refused and
usually fails with just that, so the verdict on one module becomes the error of every module above
it, and an error that arrives says nothing about where it was made.

Of a module in progress the verdict can only come from the rebuild that is in progress
(`Setup.acquits_resolve`): whatever is resolved meanwhile rebuilds other modules, and the verdict on
those names them. This needs that checkers and finders pass errors on and do not make this one up
(`Setup.Acquits`). Scripts do not, for one.
-/

namespace ModuleLoader

open Load

/-- An error is not the verdict that a module has diverged. -/
def LoadError.Acquits (module : ModuleName) (e : LoadError) : Prop :=
  ∀ attempts, e ≠ .isolatedRebuildDiverged module attempts

/-- **A check does not make the verdict up**: whatever it fails with is something else, unless it
was refused an import with the verdict before. -/
inductive Check.Acquits {α : Type} (module : ModuleName) : Check α → Prop where
  /-- It has ended. -/
  | done (result : α) : Acquits module (.done result)
  /-- It has failed with another error. -/
  | fail {error : LoadError} : error.Acquits module → Acquits module (.fail error)
  /-- It imports a module, and this may be refused. -/
  | resolve {imported : ModuleName} {next : Except LoadError Interface → Check α} :
      (∀ i, Acquits module (next (.ok i))) →
      (∀ error : LoadError, error.Acquits module → Acquits module (next (.error error))) →
      Acquits module (.ask (.resolve imported) next)
  /-- It asks for something else. -/
  | ask {request : Request} {next : request.Answer → Check α} :
      (∀ imported, request ≠ .resolve imported) → (∀ answer, Acquits module (next answer)) →
      Acquits module (.ask request next)

/-- **Nobody but the loader gives the verdict** on a module: finders and checkers do not make it
up. -/
structure Setup.Acquits (setup : Setup) (module : ModuleName) : Prop where
  /-- The finder has other reasons to fail. -/
  finder {x : ModuleName} {d : Disk} {e : LoadError} : setup.finder x d = .error e →
    e.Acquits module
  /-- So have the checkers. -/
  checker (x : ModuleName) (source : SourceFile) (mode : CheckMode) :
    (setup.checker x source mode).Acquits module

/-! ## Along a load -/

namespace Load

variable {α β : Type} {module : ModuleName} {load : Load α}

/-- **A load does not fail with the verdict** on a module, whatever state it starts in. -/
def Acquits (module : ModuleName) (load : Load α) : Prop :=
  ∀ s e s', load.run.run s = some (.error e, s') → e.Acquits module

namespace Acquits

theorem pure (a : α) : (pure a : Load α).Acquits module :=
  fun _ _ _ hrun => absurd (congrArg Prod.fst (Option.some.inj hrun)) nofun

theorem throw {e : LoadError} (h : e.Acquits module) : (throw e : Load α).Acquits module := by
  intro s e' s' hrun
  obtain rfl := Except.error.inj (congrArg Prod.fst (Option.some.inj hrun))
  exact h

theorem ofExcept {result : Except LoadError α} (h : ∀ e, result = .error e → e.Acquits module) :
    (ofExcept result).Acquits module := by
  cases result with
  | ok a => exact pure a
  | error e => exact throw (h e rfl)

/-- One load after another, the first with a result of which something holds. -/
theorem bind_of {ok : α → Prop} (hok : load.Yields ok) (h : load.Acquits module)
    {next : α → Load β} (hnext : ∀ a, ok a → (next a).Acquits module) :
    (load >>= next).Acquits module := by
  intro s e s'' hrun
  obtain ⟨e', hfirst, heq⟩ | ⟨a, s', hfirst, hrun⟩ := bind_eq_some hrun
  · obtain rfl := Except.error.inj heq
    exact h s e s'' hfirst
  · exact hnext a (hok s a s' hfirst) s' e s'' hrun

/-- One load after another. -/
theorem bind (h : load.Acquits module) {next : α → Load β}
    (hnext : ∀ a, (next a).Acquits module) : (load >>= next).Acquits module := by
  have hany : load.Yields fun _ => True := fun _ _ _ _ => trivial
  exact bind_of hany h fun a _ => hnext a

/-- A load that plainly has a result. -/
theorem of_run {a : LoadState → α} {s' : LoadState → LoadState}
    (hrun : ∀ s, load.run.run s = some (.ok (a s), s' s)) : load.Acquits module :=
  fun s _ _ h => absurd (congrArg Prod.fst (Option.some.inj ((hrun s).symm.trans h))) nofun

/-- Looking at the outcome of a load never fails. -/
theorem outcome : load.outcome.Acquits module := by
  intro s e s' hrun
  rw [run_outcome] at hrun
  obtain ⟨_, -, heq⟩ := Option.map_eq_some_iff.1 hrun
  exact absurd (congrArg Prod.fst heq) nofun

end Acquits

end Load

namespace Setup

variable {setup : Setup} {module x : ModuleName} {target : Target} {importer : Importer}

/-! ### Steps -/

section Importing

variable (himporter : ∀ scope x, (importer scope x).Acquits module)

include himporter

variable (hsetup : setup.Acquits module)

include hsetup

end Importing

end Setup

/-! ## Scripts -/

namespace Script

variable {module x : ModuleName} {source : SourceFile} {mode : CheckMode}

/-- **A directive does not make the verdict up**, nor does what comes after it. -/
theorem acquits_perform {draft : CheckedModule} (d : Directive)
    {next : CheckedModule → Check CheckedModule} (hnext : ∀ draft, (next draft).Acquits module) :
    ((perform x source mode draft d).bind next).Acquits module := by
  have htouch : ∀ path,
      (((touchFile path).bind fun _ => .done draft).bind next).Acquits module := by
    intro path
    refine .ask (fun _ => nofun) fun reply => ?_
    cases reply with
    | ok _ => exact hnext draft
    | error fault => exact .fail fun _ => nofun
  cases d with
  | options switches =>
    exact .ask (fun _ => nofun) fun _ => .ask (fun _ => nofun) fun _ => hnext draft
  | bring imported =>
    exact .resolve (fun i => .ask (fun _ => nofun) fun _ => hnext draft) fun e he => .fail he
  | tryBring imported =>
    refine .resolve (fun i => ?_) fun e _ => ?_
    · exact .ask (fun _ => nofun) fun _ => hnext draft
    · exact .ask (fun _ => nofun) fun _ => hnext draft
  | hidden name =>
    unfold perform
    cases hmode : mode.retainsPrivate
    · exact hnext _
    · exact hnext _
  | warn message => exact .ask (fun _ => nofun) fun _ => hnext draft
  | reject message => exact .fail fun _ => nofun
  | touchSelf => exact htouch source.path
  | touchUntil count =>
    simp only [perform]
    split
    · exact htouch source.path
    · exact hnext draft
  | touch path => exact htouch path
  | delete path => exact .ask (fun _ => nofun) fun _ => hnext draft
  | report => exact .ask (fun _ => nofun) fun _ => .ask (fun _ => nofun) fun _ => hnext draft
  | unknown word => exact .fail fun _ => nofun
  | declare | define | incomplete | builtin | signature | pattern | userWarning | display
    | importWarning => exact hnext _

/-- **Scripts do not make the verdict up.** -/
theorem acquits_checker : (checker x source mode).Acquits module := by
  have hall : ∀ (ds : List Directive) draft,
      (ds.foldlM (perform x source mode) draft).Acquits module := by
    intro ds
    induction ds with
    | nil => exact fun draft => .done draft
    | cons d rest ih =>
      intro draft
      rw [List.foldlM_cons]
      exact acquits_perform d ih
  exact hall _ _

end Script

/-- Nor does the search for them. -/
theorem Finder.acquits_ofRoots {roots : List Path} {module x : ModuleName} {d : Disk} {e : LoadError}
    (h : ofRoots roots x d = .error e) : e.Acquits module := by
  unfold ofRoots at h
  split at h
  · obtain rfl := Except.error.inj h
    exact fun _ => nofun
  · contradiction
  · obtain rfl := Except.error.inj h
    exact fun _ => nofun

/-- So sessions that check scripts give the verdict on no module but for rebuilding it. -/
theorem Setup.acquits_scripts (settings : Settings) (roots : List Path) (module : ModuleName) :
    (Setup.scripts settings roots).Acquits module where
  finder h := by
    dsimp only [Setup.scripts] at h
    exact Finder.acquits_ofRoots h
  checker _ _ _ := by
    dsimp only [Setup.scripts]
    exact Script.acquits_checker

end ModuleLoader
