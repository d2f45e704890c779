import ModuleLoader.Proofs.Load.Unwinding
import ModuleLoader.Script.Checker

/-!
# A load unwinds

Whatever happens while a module is loaded, some things are afterwards as they were before. The
modules in progress are the same again, whether the load has ended in the middle of nested imports
and isolated builds or at its last step. If it has failed, the scope of the session is the same again
too, although the module had been forgotten and its imports merged by then. And nothing that had been
settled is lost.

This is said of the loader that changes its stack and its scope in place (`Session.drive`), step by
step, in any session, of any checker, codec and finder, and of a world in which files change at every
moment. That a session does the same when it loads is part of the theorem.
-/

namespace ModuleLoader

namespace Session

/-- **Every load restores the import stack, and a load that fails restores the scope.** Driven step by
step, a session does what it does when it loads. When it is done, its stack is what it was before; at
every moment in between the stack had grown from there, and no module was on it twice. If it has
failed, the scope is what it was before. Every settled module is still settled, with the same entry. -/
theorem drive_unwinds {s : Session} {depth : Nat} {module : ModuleName} {mode : CheckMode}
    {world : World} {result : Except LoadError Loaded} {after : Machine}
    (hdrive : s.drive depth module mode world = some (result, after)) :
    s.loadWithin depth module mode world
        = some (result, { s with caches := after.caches, scope := after.scope }, after.world) ∧
      after.stack = s.stack.frames ∧
      (∀ moment ∈ after.trail, s.stack.frames <+: moment.stack ∧ moment.stack.Nodup) ∧
      (∀ e, result = .error e → after.scope = s.scope) ∧
      ∀ m entry, s.caches.visited.get? m = some entry →
        after.caches.visited.get? m = some entry := by
  have hspec := drive_spec depth s module mode world
  cases hload : s.loadWithin depth module mode world with
  | none =>
    rw [hload] at hspec
    rw [show s.drive depth module mode world = none from hspec] at hdrive
    contradiction
  | some p =>
    obtain ⟨result', s', world'⟩ := p
    rw [hload] at hspec
    obtain ⟨hsession, hscope, hgrows, trail, heq, hmoments⟩ := hspec
    obtain ⟨rfl, rfl⟩ := Prod.mk.inj (Option.some.inj (heq.symm.trans hdrive))
    refine ⟨?_, rfl, fun moment h => ⟨(hmoments moment h).stack, (hmoments moment h).nodup⟩, hscope,
      fun m entry hget => hgrows.get? hget⟩
    exact congrArg (fun s' => some (result', s', world')) hsession

/-- A directory with three scripts. The first one imports the second, and the two bind a builtin to
different definitions. -/
def clashingDisk : Disk :=
  ⟨[(["p"], .directory), (["p", "A.lm"], .file (Bytes.ofText "import B\nbuiltin N a")),
    (["p", "B.lm"], .file (Bytes.ofText "builtin N b")),
    (["p", "C.lm"], .file (Bytes.ofText "def c"))]⟩

set_option maxRecDepth 100000 in
/-- After the third script has been loaded, the load of the first one fails at its last step: by then
the second one has been checked by itself, both are settled, and the second one is merged. The scope
is that of the third script again. -/
theorem drive_unwinds_clashing : ∃ (s : Session) (w : World) (e : LoadError) (after : Machine),
    s.drive 3 ⟨"A"⟩ .batch w = some (.error e, after) ∧
    s.loadWithin 3 ⟨"A"⟩ .batch w
      = some (.error e, { s with caches := after.caches, scope := after.scope }, after.world) ∧
    (∃ moment ∈ after.trail, moment.stack = [⟨"A"⟩, ⟨"B"⟩]) ∧
    (∀ moment ∈ after.trail, moment.stack.Nodup) ∧ after.stack = s.stack.frames ∧
    after.caches.visited.contains ⟨"A"⟩ = true ∧ s.scope.contains ⟨"C"⟩ = true ∧
    after.scope = s.scope := by
  let start := Session.start (.scripts {} [⟨"p"⟩])
  have hrun : ((start.loadWithin 3 ⟨"C"⟩ .batch (.quiet clashingDisk)).bind fun r =>
      (r.2.1.drive 3 ⟨"A"⟩ .batch r.2.2).map fun r' => (r'.1.toOption.isSome,
        r'.2.trail.any (fun moment => moment.stack == [⟨"A"⟩, ⟨"B"⟩]),
        r'.2.caches.visited.contains ⟨"A"⟩, r.2.1.scope.contains ⟨"C"⟩))
      = some (false, true, true, true) := by
    decide +kernel
  obtain ⟨⟨first, s, w⟩, hfirst, hrun⟩ := Option.bind_eq_some_iff.1 hrun
  obtain ⟨⟨result, after⟩, hdrive, heq⟩ := Option.map_eq_some_iff.1 hrun
  simp only [Prod.mk.injEq] at heq
  obtain ⟨hfailed, htrail, hvisited, hscope⟩ := heq
  cases result with
  | ok loaded => exact absurd hfailed nofun
  | error e =>
    obtain ⟨hload, hstack, hmoments, hrestored, -⟩ := drive_unwinds hdrive
    obtain ⟨moment, hmem, hmoment⟩ := List.any_eq_true.1 htrail
    exact ⟨s, w, e, after, hdrive, hload, ⟨moment, hmem, by simpa using hmoment⟩,
      fun moment h => (hmoments moment h).2, hstack, hvisited, hscope, hrestored e rfl⟩

end Session

end ModuleLoader
