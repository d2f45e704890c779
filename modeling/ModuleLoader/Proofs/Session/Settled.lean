import Mathlib.Logic.Relation
import ModuleLoader.Proofs.Load.Unwinding
import ModuleLoader.Script.Checker

/-!
# A settled module stays settled

A session decides on a module once. From then on it knows the module by the entry with which it was
settled, whatever is loaded in whatever way, whether loads succeed or fail, and however files change
before loads and while they run. To ask for the module again, as an import or as the module to load,
changes nothing at all: no file is looked at, no checker is called, and the answer is the interface
of that entry, unless there is none because the module is in progress or has warnings.

The one exception is a load that keeps private declarations. It checks the module that it loads, and
no other settled module, and what comes of it is not settled.

There is no hypothesis about checkers, codecs, finders or files here. The reason is the import stack:
the places at which a module is settled are far behind the ones at which it was looked up, but the
module is in progress between them, and modules in progress are not settled by anything else
(`VisitedCache.Course`).
-/

namespace ModuleLoader

open Load

namespace Setup

variable {setup : Setup} {importer : Importer} {s : LoadState} {module : ModuleName}
  {entry : VisitedEntry}

/-- What is answered when a settled module is asked for while some modules are in progress. -/
def recalled (stack : ImportStack) (module : ModuleName) (entry : VisitedEntry) :
    Except LoadError VisitedEntry :=
  if module ∈ stack.frames then .error (.importCycle (stack.cycleAt module))
  else if entry.importable then .ok entry
  else .error (.importedWithWarnings module)

/-- The answer is the entry, or a failure. -/
theorem eq_of_recalled {stack : ImportStack} {known : VisitedEntry}
    (h : recalled stack module entry = .ok known) : known = entry := by
  unfold recalled at h
  split at h
  · contradiction
  · split at h
    · exact (Except.ok.inj h).symm
    · contradiction

/-- A look at a settled module. -/
theorem run_visited? (hget : s.caches.visited.get? module = some entry) :
    (Load.visited? module).run.run s = some (.ok (some entry), s) := by
  rw [← hget]
  rfl

/-- **A settled module is imported without a look at anything else**: the answer is known beforehand,
and the state is left as it is. -/
theorem run_resolve_settled (hget : s.caches.visited.get? module = some entry) (depth : Nat)
    (stack : ImportStack) (scope : ImportedScope) :
    (setup.resolve (depth + 1) stack scope module).run.run s
      = some (recalled stack module entry, s) := by
  rw [resolve_succ]
  unfold resolveStep entering recalled
  cases hpush : stack.push module with
  | error cycle =>
    obtain ⟨hmem, rfl⟩ := ImportStack.push_eq_error_iff.1 hpush
    rw [if_pos hmem]
    rfl
  | ok pushed =>
    have hsettle : (setup.settleImport (setup.resolve depth pushed) scope module).run.run s
        = some (.ok entry, s) := by
      unfold settleImport
      rw [Load.run_bind, run_visited? hget]
      rfl
    rw [if_neg (ImportStack.notMem_of_push hpush), Load.run_bind, hsettle]
    dsimp only [Option.bind_some]
    split <;> rfl

/-- **A settled module is loaded without a look at anything else**, in the modes that do not keep
private declarations. -/
theorem run_loadEntry_settled (hget : s.caches.visited.get? module = some entry)
    (scope : ImportedScope) {mode : CheckMode} (hmode : mode.retainsPrivate = false) :
    (setup.loadEntry importer scope module mode).run.run s
      = some ((scope.mergeWithImports s.caches.visited entry.interface).map fun merged =>
          (⟨entry.interface, entry.interface.warnings⟩, merged), s) := by
  unfold loadEntry
  rw [Load.run_bind, run_visited? hget, hmode]
  show (reuse scope entry.interface entry.interface.warnings).run.run s = _
  unfold reuse
  rw [Load.run_bind, run_get]
  dsimp only [Option.bind_some]
  cases scope.mergeWithImports s.caches.visited entry.interface <;> rfl

end Setup

namespace Session

/-! ## One load -/

/-- **One load leads from a session to another**, in some world, with any outcome. -/
def Next (s t : Session) : Prop :=
  ∃ depth module mode world result world',
    s.loadWithin depth module mode world = some (result, t, world')

/-- **What a load of a session runs**, whatever is in progress: nothing if that is the module itself,
and else the load of an entry module that is put on the stack. -/
theorem run_of_loadWithin {s s' : Session} {depth : Nat} {module : ModuleName} {mode : CheckMode}
    {world world' : World} {result : Except LoadError Loaded}
    (h : s.loadWithin depth module mode world = some (result, s', world')) :
    (∃ cycle, s.stack.push module = .error cycle ∧ s'.caches = s.caches ∧ world' = world) ∨
      ∃ pushed outcome, s.stack.push module = .ok pushed ∧
        (s.setup.loadEntry (s.setup.resolve depth pushed) (s.scope.forget module) module
          mode).run.run ⟨s.caches, world⟩ = some (outcome, ⟨s'.caches, world'⟩) ∧
        outcome.map Prod.fst = result := by
  unfold loadWithin at h
  obtain ⟨⟨outcome, state⟩, hrun, h⟩ := Option.bind_eq_some_iff.1 h
  have hafter : state = ⟨s'.caches, world'⟩ ∧ outcome.map Prod.fst = result := by
    cases outcome with
    | ok p =>
      obtain ⟨rfl, hrest⟩ := Prod.mk.inj (Option.some.inj h)
      obtain ⟨rfl, rfl⟩ := Prod.mk.inj hrest
      exact ⟨rfl, rfl⟩
    | error e =>
      obtain ⟨rfl, hrest⟩ := Prod.mk.inj (Option.some.inj h)
      obtain ⟨rfl, rfl⟩ := Prod.mk.inj hrest
      exact ⟨rfl, rfl⟩
  obtain ⟨rfl, houtcome⟩ := hafter
  unfold Setup.entering at hrun
  cases hpush : s.stack.push module with
  | error cycle =>
    rw [hpush] at hrun
    obtain ⟨hcaches, hworld⟩ := LoadState.mk.inj (congrArg Prod.snd (Option.some.inj hrun))
    exact .inl ⟨cycle, rfl, hcaches.symm, hworld.symm⟩
  | ok pushed =>
    rw [hpush] at hrun
    exact .inr ⟨pushed, outcome, rfl, hrun, houtcome⟩

variable {s s' : Session} {depth : Nat} {module m : ModuleName} {mode : CheckMode}
  {world world' : World} {result : Except LoadError Loaded} {entry : VisitedEntry}

/-- **The course of a load.** Only the module that is loaded is checked although it is settled, and
only in a mode that keeps private declarations. -/
theorem course_of_loadWithin
    (hload : s.loadWithin depth module mode world = some (result, s', world')) :
    ∃ events, world'.journal = world.journal ++ events ∧
      VisitedCache.Course (fun m mode' => m = module ∧ mode' = mode ∧ mode.retainsPrivate = true)
        s.caches.visited events s'.caches.visited := by
  let again (m : ModuleName) (mode' : CheckMode) : Prop :=
    m = module ∧ mode' = mode ∧ mode.retainsPrivate = true
  have hstart : LoadState.OnCourse again s.caches.visited world.journal ⟨s.caches, world⟩ :=
    .refl ⟨s.caches, world⟩
  obtain ⟨cycle, -, hcaches, rfl⟩ | ⟨pushed, outcome, hpush, hrun, -⟩ := run_of_loadWithin hload
  · rw [hcaches]
    exact hstart
  · have hframes := ImportStack.frames_of_push hpush
    have hafter := LoadState.OnCourse.loadEntry (LoadState.OnCourse.resolve depth pushed)
      (hframes ▸ List.subset_append_left _ _)
      (hframes ▸ List.mem_append_right _ (List.mem_singleton_self _))
      (ImportStack.notMem_of_push hpush) _ hstart (fun hmode => ⟨rfl, rfl, hmode⟩) outcome _ hrun
    cases outcome with
    | ok p => exact hafter.1
    | error e => exact hafter.1

/-- **What a load leaves of a settled module**: all of it. -/
structure KeepsSettled (s : Session) (m : ModuleName) (entry : VisitedEntry) (depth : Nat)
    (module : ModuleName) (mode : CheckMode) (world : World) (result : Except LoadError Loaded)
    (s' : Session) (world' : World) : Prop where
  /-- At every moment on the way the module is settled with the same entry, also while an import is
  being checked by itself. -/
  moments : ∃ trail, s.drive depth module mode world
      = some (result, ⟨s.stack.frames, s'.caches, s'.scope, world', trail⟩) ∧
    ∀ moment ∈ trail, moment.visited.get? m = some entry
  /-- The module is checked only if it is the one that is loaded, with its private declarations kept,
  and it is not settled again. -/
  events : ∃ events, world'.journal = world.journal ++ events ∧ .settled m ∉ events ∧
    ∀ mode', .checking m mode' ∈ events → module = m ∧ mode' = mode ∧ mode.retainsPrivate = true

/-- **A load leaves settled modules as they are.** -/
theorem keepsSettled_of_loadWithin (hget : s.caches.visited.get? m = some entry)
    (hload : s.loadWithin depth module mode world = some (result, s', world')) :
    s.KeepsSettled m entry depth module mode world result s' world' where
  moments := by
    have hspec := drive_spec depth s module mode world
    rw [hload] at hspec
    obtain ⟨-, -, -, trail, hdrive, hmoments⟩ := hspec
    exact ⟨trail, hdrive, fun moment h => (hmoments moment h).visited.get? hget⟩
  events := by
    obtain ⟨events, hjournal, hcourse⟩ := course_of_loadWithin hload
    refine ⟨events, hjournal, hcourse.settled_notMem hget, fun mode' hmem => ?_⟩
    obtain ⟨rfl, hrest⟩ := hcourse.again_of_checking_mem hget hmem
    exact ⟨rfl, hrest⟩

/-- **A settled module that is loaded again**, in a mode that does not keep private declarations, is
known beforehand: whatever the world is like, it is left alone, and so are the caches. -/
theorem loadWithin_settled (hget : s.caches.visited.get? m = some entry)
    (hmode : mode.retainsPrivate = false) :
    ∃ result scope, (∀ loaded, result = .ok loaded → loaded.interface = entry.interface) ∧
      ∀ depth world,
        s.loadWithin depth m mode world = some (result, { s with scope }, world) := by
  cases hpush : s.stack.push m with
  | error cycle =>
    refine ⟨.error (.importCycle cycle), s.scope, nofun, fun depth world => ?_⟩
    unfold loadWithin Setup.entering
    rw [hpush]
    rfl
  | ok pushed =>
    have hrun : ∀ depth world, (s.setup.loadEntry (s.setup.resolve depth pushed) (s.scope.forget m) m
        mode).run.run ⟨s.caches, world⟩
          = some (((s.scope.forget m).mergeWithImports s.caches.visited entry.interface).map
            fun merged => (⟨entry.interface, entry.interface.warnings⟩, merged), ⟨s.caches, world⟩) :=
      fun depth world => Setup.run_loadEntry_settled hget (s.scope.forget m) hmode
    cases hmerge : (s.scope.forget m).mergeWithImports s.caches.visited entry.interface with
    | error e =>
      refine ⟨.error e, s.scope, nofun, fun depth world => ?_⟩
      unfold loadWithin Setup.entering
      rw [hpush]
      dsimp only
      rw [hrun depth world, hmerge]
      rfl
    | ok merged =>
      refine ⟨.ok ⟨entry.interface, entry.interface.warnings⟩, merged, fun loaded h => ?_,
        fun depth world => ?_⟩
      · rw [← Except.ok.inj h]
      · unfold loadWithin Setup.entering
        rw [hpush]
        dsimp only
        rw [hrun depth world, hmerge]
        rfl

/-! ## All loads -/

/-- A settled module is settled after any number of loads, with the same entry. -/
theorem get?_of_reflTransGen {t : Session} (hrun : Relation.ReflTransGen Next s t)
    (hget : s.caches.visited.get? m = some entry) : t.caches.visited.get? m = some entry := by
  induction hrun with
  | refl => exact hget
  | tail _ hnext ih =>
    obtain ⟨_, _, _, _, _, _, hload⟩ := hnext
    obtain ⟨_, -, hcourse⟩ := course_of_loadWithin hload
    exact hcourse.get? ih

/-- **A settled module stays settled.** Let a session have settled a module, and load anything after
that, any number of times. The module is settled with the same entry then, and every further load
leaves it so at every moment (`KeepsSettled`). Whenever it is asked for as an import, or as the module
to load in a mode that does not keep private declarations, the answer is the interface of that entry
or a failure; it does not depend on the world, and changes nothing there or in the caches. And
whatever a load settles had not been settled before: each of its settlements adds a module to the
settled ones, and no two of them add the same. -/
theorem settled_for_good {t : Session} (hrun : Relation.ReflTransGen Next s t)
    (hget : s.caches.visited.get? m = some entry) :
    t.caches.visited.get? m = some entry ∧
    (∀ depth module mode world result t' world',
      t.loadWithin depth module mode world = some (result, t', world') →
        t.KeepsSettled m entry depth module mode world result t' world') ∧
    (∀ stack, ∃ answer : Except LoadError VisitedEntry,
      (∀ known, answer = .ok known → known = entry) ∧
      ∀ depth scope state, state.caches.visited.get? m = some entry →
        (t.setup.resolve (depth + 1) stack scope m).run.run state = some (answer, state)) ∧
    (∀ mode : CheckMode, mode.retainsPrivate = false → ∃ result scope,
      (∀ loaded, result = .ok loaded → loaded.interface = entry.interface) ∧
      ∀ depth world,
        t.loadWithin depth m mode world = some (result, { t with scope }, world)) ∧
    ∀ depth module mode world result t' world',
      t.loadWithin depth module mode world = some (result, t', world') →
        ∃ events, world'.journal = world.journal ++ events ∧
          t'.caches.visited.entries.map Prod.fst
            = t.caches.visited.entries.map Prod.fst ++ events.filterMap Event.settled? ∧
          (events.filterMap Event.settled?).Nodup ∧
          ∀ x ∈ events.filterMap Event.settled?, t.caches.visited.get? x = none := by
  have hstill := get?_of_reflTransGen hrun hget
  refine ⟨hstill, ?_, ?_, ?_, ?_⟩
  · intro depth module mode world result t' world' hload
    exact keepsSettled_of_loadWithin hstill hload
  · intro stack
    exact ⟨Setup.recalled stack m entry, fun _ => Setup.eq_of_recalled, fun depth scope state hstate =>
      Setup.run_resolve_settled hstate depth stack scope⟩
  · exact fun mode hmode => loadWithin_settled hstill hmode
  · intro depth module mode world result t' world' hload
    obtain ⟨events, hjournal, hcourse⟩ := course_of_loadWithin hload
    exact ⟨events, hjournal, hcourse.entries_map, hcourse.nodup_settled⟩

/-- A directory with two scripts. The first one imports the second, which has a private name. -/
def keptDisk : Disk :=
  ⟨[(["p"], .directory), (["p", "A.lm"], .file (Bytes.ofText "import B")),
    (["p", "B.lm"], .file (Bytes.ofText "def open\nprivate shut"))]⟩

set_option maxRecDepth 100000 in
/-- The second script is settled when the first one has been loaded. Then it is loaded with its private
names, and the interface that this gives is another one; but it is settled as it was. -/
theorem settled_for_good_private : ∃ (s t : Session) (w w' : World) (entry : VisitedEntry)
    (loaded : Loaded), s.caches.visited.get? ⟨"B"⟩ = some entry ∧
    s.loadWithin 3 ⟨"B"⟩ (.typeCheck true) w = some (.ok loaded, t, w') ∧
    loaded.interface ≠ entry.interface ∧ t.caches.visited.get? ⟨"B"⟩ = some entry := by
  let start := Session.start (.scripts {} [⟨"p"⟩])
  have hrun : ((start.loadWithin 3 ⟨"A"⟩ .batch (.quiet keptDisk)).bind fun r =>
      (r.2.1.caches.visited.get? ⟨"B"⟩).bind fun entry =>
        (r.2.1.loadWithin 3 ⟨"B"⟩ (.typeCheck true) r.2.2).bind fun r' => r'.1.toOption.map
          fun loaded => (entry.interface.exports.scope.toList,
            loaded.interface.exports.scope.toList))
      = some (["open"], ["open", "shut"]) := by
    decide +kernel
  obtain ⟨⟨first, s, w⟩, hfirst, hrun⟩ := Option.bind_eq_some_iff.1 hrun
  obtain ⟨entry, hget, hrun⟩ := Option.bind_eq_some_iff.1 hrun
  obtain ⟨⟨result, t, w'⟩, hload, hrun⟩ := Option.bind_eq_some_iff.1 hrun
  obtain ⟨loaded, hok, hnames⟩ := Option.map_eq_some_iff.1 hrun
  obtain ⟨hbefore, hafter⟩ := Prod.mk.inj hnames
  obtain rfl := LoadError.eq_ok_of_toOption hok
  have hnext : Relation.ReflTransGen Next s t := .single ⟨_, _, _, _, _, _, hload⟩
  refine ⟨s, t, w, w', entry, loaded, hget, hload, ?_, (settled_for_good hnext hget).1⟩
  intro heq
  rw [heq] at hafter
  exact absurd (hbefore.symm.trans hafter) (by decide)

end Session

end ModuleLoader
