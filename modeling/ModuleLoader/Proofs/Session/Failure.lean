import ModuleLoader.Proofs.Load.Chronicle
import ModuleLoader.Proofs.Scope.Merge
import ModuleLoader.Proofs.Session.Quarantine
import ModuleLoader.Proofs.Session.Settled

/-!
# What a failed load leaves of its module

A load that fails should leave its module undecided: not settled, and without a new interface on
disk that a later load would find. Nearly all failures do. They come out of locating, validating or
checking the module, and until that is over the module is in progress, so neither is it settled nor
is its interface written, whatever is resolved for it on the way.

There is one step left then, and it can fail too: to merge the finished interface into the scope of
the session. By that time a load that settles has settled the module and written its interface. So
the module stays settled if this step fails (`Session.unsettled_iff_not_finished`), and other
modules can import it. To tell the two cases apart, the last step is taken off the load here
(`Setup.loadTarget_eq`).
-/

namespace ModuleLoader

open Load

namespace Setup

/-! ## The last step of a load -/

/-- What a load has come to before its last step: what it gives, and the scope with the interface
merged, or why it could not be merged. -/
abbrev Finished := Loaded × Except LoadError ImportedScope

/-- The last step of a load. -/
def conclude (finished : Finished) : Load (Loaded × ImportedScope) :=
  Load.ofExcept (finished.2.map fun scope => (finished.1, scope))

/-- What a load comes to with an interface that is reused. -/
def finishReusing (scope : ImportedScope) (i : Interface) : Load Finished := do
  let visited := (← get).caches.visited
  return (⟨i, []⟩, scope.mergeWithImports visited i)

/-- What a load comes to when it checks its module. -/
def finishBuilding (setup : Setup) (importer : Importer) (target : Target) (mode : CheckMode)
    (scope : ImportedScope) : Load Finished := do
  let built ← setup.build importer target mode scope
  let i := built.interface
  settleEntry mode target.name ⟨i, i.hasWarnings, target.isPrimitive⟩
  return (⟨i, i.warnings⟩, built.scope.merge i)

/-- What a load comes to when it validates its module, or checks it. -/
def finishValidating (setup : Setup) (importer : Importer) (target : Target) (mode : CheckMode)
    (scope : ImportedScope) : Load Finished := do
  match ← setup.validate importer target scope with
  | .ok i =>
    settleEntry mode target.name ⟨i, false, target.isPrimitive⟩
    finishReusing scope i
  | .error _ => setup.finishBuilding importer target mode scope

/-- **All of a load but its last step**, for a module that is not answered from memory. -/
def finish (setup : Setup) (importer : Importer) (scope : ImportedScope) (module : ModuleName)
    (mode : CheckMode) : Load Finished := do
  let located ← setup.locate module
  let target ← refreshFor mode located
  if mode.retainsPrivate then setup.finishBuilding importer target mode scope
  else setup.finishValidating importer target mode scope

variable {setup : Setup} {importer : Importer} {scope : ImportedScope} {module : ModuleName}
  {mode : CheckMode} {target : Target}

theorem reuse_eq (scope : ImportedScope) (i : Interface) :
    reuse scope i [] = finishReusing scope i >>= conclude := by
  unfold reuse finishReusing
  rw [bind_assoc]
  refine bind_congr fun s => ?_
  rw [pure_bind]
  unfold conclude
  dsimp only
  cases scope.mergeWithImports s.caches.visited i <;> rfl

theorem buildEntry_eq :
    setup.buildEntry importer target mode scope
      = setup.finishBuilding importer target mode scope >>= conclude := by
  unfold buildEntry finishBuilding
  rw [bind_assoc]
  refine bind_congr fun built => ?_
  rw [bind_assoc]
  refine bind_congr fun _ => ?_
  rw [pure_bind]
  unfold conclude
  dsimp only
  cases built.scope.merge built.interface <;> rfl

/-- **A load is all of it but its last step, and then the last step.** -/
theorem loadTarget_eq :
    setup.loadTarget importer scope module mode
      = setup.finish importer scope module mode >>= conclude := by
  unfold loadTarget finish
  rw [bind_assoc]
  refine bind_congr fun located => ?_
  rw [bind_assoc]
  refine bind_congr fun target => ?_
  split
  · exact buildEntry_eq
  · unfold validateEntry finishValidating
    rw [bind_assoc]
    refine bind_congr fun r => ?_
    cases r with
    | ok i =>
      dsimp only
      rw [bind_assoc, reuse_eq]
    | error reason => exact buildEntry_eq

/-- A load of a module of which nothing is known is not answered from memory. -/
theorem run_loadEntry_of_unknown {s : LoadState} (h : s.caches.visited.get? module = none) :
    (setup.loadEntry importer scope module mode).run.run s
      = (setup.finish importer scope module mode >>= conclude).run.run s := by
  have hvisited : (Load.visited? module).run.run s = some (.ok none, s) := h ▸ rfl
  unfold loadEntry
  rw [Load.run_bind, hvisited]
  dsimp only [Option.bind_some]
  rw [loadTarget_eq]

end Setup

/-! ## A module that waits to be settled -/

/-- **Nobody else puts an interface of a module on disk.** -/
def Setup.Unforged (setup : Setup) (module : ModuleName) (outside : List (Disk → Disk)) : Prop :=
  ∀ d d', setup.Others outside d d' → ∀ i : Interface, i.name = module →
    i.OnDisk compilerVersion setup.codec d' → i.OnDisk compilerVersion setup.codec d

namespace LoadState

/-- **A module still waits to be settled**: nothing is known of it, no interface of it is on disk
that was not there at the start, and nobody else is going to put one there. -/
structure Awaits (setup : Setup) (module : ModuleName) (start : Disk) (s : LoadState) : Prop where
  /-- Nothing is known of it. -/
  unknown : s.caches.visited.get? module = none
  /-- No interface of it is new on disk. -/
  onDisk : ∀ i : Interface, i.name = module →
    i.OnDisk Setup.compilerVersion setup.codec s.world.disk →
    i.OnDisk Setup.compilerVersion setup.codec start
  /-- None will be by somebody else. -/
  unforged : setup.Unforged module s.world.outside

variable {setup : Setup} {module : ModuleName} {start : Disk} {s s' : LoadState}
  {frames : List ModuleName}

/-- **A module in progress goes on waiting**, whatever is done for it. -/
theorem Awaits.of_acts (h : Awaits setup module start s) (hcodec : setup.codec.Faithful)
    (hmem : module ∈ frames) (hacts : Acts setup (fun _ _ => False) (fun _ => False) frames s s') :
    Awaits setup module start s' where
  unknown := hacts.settled.get?_eq_none hmem h.unknown
  onDisk i hi hdisk := h.onDisk i hi <|
    hacts.onDisk hcodec (hi ▸ hmem) (fun d d' hothers => h.unforged d d' hothers i hi) hdisk
  unforged d d' hothers := h.unforged d d' (hothers.mono hacts.outside)

end LoadState

namespace Load

/-- A load whose deeds leave a module waiting, whatever comes of it. -/
theorem Acts.ensures_awaits {α : Type} {load : Load α} {setup : Setup} {module : ModuleName}
    {start : Disk} {s : LoadState} {frames : List ModuleName}
    (h : load.Acts setup (fun _ _ => False) (fun _ => False) frames) (hcodec : setup.codec.Faithful)
    (hmem : module ∈ frames) (hs : s.Awaits setup module start) :
    load.Ensures s (fun _ s' => s'.Awaits setup module start)
      fun _ s' => s'.Awaits setup module start := by
  intro r s' hrun
  have hafter := hs.of_acts hcodec hmem (h s r s' hrun)
  cases r <;> exact hafter

end Load

namespace Setup

variable {setup : Setup} {importer : Importer} {scope : ImportedScope} {mode : CheckMode}
  {target : Target} {start : Disk} {s : LoadState} {frames : List ModuleName}

/-- **A write that fails leaves the module waiting**, and one that succeeds does not settle it. -/
theorem ensures_persist (hcodec : setup.codec.Faithful) {module : ModuleName} (i : Interface)
    (hs : s.Awaits setup module start) :
    (setup.persist target i).Ensures s (fun _ s' => s'.caches.visited.get? module = none)
      fun _ s' => s'.Awaits setup module start := by
  have haccess : s.access.Awaits setup module start :=
    hs.of_acts hcodec (List.mem_singleton_self module) (.access s)
  intro r s' hrun
  cases persists_of_run hrun with
  | written _ => exact hs.unknown
  | failed hwrite =>
    refine ⟨hs.unknown, fun j hj hdisk => haccess.onDisk j hj ?_, haccess.unforged⟩
    obtain ⟨directory, root, m, content, hfile, hinterface⟩ := hdisk
    exact ⟨directory, root, m, content, ArtifactStore.file_of_write_error hwrite hfile,
      hinterface⟩

section Importing

variable (himporter : ∀ scope m,
    (importer scope m).Acts setup (fun _ _ => False) (fun _ => False) frames)
  (hcodec : setup.codec.Faithful) (hmem : target.name ∈ frames)

include himporter hcodec hmem

/-- **A module that is checked waits on**, unless the check leads to something and is one that
settles. -/
theorem ensures_build (mode : CheckMode) (scope : ImportedScope)
    (hs : s.Awaits setup target.name start) :
    (setup.build importer target mode scope).Ensures s
      (fun _ s' => s'.caches.visited.get? target.name = none ∧
        (mode.persists = false → s'.Awaits setup target.name start))
      fun _ s' => s'.Awaits setup target.name start := by
  unfold build
  have hs₁ : (s.record (.checking target.name mode)).Awaits setup target.name start :=
    ⟨hs.unknown, hs.onDisk, hs.unforged⟩
  refine Ensures.after rfl (ensures_bind.2 ?_)
  have hrun := (acts_run himporter (setup.checker target.name target.source mode)
    (.start setup.settings.options scope)
    fun change h => ⟨_, _, _, h⟩).ensures_awaits hcodec hmem hs₁
  refine hrun.mono_ok fun p s₂ hs₂ => ?_
  obtain ⟨checked, context⟩ := p
  dsimp only
  split
  · cases (setup.interfaceOf target checked context).sealed setup.codec with
    | error e => exact Ensures.of_failure rfl hs₂
    | ok i =>
      refine Ensures.after rfl ?_
      split
      · rename_i hwrites
        unfold writes at hwrites
        simp only [Bool.and_eq_true] at hwrites
        refine ensures_bind.2 ((ensures_persist hcodec i hs₂).mono_ok fun durable s₃ hnone => ?_)
        refine ensures_pure.2 ⟨hnone, fun hmode => ?_⟩
        rw [hmode] at hwrites
        exact absurd hwrites.1.1 nofun
      · exact ensures_pure.2 ⟨hs₂.unknown, fun _ => hs₂⟩
  · exact ensures_throw.2 hs₂

end Importing

/-- **What a load leaves of its module before the last step**: in the mode that settles it is
settled with the interface that the load gives, and otherwise it waits. The last step can only fail
on a builtin. -/
structure Finishes (setup : Setup) (module : ModuleName) (mode : CheckMode) (start : Disk)
    (finished : Finished) (s : LoadState) : Prop where
  /-- A load that settles has settled the module. -/
  settled : mode.persists = true → ∃ entry, s.caches.visited.get? module = some entry ∧
    entry.interface = finished.1.interface
  /-- Another load leaves it waiting. -/
  awaits : mode.persists = false → s.Awaits setup module start
  /-- If the last step fails then on a builtin. -/
  conflict : ∀ e, finished.2 = .error e → ∃ builtin existing conflicting clashing,
    e = .duplicateBuiltinBinding builtin existing conflicting clashing

/-- A module that waits is settled in the mode that settles, and waits on otherwise. -/
theorem ensures_settleEntry {module : ModuleName} (entry : VisitedEntry)
    (hunknown : s.caches.visited.get? module = none)
    (hs : mode.persists = false → s.Awaits setup module start) :
    (settleEntry mode module entry).Ensures s
      (fun _ s' => (mode.persists = true → s'.caches.visited.get? module = some entry) ∧
        (mode.persists = false → s'.Awaits setup module start)) fun _ _ => False := by
  unfold settleEntry
  split
  · rename_i hmode
    refine Ensures.of_run rfl ⟨fun _ => LoadState.get?_settle hunknown entry, fun h => ?_⟩
    rw [hmode] at h
    contradiction
  · rename_i hmode
    exact ensures_pure.2 ⟨fun h => absurd h hmode, hs⟩

section Importing

variable (himporter : ∀ scope m,
    (importer scope m).Acts setup (fun _ _ => False) (fun _ => False) frames)
  (hcodec : setup.codec.Faithful)

include himporter hcodec

theorem ensures_finishBuilding (hmem : target.name ∈ frames) (mode : CheckMode)
    (scope : ImportedScope) (hs : s.Awaits setup target.name start) :
    (setup.finishBuilding importer target mode scope).Ensures s
      (setup.Finishes target.name mode start) fun _ s' => s'.Awaits setup target.name start := by
  unfold finishBuilding
  refine ensures_bind.2 ((ensures_build himporter hcodec hmem mode scope hs).mono_ok ?_)
  intro built s₁ ⟨hunknown, hawaits⟩
  refine ensures_bind.2 ((ensures_settleEntry _ hunknown hawaits).mono ?_ fun _ _ => False.elim)
  intro _ s₂ ⟨hsettled, hawaits₂⟩
  refine ensures_pure.2 ⟨fun hmode => ⟨_, hsettled hmode, rfl⟩, hawaits₂, fun e he => ?_⟩
  obtain ⟨builtin, existing, conflicting, heq⟩ := ImportedScope.merge_eq_error he
  exact ⟨builtin, existing, conflicting, _, heq⟩

/-- **Before its last step a load fails with its module waiting**; otherwise it has finished. -/
theorem ensures_finish {module : ModuleName} (hmem : module ∈ frames) (mode : CheckMode)
    (scope : ImportedScope) (hs : s.Awaits setup module start) :
    (setup.finish importer scope module mode).Ensures s (setup.Finishes module mode start)
      fun _ s' => s'.Awaits setup module start := by
  unfold finish
  refine ensures_bind.2 ?_
  have hlocate : (setup.locate module).Acts setup (fun _ _ => False) (fun _ => False) frames :=
    acts_locate
  refine ((hlocate.ensures_awaits hcodec hmem hs).and (ensures_locate s)).mono ?_
    fun _ _ => And.left
  intro located s₁ ⟨hs₁, htarget⟩
  obtain rfl := htarget.name
  refine ensures_bind.2 ?_
  have hrefresh : (refreshFor mode located).Acts setup (fun _ _ => False) (fun _ => False) frames :=
    acts_refreshFor
  have hyields : (refreshFor mode located).Ensures s₁
      (fun target _ => ∃ source, target = { located with source }) fun _ _ => True := by
    intro r s₂ hrun
    cases r with
    | ok target => exact yields_refreshFor _ _ _ hrun
    | error e => trivial
  refine ((hrefresh.ensures_awaits hcodec hmem hs₁).and hyields).mono ?_ fun _ _ => And.left
  rintro _ s₂ ⟨hs₂, source, rfl⟩
  have hbuild : ∀ {s₃ : LoadState}, s₃.Awaits setup located.name start →
      (setup.finishBuilding importer { located with source } mode scope).Ensures s₃
        (setup.Finishes located.name mode start)
        fun _ s' => s'.Awaits setup located.name start := by
    intro s₃ hs₃
    have hmem' : ({ located with source } : Target).name ∈ frames := hmem
    exact ensures_finishBuilding himporter hcodec hmem' mode scope hs₃
  split
  · exact hbuild hs₂
  · unfold finishValidating
    have hvalidate := acts_validate himporter { located with source } scope
    refine ensures_bind.2 ((hvalidate.ensures_awaits hcodec hmem hs₂).mono_ok fun r s₃ hs₃ => ?_)
    cases r with
    | ok i =>
      refine ensures_bind.2 ((ensures_settleEntry _ hs₃.unknown fun _ => hs₃).mono ?_
        fun _ _ => False.elim)
      intro _ s₄ ⟨hsettled, hawaits⟩
      unfold finishReusing
      refine Ensures.after (run_get s₄) (ensures_pure.2 ?_)
      exact ⟨fun hmode => ⟨_, hsettled hmode, rfl⟩, hawaits,
        fun e he => ImportedScope.mergeWithImports_eq_error he⟩
    | error reason => exact hbuild hs₃

end Importing

end Setup

namespace Session

/-- **A load has come to its last step**, which is to merge what it has finished. -/
def Finished (s : Session) (depth : Nat) (module : ModuleName) (mode : CheckMode) (world : World)
    (finished : Setup.Finished) (s' : Session) (world' : World) : Prop :=
  (Setup.entering s.stack module fun stack => s.setup.finish (s.setup.resolve depth stack)
    (s.scope.forget module) module mode).run.run ⟨s.caches, world⟩
      = some (.ok finished, ⟨s'.caches, world'⟩)

section Failures

variable {s s' : Session} {depth : Nat} {m : ModuleName} {mode : CheckMode} {world world' : World}
  {e : LoadError}

/-- **A failed load has not come to its last step**, and its module waits, or its last step has
failed. -/
theorem awaits_or_finished (hcodec : s.setup.codec.Faithful)
    (hunforged : s.setup.Unforged m world.outside) (hget : s.caches.visited.get? m = none)
    (hload : s.loadWithin depth m mode world = some (.error e, s', world')) :
    ((LoadState.mk s'.caches world').Awaits s.setup m world.disk ∧
      ∀ finished, ¬ s.Finished depth m mode world finished s' world') ∨
    ∃ finished, s.Finished depth m mode world finished s' world' ∧ finished.2 = .error e ∧
      s.setup.Finishes m mode world.disk finished ⟨s'.caches, world'⟩ := by
  have hstart : (LoadState.mk s.caches world).Awaits s.setup m world.disk :=
    ⟨hget, fun _ _ => id, hunforged⟩
  unfold Finished Setup.entering
  obtain ⟨cycle, hpush, hcaches, rfl⟩ | ⟨pushed, outcome, hpush, hrun, houtcome⟩ :=
    run_of_loadWithin hload
  · rw [hpush, hcaches]
    exact .inl ⟨hstart, fun finished h => absurd (congrArg Prod.fst (Option.some.inj h)) nofun⟩
  · obtain rfl : outcome = .error e := by
      cases outcome with
      | ok p => contradiction
      | error e' => rw [Except.error.inj houtcome]
    rw [hpush]
    dsimp only
    have hmem : m ∈ pushed.frames :=
      ImportStack.frames_of_push hpush ▸ List.mem_append_right _ (List.mem_singleton_self m)
    have hfinish := Setup.ensures_finish (Setup.acts_resolve depth pushed) hcodec hmem mode
      (s.scope.forget m) hstart
    rw [Setup.run_loadEntry_of_unknown hget, Load.run_bind] at hrun
    obtain ⟨⟨r, s₁⟩, hfirst, hrun⟩ := Option.bind_eq_some_iff.1 hrun
    have hs₁ := hfinish r s₁ hfirst
    cases r with
    | error e' =>
      obtain ⟨-, rfl⟩ := Prod.mk.inj (Option.some.inj hrun)
      refine .inl ⟨hs₁, fun finished h => ?_⟩
      rw [hfirst] at h
      exact absurd (congrArg Prod.fst (Option.some.inj h)) nofun
    | ok finished =>
      obtain ⟨loaded, merged⟩ := finished
      cases merged with
      | ok scope => exact absurd (congrArg Prod.fst (Option.some.inj hrun)) nofun
      | error e' =>
        obtain ⟨heq, rfl⟩ := Prod.mk.inj (Option.some.inj hrun)
        obtain rfl := Except.error.inj heq
        exact .inr ⟨_, hfirst, rfl, hs₁⟩

/-- **A failed load leaves its module unsettled, unless only its last step has failed.** Let a
module not be settled, let nobody else put an interface of it on disk, and let its load fail. Then
it is still not settled just if the load is one that does not settle, or has not come to its last
step; and if it is not, no interface of it is on disk that was not there before. When the last step
has failed, it has failed on a builtin; and if the load settles, the module is settled with the
interface that could not be merged. -/
theorem unsettled_iff_not_finished (hcodec : s.setup.codec.Faithful)
    (hunforged : s.setup.Unforged m world.outside) (hget : s.caches.visited.get? m = none)
    (hload : s.loadWithin depth m mode world = some (.error e, s', world')) :
    (s'.caches.visited.get? m = none ↔
      ¬ (mode = .batch ∧ ∃ finished, s.Finished depth m mode world finished s' world')) ∧
    (s'.caches.visited.get? m = none → ∀ i : Interface, i.name = m →
      i.OnDisk Setup.compilerVersion s.setup.codec world'.disk →
      i.OnDisk Setup.compilerVersion s.setup.codec world.disk) ∧
    ∀ finished, s.Finished depth m mode world finished s' world' → finished.2 = .error e ∧
      (∃ builtin existing conflicting clashing,
        e = .duplicateBuiltinBinding builtin existing conflicting clashing) ∧
      (mode = .batch → ∃ entry, s'.caches.visited.get? m = some entry ∧
        entry.interface = finished.1.interface) := by
  obtain ⟨hawaits, hnot⟩ | ⟨finished, hfinished, herror, hleft⟩ :=
    awaits_or_finished hcodec hunforged hget hload
  · exact ⟨iff_of_true hawaits.unknown fun h => h.2.elim hnot, fun _ => hawaits.onDisk,
      fun finished h => absurd h (hnot finished)⟩
  · refine ⟨⟨fun hnone ⟨hmode, _⟩ => ?_, fun h => ?_⟩, fun hnone => ?_, fun finished' h => ?_⟩
    · obtain ⟨entry, hentry, -⟩ := hleft.settled (CheckMode.persists_iff.2 hmode)
      rw [hnone] at hentry
      contradiction
    · refine (hleft.awaits ?_).unknown
      exact Bool.eq_false_iff.2 fun hmode => h ⟨CheckMode.persists_iff.1 hmode, finished, hfinished⟩
    · refine (hleft.awaits (Bool.eq_false_iff.2 fun hmode => ?_)).onDisk
      obtain ⟨entry, hentry, -⟩ := hleft.settled hmode
      rw [hnone] at hentry
      contradiction
    · obtain rfl : finished' = finished :=
        Except.ok.inj (congrArg Prod.fst (Option.some.inj (h.symm.trans hfinished)))
      exact ⟨herror, hleft.conflict e herror,
        fun hmode => hleft.settled (CheckMode.persists_iff.2 hmode)⟩

end Failures

end Session

/-! ## A script with a clash -/

namespace Script

/-- Plain scripts ask for no change of the disk. -/
theorem not_mayEdit_plainSetup (change : Disk → Except DiskFault Disk) :
    ¬ plainSetup.MayEdit change := by
  rintro ⟨module, file, mode, hedits⟩
  rw [checker_plainSetup] at hedits
  unfold plainChecker at hedits
  let rule : Check.Rule := ⟨fun _ => True, fun _ _ => True, fun _ => False⟩
  by_cases hplain : Plain file.text
  · rw [if_pos hplain] at hedits
    have habides : (checker module file mode).Abides rule :=
      abides hplain (fun _ _ => trivial) file.path
    exact habides.permitted_of_edits (fun _ _ => trivial) hedits
  · rw [if_neg hplain] at hedits
    contradiction

/-- In a quiet world nobody changes the disk but the loader. -/
theorem not_others_plainSetup (d d' : Disk) : ¬ plainSetup.Others [] d d' := by
  rintro (⟨change, hmem, -⟩ | ⟨change, hedits, -⟩)
  · exact List.not_mem_nil hmem
  · exact not_mayEdit_plainSetup change hedits

end Script

namespace Session

/-- A directory with three scripts. The first one imports the second, and the two bind a builtin to
different definitions; the third one imports the first. -/
def brokenDisk : Disk :=
  ⟨[(["p"], .directory), (["p", "A.lm"], .file (Bytes.ofText "import B\nbuiltin N a")),
    (["p", "B.lm"], .file (Bytes.ofText "builtin N b")),
    (["p", "M.lm"], .file (Bytes.ofText "import A"))]⟩

set_option maxRecDepth 100000 in
/-- The load of the first script fails at its last step. The script is settled nevertheless, its
interface is on disk, and the third one can be loaded, which imports it. -/
theorem unsettled_iff_not_finished_broken : ∃ (s s' : Session) (w' : World) (e : LoadError),
    s.caches.visited.get? ⟨"A"⟩ = none ∧
    brokenDisk.exists? ⟨"p/_build/A.lmi"⟩ = false ∧
    s.loadWithin 3 ⟨"A"⟩ .batch (.quiet brokenDisk) = some (.error e, s', w') ∧
    (∃ finished entry, s.Finished 3 ⟨"A"⟩ .batch (.quiet brokenDisk) finished s' w' ∧
      finished.2 = .error e ∧ s'.caches.visited.get? ⟨"A"⟩ = some entry ∧
      entry.interface = finished.1.interface) ∧
    w'.disk.exists? ⟨"p/_build/A.lmi"⟩ = true ∧
    (s'.loadWithin 3 ⟨"M"⟩ .batch w').map (fun r => r.1.toOption.isSome) = some true := by
  let start := Session.start Script.plainSetup
  have hrun : ((start.loadWithin 3 ⟨"A"⟩ .batch (.quiet brokenDisk)).map fun r =>
      (r.1.toOption.isSome, r.2.1.caches.visited.contains ⟨"A"⟩,
        r.2.2.disk.exists? ⟨"p/_build/A.lmi"⟩,
        (r.2.1.loadWithin 3 ⟨"M"⟩ .batch r.2.2).map fun r => r.1.toOption.isSome))
      = some (false, true, true, some true) := by
    decide +kernel
  obtain ⟨⟨result, s', w'⟩, hload, heq⟩ := Option.map_eq_some_iff.1 hrun
  simp only [Prod.mk.injEq] at heq
  obtain ⟨hfailed, hsettled, hwritten, himported⟩ := heq
  cases result with
  | ok loaded => exact absurd hfailed nofun
  | error e =>
    have hunforged : start.setup.Unforged ⟨"A"⟩ (World.quiet brokenDisk).outside :=
      fun d d' hothers => absurd hothers (Script.not_others_plainSetup d d')
    have hcodec : start.setup.codec.Faithful := Script.discreet_plainSetup.faithful
    obtain ⟨hiff, -, hfinished⟩ := unsettled_iff_not_finished hcodec hunforged rfl hload
    have hknown : s'.caches.visited.get? ⟨"A"⟩ ≠ none := by
      intro hnone
      unfold VisitedCache.contains at hsettled
      rw [hnone] at hsettled
      contradiction
    obtain ⟨-, finished, hlast⟩ := not_not.1 (mt hiff.2 hknown)
    obtain ⟨herror, -, hentry⟩ := hfinished finished hlast
    obtain ⟨entry, hget, hinterface⟩ := hentry rfl
    exact ⟨start, s', w', e, rfl, by decide +kernel, hload,
      ⟨finished, entry, hlast, herror, hget, hinterface⟩, hwritten, himported⟩

end Session

end ModuleLoader
