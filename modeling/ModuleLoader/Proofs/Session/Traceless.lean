import ModuleLoader.Proofs.Load.Validation
import ModuleLoader.Proofs.Script.Project
import ModuleLoader.Proofs.Session.Writes

/-!
# Loads that leave no trace

A load that only resolves names, or one that keeps private declarations, has a result that no other
module should ever see. The modules that it imports are a different matter: they are checked in
batch mode, settled, written and remembered, since whoever comes next can use them. So such a load
is not without effects, and the caches it works with are those of the session; what has to be shown
is that of all these effects none is on the module itself (`Session.leavesNoTrace`).

The module is in progress throughout, and what is resolved for it avoids modules in progress. That
leaves the few steps that the load takes itself. It checks the module and does not write what comes
of it, nor settle it. And if it only resolves names it first validates what is stored, which may
drop the decoded interface, or decode the artifact that is on disk.
-/

namespace ModuleLoader

open Load LoadState Disk

/-- A mode that keeps private declarations does not settle. -/
theorem CheckMode.persists_eq_false_of_retainsPrivate {mode : CheckMode}
    (h : mode.retainsPrivate = true) : mode.persists = false := by
  cases mode with
  | scopeOnly => contradiction
  | typeCheck retainPrivate =>
    obtain rfl : retainPrivate = true := h
    rfl

/-! ## Places that a passage spares -/

namespace Setup

variable {setup : Setup} {others : Disk → Disk → Prop} {start d : Disk}
  {changes : List (Disk × Disk)} {tried : List (Path × Interface)} {q : Place}

/-- **A place that others spare, and at which the loader writes nothing**, holds the same file at the
end of a passage. -/
theorem Passage.sameFile (h : setup.Passage others start changes tried d) (hstart : start.Closed)
    (hspares : ∀ change ∈ changes, Spares q change) (htried : ∀ e ∈ tried, placeOf e.1 ≠ q) :
    SameFile q start d ∧ d.Closed := by
  refine h.keeps (P := fun d => SameFile q start d ∧ d.Closed) ?_ ?_ ⟨.refl q start, hstart⟩
  · rintro change hmem ⟨hsame, hclosed⟩
    exact ⟨hsame.trans (hspares change hmem).file, (hspares change hmem).closed hclosed⟩
  · rintro e hmem d ⟨hsame, hclosed⟩
    obtain ⟨hclosed', hfiles⟩ := setup.store.file_write_iff setup.codec e.1 e.2 hclosed
    exact ⟨hsame.trans fun content => (hfiles q (htried e hmem).symm content).symm, hclosed'⟩

/-- A load that is not answered from memory looks for its module. -/
theorem run_loadEntry_eq {importer : Importer} {scope : ImportedScope} {module : ModuleName}
    {mode : CheckMode} {s : LoadState}
    (h : mode.retainsPrivate = true ∨ s.caches.visited.get? module = none) :
    (setup.loadEntry importer scope module mode).run.run s
      = (setup.loadTarget importer scope module mode).run.run s := by
  have hvisited : (Load.visited? module).run.run s
      = some (.ok (s.caches.visited.get? module), s) := rfl
  unfold loadEntry
  rw [Load.run_bind, hvisited]
  obtain hmode | hnone := h
  · rw [hmode]
    cases s.caches.visited.get? module <;> rfl
  · rw [hnone]
    rfl

/-- A mode that does not settle has its target read again. -/
theorem loadTarget_of_not_persists {importer : Importer} {scope : ImportedScope}
    {module : ModuleName} {mode : CheckMode} (hmode : mode.persists = false) :
    setup.loadTarget importer scope module mode = (do
      let located ← setup.locate module
      let target ← refresh located
      if mode.retainsPrivate then setup.buildEntry importer target mode scope
      else setup.validateEntry importer target mode scope) := by
  unfold loadTarget refreshFor
  simp only [hmode, Bool.false_eq_true, if_false]

/-- Such a mode settles nothing. -/
theorem settleEntry_of_not_persists {mode : CheckMode} (hmode : mode.persists = false)
    (module : ModuleName) (entry : VisitedEntry) : settleEntry mode module entry = pure () := by
  unfold settleEntry
  rw [if_neg (by simp [hmode])]

/-! ## The steps that a load takes itself -/

variable {importer : Importer} {frames : List ModuleName} {target : Target} {module : ModuleName}
  {scope : ImportedScope} {mode : CheckMode} {s s' : LoadState}
  {r : Except LoadError (Loaded × ImportedScope)}

variable (himporter : ∀ scope m, (importer scope m).Obeys setup.avoidance frames)

include himporter

/-- A module that is checked in place, and not to be settled, is avoided as well. -/
theorem obeys_buildEntry (scope : ImportedScope) (hmode : mode.persists = false) :
    (setup.buildEntry importer target mode scope).Obeys setup.avoidance frames := by
  unfold buildEntry
  have hrecord : ∀ s, setup.avoidance.obeys frames s (s.record (.checking target.name mode)) :=
    fun s => ⟨.of_eq rfl rfl rfl, fun _ _ => rfl⟩
  refine (Conduct.build_of_not_persists himporter scope hmode hrecord).bind fun built => ?_
  dsimp only
  rw [settleEntry_of_not_persists hmode, pure_bind]
  exact (Obeys.ofExcept _).bind fun _ => Obeys.pure _

/-- **A load that keeps private declarations avoids its own module.** -/
theorem obeys_loadTarget (scope : ImportedScope) (module : ModuleName)
    (hmode : mode.retainsPrivate = true) :
    (setup.loadTarget importer scope module mode).Obeys setup.avoidance frames := by
  have hpersists := CheckMode.persists_eq_false_of_retainsPrivate hmode
  rw [loadTarget_of_not_persists hpersists]
  refine setup.avoidance.locate.bind fun located => setup.avoidance.refresh.bind fun target => ?_
  rw [if_pos hmode]
  exact obeys_buildEntry himporter scope hpersists

/-- **A load that only resolves names** may change what is decoded of its own module. -/
theorem passes_loadTarget (hmode : mode.persists = false) (hprivate : mode.retainsPrivate = false)
    (hmem : module ∈ frames)
    (hrun : (setup.loadTarget importer scope module mode).run.run s = some (r, s')) :
    Passes setup frames s s' ∧ (Avoids setup frames s s' ∨
      ∃ found, setup.finder module s.nextDisk = .ok found ∧
        Fate setup frames module (setup.store.interfacePath found.root module) s s') := by
  rw [loadTarget_of_not_persists hmode] at hrun
  obtain ⟨e, hlocate, rfl⟩ | ⟨located, s₁, hlocate, hrun⟩ := bind_eq_some hrun
  · have havoids : Avoids setup frames s s' := setup.avoidance.locate _ _ _ hlocate
    exact ⟨havoids.toPasses, .inl havoids⟩
  have hlocated : Avoids setup frames s s₁ := setup.avoidance.locate _ _ _ hlocate
  obtain ⟨found, file, _, hfound, -, htarget, -⟩ := locate_eq_ok hlocate
  have hname : located.name = module := by rw [htarget]; rfl
  have hpath : located.interfacePath = setup.store.interfacePath found.root module := by
    rw [htarget, interfacePath_targetAt]
  obtain ⟨e, hrefresh, rfl⟩ | ⟨target, s₂, hrefresh, hrun⟩ := bind_eq_some hrun
  · have havoids := setup.avoidance.trans hlocated (setup.avoidance.refresh _ _ _ hrefresh)
    exact ⟨havoids.toPasses, .inl havoids⟩
  have hrefreshed : Avoids setup frames s s₂ :=
    setup.avoidance.trans hlocated (setup.avoidance.refresh _ _ _ hrefresh)
  obtain ⟨source, rfl⟩ := yields_refresh _ _ _ hrefresh
  rw [if_neg (by simp [hprivate])] at hrun
  have hvalidated : ∀ {validated s₃}, (setup.validate importer { located with source } scope).run.run
      s₂ = some (validated, s₃) → Passes setup frames s₂ s₃ ∧
        Fate setup frames module (setup.store.interfacePath found.root module) s₂ s₃ := by
    intro validated s₃ hvalidate
    have hmem' : ({ located with source } : Target).name ∈ frames := by rwa [← hname] at hmem
    have hboth := (validates_of_run hvalidate).passes himporter hmem'
    dsimp only at hboth
    rwa [hname, hpath] at hboth
  unfold validateEntry at hrun
  obtain ⟨e, hvalidate, rfl⟩ | ⟨validated, s₃, hvalidate, hrun⟩ := bind_eq_some hrun
  · obtain ⟨hpasses, hfate⟩ := hvalidated hvalidate
    exact ⟨hrefreshed.toPasses.trans hpasses, .inr ⟨found, hfound, .of_avoids hrefreshed hmem hfate⟩⟩
  obtain ⟨hpasses, hfate⟩ := hvalidated hvalidate
  have hlast : Avoids setup frames s₃ s' := by
    cases validated with
    | ok i =>
      dsimp only at hrun
      rw [settleEntry_of_not_persists hmode, pure_bind] at hrun
      exact setup.avoidance.reuse _ _ _ _ _ _ hrun
    | error reason => exact obeys_buildEntry himporter scope hmode _ _ _ hrun
  exact ⟨(hrefreshed.toPasses.trans hpasses).trans hlast.toPasses,
    .inr ⟨found, hfound, .of_avoids hrefreshed hmem (hfate.avoids hmem hlast)⟩⟩

/-- **A load of an entry module that does not settle**, whatever else is in progress: what happens
meanwhile, and what becomes of what is decoded of the module. -/
theorem passes_loadEntry (hmode : mode.persists = false) (hmem : module ∈ frames)
    (hrun : (setup.loadEntry importer scope module mode).run.run s = some (r, s')) :
    Passes setup frames s s' ∧ (Avoids setup frames s s' ∨
      mode.retainsPrivate = false ∧ ∃ found, setup.finder module s.nextDisk = .ok found ∧
        Fate setup frames module (setup.store.interfacePath found.root module) s s') := by
  by_cases hmemory : mode.retainsPrivate = true ∨ s.caches.visited.get? module = none
  · rw [run_loadEntry_eq hmemory] at hrun
    cases hprivate : mode.retainsPrivate with
    | true =>
      have havoids := obeys_loadTarget himporter scope module hprivate _ _ _ hrun
      exact ⟨havoids.toPasses, .inl havoids⟩
    | false =>
      obtain ⟨hpasses, hdecoded⟩ := passes_loadTarget himporter hmode hprivate hmem hrun
      exact ⟨hpasses, hdecoded.imp_right fun h => ⟨rfl, h⟩⟩
  · obtain ⟨hprivate, hvisited⟩ := not_or.1 hmemory
    obtain ⟨entry, hget⟩ := Option.ne_none_iff_exists'.1 hvisited
    rw [run_loadEntry_settled hget scope (by simpa using hprivate)] at hrun
    obtain ⟨-, rfl⟩ := Prod.mk.inj (Option.some.inj hrun)
    have havoids := setup.avoidance.refl frames s
    exact ⟨Avoids.toPasses havoids, .inl havoids⟩

end Setup

namespace Session

variable {s s' : Session} {depth : Nat} {m : ModuleName} {mode : CheckMode} {world world' : World}
  {result : Except LoadError Loaded}

/-- **A load leaves no trace of its module**, where others have made some changes to the disk and the
loader has tried to write some interfaces. -/
structure LeavesNoTrace (s : Session) (m : ModuleName) (mode : CheckMode) (world : World)
    (s' : Session) (world' : World) (changes : List (Disk × Disk))
    (tried : List (Path × Interface)) : Prop where
  /-- What is known of the module if it is settled is the same, and so is that it is not. -/
  visited : s'.caches.visited.get? m = s.caches.visited.get? m
  /-- The disk has changed in the ways that are listed. -/
  passage : s.setup.Passage (s.setup.Others world.outside) world.disk changes tried world'.disk
  /-- No interface of the module is among those that the loader has tried to write. -/
  tried_ne : ∀ e ∈ tried, e.2.name ≠ m
  /-- A place that others spare holds the same file, unless it is where the artifact of one of the
  other modules lies that the loader has tried to write. -/
  file : world.disk.Closed → ∀ q, (∀ change ∈ changes, Spares q change) →
    (∀ e ∈ tried, placeOf e.1 ≠ q) → SameFile q world.disk world'.disk
  /-- In a mode that keeps private declarations, what is decoded of the module is the same. -/
  decoded_of_retainsPrivate : mode.retainsPrivate = true →
    s'.caches.decoded.get? m = s.caches.decoded.get? m
  /-- In any case it is the same, or it is dropped, or it is what the artifact of the module on disk
  decodes to, if others spare that and it is not where the artifact of another module lies. -/
  decoded : s'.caches.decoded.get? m = s.caches.decoded.get? m ∨
    s'.caches.decoded.get? m = none ∨
    ∃ i found, s'.caches.decoded.get? m = some i ∧
      s.setup.finder m world.next.disk = .ok found ∧
      (world.disk.Closed →
        (∀ change ∈ changes, Spares (placeOf (s.interfacePath found.root m)) change) →
        (∀ e ∈ tried, placeOf e.1 ≠ placeOf (s.interfacePath found.root m)) →
        ∃ content, world'.disk.at? (placeOf (s.interfacePath found.root m)) = some (.file content) ∧
          Artifact.interface? Setup.compilerVersion s.setup.codec content = some i)

/-- What a load that does not settle does to the state, and to what is decoded of its module. -/
theorem passes_of_loadWithin (hmode : mode.persists = false)
    (hload : s.loadWithin depth m mode world = some (result, s', world')) :
    Passes s.setup [m] ⟨s.caches, world⟩ ⟨s'.caches, world'⟩ ∧
      (Avoids s.setup [m] ⟨s.caches, world⟩ ⟨s'.caches, world'⟩ ∨
        mode.retainsPrivate = false ∧ ∃ found, s.setup.finder m world.next.disk = .ok found ∧
          Fate s.setup [m] m (s.interfacePath found.root m) ⟨s.caches, world⟩
            ⟨s'.caches, world'⟩) := by
  obtain ⟨cycle, -, hcaches, rfl⟩ | ⟨pushed, outcome, hpush, hrun, -⟩ := run_of_loadWithin hload
  · rw [hcaches]
    have havoids := s.setup.avoidance.refl [m] ⟨s.caches, world'⟩
    exact ⟨Avoids.toPasses havoids, .inl havoids⟩
  · have hframe : [m] ⊆ pushed.frames :=
      ImportStack.frames_of_push hpush ▸ List.subset_append_right _ _
    exact Setup.passes_loadEntry
      (fun scope x => (s.setup.avoidance.resolve depth pushed scope x).of_subset hframe) hmode
      (List.mem_singleton_self m) hrun

/-- **Loads that do not settle leave no trace of their module**, in every session, in every mode but
the one that settles, and with every outcome. -/
theorem leavesNoTrace (hmode : mode.persists = false)
    (hload : s.loadWithin depth m mode world = some (result, s', world')) :
    ∃ changes tried, s.LeavesNoTrace m mode world s' world' changes tried := by
  obtain ⟨⟨hsettled, -, changes, tried, hpassage, hnew⟩, hdecoded⟩ :=
    passes_of_loadWithin hmode hload
  have hvisited : s'.caches.visited.get? m = s.caches.visited.get? m := by
    cases hget : s.caches.visited.get? m with
    | some entry => exact hsettled.get? hget
    | none => exact hsettled.get?_eq_none (List.mem_singleton_self m) hget
  have hothers : ∀ tried : List (Path × Interface), (∀ e ∈ tried, e.2.name ∉ [m]) →
      ∀ e ∈ tried, e.2.name ≠ m := fun _ h e he heq => h e he (heq ▸ List.mem_singleton_self m)
  -- All that is left to be said is what has become of the decoded interface.
  have hsame : s'.caches.decoded.get? m = s.caches.decoded.get? m →
      s.LeavesNoTrace m mode world s' world' changes tried := fun hsame =>
    ⟨hvisited, hpassage, hothers tried hnew, fun hclosed q hspares htried =>
      (hpassage.sameFile hclosed hspares htried).1, fun _ => hsame, .inl hsame⟩
  obtain havoids | ⟨hprivate, found, hfound, hfate⟩ := hdecoded
  · exact ⟨changes, tried, hsame (havoids.decoded m (List.mem_singleton_self m))⟩
  · cases hfate with
    | same heq => exact ⟨changes, tried, hsame heq⟩
    | dropped hnone =>
      exact ⟨changes, tried, hvisited, hpassage, hothers tried hnew,
        fun hclosed q hspares htried => (hpassage.sameFile hclosed hspares htried).1,
        fun hkeeps => absurd (hkeeps.symm.trans hprivate) nofun, .inr (.inl hnone)⟩
    | @read t i hbefore hread hafter hget =>
      obtain ⟨changes₁, tried₁, hpassage₁, hnew₁⟩ := hbefore.passage
      obtain ⟨changes₂, tried₂, hpassage₂, hnew₂⟩ := hafter.passage
      have hwhole := hpassage₁.trans (hpassage₂.mono fun _ _ => .mono hbefore.outside)
      have hnew := List.forall_mem_append.2 ⟨hnew₁, hnew₂⟩
      refine ⟨_, _, hvisited, hwhole, hothers _ hnew,
        fun hclosed q hspares htried => (hwhole.sameFile hclosed hspares htried).1,
        fun hkeeps => absurd (hkeeps.symm.trans hprivate) nofun,
        .inr (.inr ⟨i, found, hget, hfound, fun hclosed hspares htried => ?_⟩)⟩
      obtain ⟨hspares₁, hspares₂⟩ := List.forall_mem_append.1 hspares
      obtain ⟨htried₁, htried₂⟩ := List.forall_mem_append.1 htried
      -- The artifact has not changed since it was read.
      obtain ⟨content, hcontent, hdecodes⟩ := Option.bind_eq_some_iff.1 hread
      obtain ⟨q, hlocate, hfile⟩ := read?_eq_some_iff.1 hcontent
      rw [← placeOf_of_locate hlocate] at hfile
      have hclosed' := (hpassage₁.sameFile hclosed hspares₁ htried₁).2
      exact ⟨content, ((hpassage₂.sameFile hclosed' hspares₂ htried₂).1 content).1 hfile, hdecodes⟩

/-- In a quiet world nobody changes the disk but the loader, while plain scripts are checked. -/
theorem not_others_of_checker {setup : Setup} (hchecker : setup.checker = Script.plainSetup.checker)
    (d d' : Disk) : ¬ setup.Others [] d d' := by
  rintro (⟨change, hmem, -⟩ | ⟨change, ⟨module, file, mode, hedits⟩, -⟩)
  · exact List.not_mem_nil hmem
  · rw [hchecker] at hedits
    exact Script.not_mayEdit_plainSetup change ⟨module, file, mode, hedits⟩

/-- What sessions run with that check plain scripts in a directory, of which there are two. -/
def pairSetup : Setup :=
  { Script.plainSetup with
    finder := fun x d =>
      if x = ⟨"A"⟩ ∨ x = ⟨"B"⟩ then Finder.ofRoots [⟨"p"⟩] x d
      else .error (.moduleNotFound x [⟨"p"⟩]) }

/-- What is found is one of the two. -/
theorem found_pairSetup {x : ModuleName} {d : Disk} {found : FoundModule}
    (h : pairSetup.finder x d = .ok found) : (x = ⟨"A"⟩ ∨ x = ⟨"B"⟩) ∧ found.root = ⟨"p"⟩ := by
  dsimp only [pairSetup] at h
  split at h
  · rename_i hpair
    obtain ⟨hcandidate, -⟩ := Finder.mem_candidates_of_ofRoots h
    exact ⟨hpair, congrArg FoundModule.root (List.mem_singleton.1 hcandidate)⟩
  · contradiction

/-- The artifact of the second script lies at another place than that of the first one. -/
theorem placeOf_ne_of_lies_pairSetup {x : ModuleName} {path : Path} (h : pairSetup.Lies x path)
    (hne : x ≠ ⟨"A"⟩) : placeOf path ≠ ["p", "_build", "A.lmi"] := by
  obtain ⟨d, found, hfound, hpath⟩ := h
  obtain ⟨hpair, hroot⟩ := found_pairSetup hfound
  have hplace : placeOf (pairSetup.store.interfacePath ⟨"p"⟩ ⟨"B"⟩) = ["p", "_build", "B.lmi"] := by
    decide +kernel
  rw [hpath, hroot, hpair.resolve_left hne, hplace]
  decide

set_option maxRecDepth 100000 in
/-- The names of the first script are resolved. For that the second one is checked in batch mode,
settled and written; of the first one nothing is known afterwards, nothing is decoded, and there is
no artifact. -/
theorem leavesNoTrace_pair : ∃ (s s' : Session) (w' : World) (loaded : Loaded),
    s.loadWithin 3 ⟨"A"⟩ .scopeOnly (.quiet keptDisk) = some (.ok loaded, s', w') ∧
    s'.caches.visited.contains ⟨"B"⟩ = true ∧
    w'.disk.isFile ⟨"p/_build/B.lmi"⟩ = true ∧ s'.caches.visited.get? ⟨"A"⟩ = none ∧
    s'.caches.decoded.get? ⟨"A"⟩ = none ∧
    SameFile ["p", "_build", "A.lmi"] keptDisk w'.disk := by
  let start := Session.start pairSetup
  have hrun : ((start.loadWithin 3 ⟨"A"⟩ .scopeOnly (.quiet keptDisk)).map fun r =>
      (r.1.toOption.isSome, r.2.1.caches.visited.contains ⟨"B"⟩,
        r.2.2.disk.isFile ⟨"p/_build/B.lmi"⟩)) = some (true, true, true) := by
    decide +kernel
  obtain ⟨⟨result, s', w'⟩, hload, heq⟩ := Option.map_eq_some_iff.1 hrun
  obtain ⟨hok, hrest⟩ := Prod.mk.inj heq
  obtain ⟨hsettled, hwritten⟩ := Prod.mk.inj hrest
  obtain ⟨loaded, rfl⟩ := LoadError.exists_eq_ok hok
  have hmode : CheckMode.scopeOnly.persists = false := rfl
  obtain ⟨changes, tried, htrace⟩ := leavesNoTrace hmode hload
  have hclosed : (World.quiet keptDisk).disk.Closed := Disk.closed_of_entries (by decide +kernel)
  have hchecker : pairSetup.checker = Script.plainSetup.checker := by dsimp only [pairSetup]
  -- No other process is there, and no checker of this kind edits a file.
  have hspares : ∀ change ∈ changes, Spares ["p", "_build", "A.lmi"] change := fun change hmem =>
    absurd (htrace.passage.others_of_mem hmem) (not_others_of_checker hchecker _ _)
  have htried : ∀ e ∈ tried, placeOf e.1 ≠ ["p", "_build", "A.lmi"] := fun e he =>
    placeOf_ne_of_lies_pairSetup (htrace.passage.lies_of_mem he) (htrace.tried_ne e he)
  have hfile := htrace.file hclosed _ hspares htried
  have hdecoded : s'.caches.decoded.get? ⟨"A"⟩ = none := by
    obtain hsame | hnone | ⟨i, found, -, hfound, hread⟩ := htrace.decoded
    · exact hsame
    · exact hnone
    · -- There is no artifact that could have been decoded.
      have hplace : placeOf (start.interfacePath found.root ⟨"A"⟩) = ["p", "_build", "A.lmi"] := by
        rw [(found_pairSetup hfound).2]
        decide +kernel
      rw [hplace] at hread
      obtain ⟨content, hcontent, -⟩ := hread hclosed hspares htried
      have hnone : keptDisk.at? ["p", "_build", "A.lmi"] = none := by decide +kernel
      exact absurd (hnone.symm.trans ((hfile content).2 hcontent)) nofun
  exact ⟨start, s', w', loaded, hload, hsettled, hwritten, htrace.visited, hdecoded, hfile⟩

end Session

end ModuleLoader
