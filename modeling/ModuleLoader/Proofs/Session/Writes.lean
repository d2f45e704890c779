import ModuleLoader.Proofs.Session.Failure

/-!
# The loader writes artifacts of modules it has just checked

What a load does to the files of a project is little and can be said in full. A place where nobody
else changes the file holds the same file after a load as before it, unless it is the place of the
artifact of a module, below the include root that the module is found under on one of the disks that
there were during this very load, and a checker was called on this module in batch mode during the
load, with writing enabled. A file that the load has put there reads as an interface of such a
module, which has no warnings and holds its own digest. No source is ever written or removed.

This holds of every load in every mode with every outcome, for all names of modules, however strange
the places that they lead to (`Setup.IsPlaceOn`). The codec has to be faithful, for otherwise nothing
could be said of what is read back, and the disk has to be a tree, because a file that is removed
takes with it whatever is below.
-/

namespace ModuleLoader

namespace Disk

/-- **A place holds the same file**, or no file, on two disks. -/
def SameFile (q : Place) (d d' : Disk) : Prop :=
  ∀ content, d.at? q = some (.file content) ↔ d'.at? q = some (.file content)

theorem SameFile.refl (q : Place) (d : Disk) : SameFile q d d := fun _ => Iff.rfl

theorem SameFile.trans {q : Place} {d₁ d₂ d₃ : Disk} (h : SameFile q d₁ d₂)
    (h' : SameFile q d₂ d₃) : SameFile q d₁ d₃ :=
  fun content => (h content).trans (h' content)

/-- **A change of a disk spares a place**: it leaves the file there alone, and the disk a tree. -/
structure Spares (q : Place) (change : Disk × Disk) : Prop where
  /-- The place holds the same file. -/
  file : SameFile q change.1 change.2
  /-- The disk is a tree if it was one. -/
  closed : change.1.Closed → change.2.Closed

end Disk

open Disk

namespace Setup

variable {setup : Setup} {others : Disk → Disk → Prop} {checked : ModuleName → Prop}
  {start d : Disk} {seen disks : List Disk} {changes : List (Disk × Disk)}
  {written : List (Path × Interface)} {q : Place}

/-! ## One write -/

/-- **A write of the loader changes one file, at the place of the artifact** as it lies on some
disks. -/
theorem Issues.sameFile_or_isPlace {path : Path} {i : Interface}
    (h : setup.Issues (setup.LiesOn seen) checked path i) (hd : d.Closed) (q : Place) :
    SameFile q d (setup.store.write setup.codec path i d).2 ∨
      q = placeOf path ∧ setup.IsPlaceOn seen i.name q := by
  obtain hsame | hnames := setup.store.file_write_iff_or_namesFile setup.codec path i d
  · exact .inl fun content => (hsame q content).symm
  by_cases hq : q = placeOf path
  · exact .inr ⟨hq, hq ▸ h.located.isPlaceOn hnames⟩
  · exact .inl fun content =>
      ((setup.store.file_write_iff setup.codec path i hd).2 q hq content).symm

/-- So what has changed in the end, after a write or an attempt, is at a place of an artifact if it
was before. -/
theorem Issues.sameFile_or_isPlace_trans {path : Path} {i : Interface} {q : Place}
    {result : Except CacheError Interface} {d' : Disk}
    (h : setup.Issues (setup.LiesOn seen) checked path i) (hd : d.Closed)
    (hwrite : setup.store.write setup.codec path i d = (result, d'))
    (hbefore : SameFile q start d ∨ setup.settings.build.writeInterfaces = true ∧
      ∃ x, checked x ∧ setup.IsPlaceOn seen x q) :
    SameFile q start d' ∨ setup.settings.build.writeInterfaces = true ∧
      ∃ x, checked x ∧ setup.IsPlaceOn seen x q := by
  obtain hsame | hplace := hbefore
  · obtain hsame' | ⟨-, hplace⟩ := h.sameFile_or_isPlace hd q
    · rw [hwrite] at hsame'
      exact .inl (hsame.trans hsame')
    · exact .inr ⟨h.enabled, _, h.checked, hplace⟩
  · exact .inr hplace

/-! ## Along a chronicle -/

namespace Chronicle

/-- The disk stays a tree. -/
theorem closed
    (h : setup.Chronicle others (setup.LiesOn seen) checked start disks changes written d)
    (hspares : ∀ change ∈ changes, Spares q change) (hstart : start.Closed) : d.Closed := by
  induction h with
  | refl => exact hstart
  | changed _ _ ih =>
    obtain ⟨hbefore, hlast⟩ := List.forall_mem_append.1 hspares
    exact (hlast _ (List.mem_singleton_self _)).closed (ih hbefore)
  | @wrote _ _ _ path i _ d _ _ _ hwrite ih =>
    have hclosed := (setup.store.file_write_iff setup.codec path i (ih hspares)).1
    rwa [hwrite] at hclosed
  | @failed _ _ _ path i _ d _ _ _ hwrite ih =>
    have hclosed := (setup.store.file_write_iff setup.codec path i (ih hspares)).1
    rwa [hwrite] at hclosed

/-- **Only places of artifacts change**, of modules that were checked, and only if writing is
enabled. -/
theorem sameFile_or_isPlace
    (h : setup.Chronicle others (setup.LiesOn seen) checked start disks changes written d)
    (hspares : ∀ change ∈ changes, Spares q change) (hstart : start.Closed) :
    SameFile q start d ∨ setup.settings.build.writeInterfaces = true ∧
      ∃ x, checked x ∧ setup.IsPlaceOn seen x q := by
  induction h with
  | refl => exact .inl (.refl q start)
  | changed _ _ ih =>
    obtain ⟨hbefore, hlast⟩ := List.forall_mem_append.1 hspares
    exact (ih hbefore).imp_left fun hsame =>
      hsame.trans (hlast _ (List.mem_singleton_self _)).file
  | wrote hbefore hissues hwrite ih =>
    exact hissues.sameFile_or_isPlace_trans (hbefore.closed hspares hstart) hwrite (ih hspares)
  | failed hbefore hissues hwrite ih =>
    exact hissues.sameFile_or_isPlace_trans (hbefore.closed hspares hstart) hwrite (ih hspares)

/-- **A file was there at the start, and nothing was written to its place, or it reads as an
interface that was written there.** -/
theorem reads (hcodec : setup.codec.Faithful)
    (h : setup.Chronicle others (setup.LiesOn seen) checked start disks changes written d)
    (hspares : ∀ change ∈ changes, Spares q change) (hstart : start.Closed) {content : Bytes}
    (hfile : d.at? q = some (.file content)) :
    (start.at? q = some (.file content) ∧ ∀ e ∈ written, placeOf e.1 ≠ q) ∨
      ∃ e ∈ written, placeOf e.1 = q ∧ setup.IsPlaceOn seen e.2.name q ∧
        Artifact.interface? compilerVersion setup.codec content = some e.2 := by
  induction h with
  | refl => exact .inl ⟨hfile, nofun⟩
  | changed _ _ ih =>
    obtain ⟨hbefore, hlast⟩ := List.forall_mem_append.1 hspares
    exact ih hbefore (((hlast _ (List.mem_singleton_self _)).file content).2 hfile)
  | @wrote _ _ _ path i j d d' hbefore hissues hwrite ih =>
    by_cases hq : placeOf path = q
    · have hplace : setup.IsPlaceOn seen i.name q :=
        hq ▸ hissues.located.isPlaceOn (ArtifactStore.namesFile_of_write_ok hwrite)
      -- The last write to a place decides what is there.
      obtain ⟨found, hfound, hreads⟩ :=
        ArtifactStore.at?_of_write_ok setup.readable_store hcodec hwrite
      rw [hq, hfile] at hfound
      obtain rfl : content = found := by simpa using hfound
      exact .inr
        ⟨(path, i), List.mem_append_right _ (List.mem_singleton_self _), hq, hplace, hreads⟩
    · have hkept := (setup.store.file_write_iff setup.codec path i
        (hbefore.closed hspares hstart)).2 q (Ne.symm hq) content
      rw [hwrite] at hkept
      obtain ⟨hfirst, hnone⟩ | ⟨e, he, hplace, hreads⟩ := ih hspares (hkept.1 hfile)
      · refine .inl ⟨hfirst, fun e he => ?_⟩
        obtain he | he := List.mem_append.1 he
        · exact hnone e he
        · rw [List.mem_singleton.1 he]
          exact hq
      · exact .inr ⟨e, List.mem_append_left _ he, hplace, hreads⟩
  | failed _ _ hwrite ih => exact ih hspares (ArtifactStore.file_of_write_error hwrite hfile)

end Chronicle

end Setup

namespace Session

variable {s s' : Session} {depth : Nat} {m : ModuleName} {mode : CheckMode} {world world' : World}
  {result : Except LoadError Loaded}

/-- **What a load does**, whatever is in progress and however it ends. -/
theorem acts_loadWithin
    (hload : s.loadWithin depth m mode world = some (result, s', world')) :
    LoadState.Acts s.setup (fun _ _ => False) (fun _ => False) s.stack.frames ⟨s.caches, world⟩
      ⟨s'.caches, world'⟩ := by
  obtain ⟨cycle, -, hcaches, rfl⟩ | ⟨pushed, outcome, hpush, hrun, -⟩ := run_of_loadWithin hload
  · rw [hcaches]
    exact .of_eq rfl rfl
  · have hsubset : s.stack.frames ⊆ pushed.frames :=
      ImportStack.frames_of_push hpush ▸ List.subset_append_left _ _
    exact Setup.acts_loadEntry
      (fun scope x => (Setup.acts_resolve depth pushed scope x).of_subset hsubset)
      (ImportStack.notMem_of_push hpush) _ _ _ _ hrun

/-- **What a load makes of the file at a place**, where some events were recorded, there were some
disks, and the loader has written some interfaces. -/
structure Treats (s : Session) (events : List Event) (disks : List Disk)
    (written : List (Path × Interface)) (d d' : Disk) (q : Place) : Prop where
  /-- If the file is created, changed or removed then writing is enabled, and the place is that of the
  artifact of a module, as this was found on one of the disks, that was checked in batch mode. -/
  changed : ¬ SameFile q d d' → s.setup.settings.build.writeInterfaces = true ∧
    ∃ x, .checking x .batch ∈ events ∧ s.setup.IsPlaceOn disks x q
  /-- A file that is there afterwards was there before, and nothing was written to its place, or it
  reads as an interface of a module that was checked in batch mode and has its artifact there; this
  interface has no warnings and holds its own digest. -/
  reads : ∀ content, d'.at? q = some (.file content) →
    (d.at? q = some (.file content) ∧ ∀ e ∈ written, placeOf e.1 ≠ q) ∨
    ∃ i, Artifact.interface? Setup.compilerVersion s.setup.codec content = some i ∧
      .checking i.name .batch ∈ events ∧ s.setup.IsPlaceOn disks i.name q ∧ i.warnings = [] ∧
      i.computeHash s.setup.codec = .ok i.fullHash
  /-- If writing is not enabled nothing happens. -/
  disabled : s.setup.settings.build.writeInterfaces = false → SameFile q d d'
  /-- Nothing happens to a source. -/
  source : ∀ above name, q = above ++ [name ++ ("." ++ Finder.sourceExtension)] → SameFile q d d'

/-- **The loader writes only clean and sealed artifacts of modules that it has just checked.** A
load in any mode, with any outcome, records some events, and there is a chronicle of the disk
meanwhile: the disks that there were, changes made by others, and interfaces that the loader has
written. At a place that the changes of the others spare, what becomes of the file is as `Treats`
says. -/
theorem writes_checked (hcodec : s.setup.codec.Faithful)
    (hload : s.loadWithin depth m mode world = some (result, s', world')) :
    ∃ events disks changes written, world'.journal = world.journal ++ events ∧
      s.setup.Chronicle (s.setup.Others world.outside) (s.setup.LiesOn (world.disk :: disks))
        (fun x => .checking x .batch ∈ events) world.disk disks changes written world'.disk ∧
      (world.disk.Closed → ∀ q, (∀ change ∈ changes, Spares q change) →
        s.Treats events (world.disk :: disks) written world.disk world'.disk q) := by
  obtain ⟨-, events, disks, changes, written, hjournal, -, -, hchronicle⟩ := acts_loadWithin hload
  have hchronicle' : s.setup.Chronicle (s.setup.Others world.outside)
      (s.setup.LiesOn (world.disk :: disks)) (fun x => .checking x .batch ∈ events) world.disk disks
      changes written world'.disk :=
    hchronicle.mono (fun _ _ => id) (fun _ _ h => h.resolve_left id) fun x h => h.resolve_left id
  refine ⟨events, disks, changes, written, hjournal, hchronicle', fun hclosed q hspares => ?_⟩
  have hplace := hchronicle'.sameFile_or_isPlace hspares hclosed
  refine ⟨fun hchanged => hplace.resolve_left hchanged, fun content hfile => ?_, fun hoff => ?_, ?_⟩
  · refine (hchronicle'.reads hcodec hspares hclosed hfile).imp_right ?_
    rintro ⟨e, he, -, hplace, hreads⟩
    have hissues := hchronicle'.issues he
    exact ⟨e.2, hreads, hissues.checked, hplace, Interface.hasWarnings_eq_false_iff.1 hissues.clean,
      hissues.computeHash_eq⟩
  · refine hplace.resolve_right fun h => ?_
    rw [hoff] at h
    exact absurd h.1 nofun
  · rintro above name rfl
    refine hplace.resolve_right ?_
    rintro ⟨-, x, -, hx⟩
    exact Setup.not_isPlace_of_source hx.isPlace

set_option maxRecDepth 100000 in
/-- The first of two scripts imports the second, which is checked for that in batch mode. Its
artifact was not there before the load; afterwards it reads as an interface without warnings and
with its own digest. The scripts are what they were. -/
theorem writes_checked_kept : ∃ (s s' : Session) (w' : World) (loaded : Loaded) (content : Bytes)
    (i : Interface),
    s.loadWithin 3 ⟨"A"⟩ .batch (.quiet keptDisk) = some (.ok loaded, s', w') ∧
    keptDisk.at? ["p", "_build", "B.lmi"] = none ∧
    w'.disk.at? ["p", "_build", "B.lmi"] = some (.file content) ∧
    Artifact.interface? Setup.compilerVersion s.setup.codec content = some i ∧
    .checking i.name .batch ∈ w'.journal ∧ i.warnings = [] ∧
    i.computeHash s.setup.codec = .ok i.fullHash ∧
    SameFile ["p", "A.lm"] keptDisk w'.disk ∧ SameFile ["p", "B.lm"] keptDisk w'.disk := by
  let start := Session.start Script.plainSetup
  have hrun : ((start.loadWithin 3 ⟨"A"⟩ .batch (.quiet keptDisk)).map fun r =>
      (r.1.toOption.isSome, (r.2.2.disk.at? ["p", "_build", "B.lmi"]).any (· != .directory)))
      = some (true, true) := by
    decide +kernel
  obtain ⟨⟨result, s', w'⟩, hload, heq⟩ := Option.map_eq_some_iff.1 hrun
  obtain ⟨hok, hfile⟩ := Prod.mk.inj heq
  obtain ⟨loaded, rfl⟩ := LoadError.exists_eq_ok hok
  have hcodec : start.setup.codec.Faithful := Script.discreet_plainSetup.faithful
  have hclosed : (World.quiet keptDisk).disk.Closed := Disk.closed_of_entries (by decide +kernel)
  obtain ⟨events, disks, changes, written, hjournal, hchronicle, htreats⟩ :=
    writes_checked hcodec hload
  -- No other process is there, and no checker of this kind edits a file.
  have hspares : ∀ q, ∀ change ∈ changes, Spares q change := fun q change hmem =>
    absurd (hchronicle.others_of_mem hmem) (Script.not_others_plainSetup _ _)
  obtain ⟨content, hcontent⟩ : ∃ content,
      w'.disk.at? ["p", "_build", "B.lmi"] = some (.file content) := by
    match hat : w'.disk.at? ["p", "_build", "B.lmi"] with
    | some (.file content) => exact ⟨content, rfl⟩
    | some .directory | none =>
      dsimp only at hfile
      rw [hat] at hfile
      exact absurd hfile (by decide)
  obtain ⟨hbefore, -⟩ | ⟨i, hreads, hchecked, -, hclean, hhash⟩ :=
    (htreats hclosed ["p", "_build", "B.lmi"] (hspares _)).reads content hcontent
  · have hnone : keptDisk.at? ["p", "_build", "B.lmi"] = none := by decide +kernel
    exact absurd (hnone.symm.trans hbefore) nofun
  · exact ⟨start, s', w', loaded, content, i, hload, by decide +kernel, hcontent, hreads,
      hjournal ▸ List.mem_append_right _ hchecked, hclean, hhash,
      (htreats hclosed _ (hspares _)).source ["p"] "A" rfl,
      (htreats hclosed _ (hspares _)).source ["p"] "B" rfl⟩

end Session

end ModuleLoader
