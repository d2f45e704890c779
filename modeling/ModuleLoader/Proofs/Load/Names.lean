import Mathlib.Data.Set.Card
import ModuleLoader.Proofs.Artifact.Place
import ModuleLoader.Proofs.Load.Steps
import ModuleLoader.Proofs.Project.Imports

/-!
# The modules that are named

A load asks for a module only if something names it as an import: a source, as its checker reads it,
an interface that some artifact on disk reads as, or one that was decoded. All this is finite
(`Setup.finite_named`), however the artifacts have come to be where they are and whatever they name.

Nothing new is named while modules are loaded. The loader writes interfaces, but what an interface
lists was imported, so it had been named before. Checkers may change files as long as they name
nothing new by it (`Setup.Announces`). That this holds along a load, in a world in which nobody else
changes files, is shown of its steps (`Setup.announcement`).
-/

namespace ModuleLoader

open Load

/-- **Sources are filed under their own paths**, as they are by every session. -/
def SourceCache.Filed (c : SourceCache) : Prop :=
  ∀ path file, c.get? path = some file → file.path.Same path

namespace Setup

variable {setup : Setup} {imports : String → List ModuleName} {disks : Set Disk} {d : Disk}
  {module x : ModuleName} {i : Interface}

/-! ## What names a module -/

/-- **A place of sources**: the source of some module is found there, on some disk. -/
def IsSource (setup : Setup) (q : Place) : Prop :=
  ∃ module d found, setup.finder module d = .ok found ∧ q = Disk.placeOf found.source

/-- **A module is named on a disk**, given what a text names. -/
inductive NamedOn (setup : Setup) (imports : String → List ModuleName) (d : Disk) :
    ModuleName → Prop where
  /-- The text at a place of sources names it. -/
  | source {q : Place} {content : Bytes} {text : String} {x : ModuleName} : setup.IsSource q →
      d.at? q = some (.file content) → Bytes.text? content = some text → x ∈ imports text →
      NamedOn setup imports d x
  /-- A file in the place of an artifact reads as an interface that lists it. -/
  | artifact {module : ModuleName} {q : Place} {content : Bytes} {i : Interface} {x : ModuleName} :
      setup.IsPlace module q → d.at? q = some (.file content) →
      Artifact.interface? compilerVersion setup.codec content = some i → i.Lists x →
      NamedOn setup imports d x

/-- **A module is named**, on disk or by what a session remembers. -/
inductive Named (setup : Setup) (imports : String → List ModuleName) (caches : Caches) (d : Disk) :
    ModuleName → Prop where
  /-- It is named on disk. -/
  | onDisk {x : ModuleName} : setup.NamedOn imports d x → Named setup imports caches d x
  /-- A source that is remembered names it. -/
  | remembered {path : Path} {file : SourceFile} {x : ModuleName} :
      caches.sources.get? path = some file → x ∈ imports file.text → Named setup imports caches d x
  /-- A decoded interface lists it. -/
  | decoded {module : ModuleName} {i : Interface} {x : ModuleName} :
      caches.decoded.get? module = some i → i.Lists x → Named setup imports caches d x

/-! ## There are finitely many -/

/-- The modules that an interface lists. -/
def listed (i : Interface) : List ModuleName := i.imports.map Prod.fst

theorem mem_listed (h : i.Lists x) : x ∈ listed i := by
  obtain ⟨hash, hmem⟩ := h
  exact List.mem_map.2 ⟨_, hmem, rfl⟩

/-- The modules that a file names as a source. -/
def namesAsSource (imports : String → List ModuleName) : Entry → List ModuleName
  | .directory => []
  | .file content => ((Bytes.text? content).map imports).getD []

/-- The modules that a file names as an artifact. -/
def namesAsArtifact (setup : Setup) : Entry → List ModuleName
  | .directory => []
  | .file content => ((Artifact.interface? compilerVersion setup.codec content).map listed).getD []

/-- A list of all modules that are named. -/
def mentions (setup : Setup) (imports : String → List ModuleName) (caches : Caches) (d : Disk) :
    List ModuleName :=
  d.entries.flatMap (fun e => namesAsSource imports e.2 ++ setup.namesAsArtifact e.2) ++
    caches.sources.files.flatMap (fun f => imports f.2.text) ++
    caches.decoded.entries.flatMap fun e => listed e.2

/-- **What is named on a disk is named by one of its files**, which lies where sources or where
artifacts do. -/
theorem NamedOn.exists_file (h : setup.NamedOn imports d x) : ∃ e ∈ d.entries,
    setup.IsSource e.1 ∧ x ∈ namesAsSource imports e.2 ∨
    (∃ module, setup.IsPlace module e.1) ∧ x ∈ setup.namesAsArtifact e.2 := by
  cases h with
  | @source q content text _ hsource hfile htext hx =>
    refine ⟨(q, .file content), Disk.mem_entries_of_at? hfile, .inl ⟨hsource, ?_⟩⟩
    dsimp only [namesAsSource]
    rw [htext]
    exact hx
  | @artifact module q content i _ hplace hfile hinterface hx =>
    refine ⟨(q, .file content), Disk.mem_entries_of_at? hfile, .inr ⟨⟨module, hplace⟩, ?_⟩⟩
    dsimp only [namesAsArtifact]
    rw [hinterface]
    exact mem_listed hx

/-- **Every module that is named is on the list.** -/
theorem Named.mem_mentions {caches : Caches} (h : setup.Named imports caches d x) :
    x ∈ setup.mentions imports caches d := by
  unfold mentions
  rw [List.mem_append, List.mem_append, List.mem_flatMap, List.mem_flatMap, List.mem_flatMap]
  cases h with
  | onDisk hnamed =>
    obtain ⟨e, hmem, hx⟩ := hnamed.exists_file
    exact .inl (.inl ⟨e, hmem, List.mem_append.2 (hx.imp And.right And.right)⟩)
  | remembered hget hx => exact .inl (.inr ⟨_, mem_of_lookup hget, hx⟩)
  | @decoded module i _ hget hx => exact .inr ⟨(module, i), mem_of_lookup hget, mem_listed hx⟩

/-- **Finitely many modules are named.** -/
theorem finite_named (setup : Setup) (imports : String → List ModuleName) (caches : Caches)
    (d : Disk) : { x | setup.Named imports caches d x }.Finite :=
  (List.finite_toSet (setup.mentions imports caches d)).subset fun _ hx => hx.mem_mentions

/-- There are no more of them than a list of them all is long. -/
theorem ncard_named_le {caches : Caches} {list : List ModuleName}
    (h : ∀ x, setup.Named imports caches d x → x ∈ list) :
    { x | setup.Named imports caches d x }.ncard ≤ list.length := by
  have hsubset : { x | setup.Named imports caches d x } ⊆ (list.toFinset : Set ModuleName) :=
    fun x hx => List.mem_toFinset.2 (h x hx)
  calc { x | setup.Named imports caches d x }.ncard
      ≤ (list.toFinset : Set ModuleName).ncard := Set.ncard_le_ncard hsubset (Finset.finite_toSet _)
    _ = list.toFinset.card := Set.ncard_coe_finset _
    _ ≤ list.length := List.toFinset_card_le _

/-! ## Reading and writing -/

/-- What a source that is read names is named on disk. -/
theorem NamedOn.of_readText {path : Path} {text : String}
    (hsource : setup.IsSource (Disk.placeOf path)) (h : d.readText path = .ok text)
    (hx : x ∈ imports text) : setup.NamedOn imports d x := by
  obtain ⟨content, hentry, htext⟩ := Disk.readText_eq_ok h
  obtain ⟨q, hlocate, hfile⟩ := Disk.entry_eq_ok_iff.1 hentry
  rw [Disk.placeOf_of_locate hlocate] at hsource
  exact .source hsource hfile htext hx

/-- What an interface that is read lists is named on disk. -/
theorem NamedOn.of_readInterface? {path : Path} (hlies : setup.Lies module path)
    (h : setup.store.readInterface? setup.codec path d = some i) (hx : i.Lists x) :
    setup.NamedOn imports d x := by
  unfold ArtifactStore.readInterface? at h
  obtain ⟨content, hread, hinterface⟩ := Option.bind_eq_some_iff.1 h
  obtain ⟨q, hlocate, hfile⟩ := Disk.read?_eq_some_iff.1 hread
  have hplace := hlies.isPlace (Disk.namesFile_of_file hlocate hfile)
  rw [Disk.placeOf_of_locate hlocate] at hplace
  exact .artifact hplace hfile hinterface hx

/-! ## Nothing new -/

/-- **The rule for checks that name nothing new**: they import some modules, and they change files
in such a way that whatever is named then was named before. -/
def namingRule (setup : Setup) (imports : String → List ModuleName) (disks : Set Disk)
    (wanted : ModuleName → Prop) : Check.Rule where
  wanted := wanted
  granted _ _ := True
  permitted change := ∀ d ∈ disks, ∀ d', change d = .ok d' →
    d' ∈ disks ∧ ∀ x, setup.NamedOn imports d' x → setup.NamedOn imports d x

/-- **Imports are announced**: sources name what their checkers import, on all disks that there may
be, and nothing but sources and artifacts does. -/
structure Announces (setup : Setup) (imports : String → List ModuleName) (disks : Set Disk) :
    Prop where
  /-- What was encoded can be decoded. -/
  faithful : setup.codec.Faithful
  /-- No artifact lies where a source is found. -/
  apart {q : Place} {module : ModuleName} : setup.IsSource q → ¬ setup.IsPlace module q
  /-- Writing an artifact leads to another disk that there may be. -/
  write {d : Disk} {path : Path} {module : ModuleName} {i : Interface} : setup.Lies module path →
    d ∈ disks → (setup.store.write setup.codec path i d).2 ∈ disks
  /-- The check of a source imports what its text names, and it names nothing new, in every mode. -/
  abides {module : ModuleName} {file : SourceFile} (mode : CheckMode) :
    setup.IsSource (Disk.placeOf file.path) →
    (setup.checker module file mode).Abides
      (setup.namingRule imports disks fun x => x ∈ imports file.text)

/-- **A write names what the interface lists**, and nothing else that was not named before, whether
it succeeds or not. -/
theorem NamedOn.of_write (h : setup.Announces imports disks) {path : Path}
    (hlies : setup.Lies module path)
    (hx : setup.NamedOn imports (setup.store.write setup.codec path i d).2 x) :
    setup.NamedOn imports d x ∨ i.Lists x := by
  cases hx with
  | @source q content text _ hsource hfile htext hx =>
    have hbefore := hlies.file_of_write (h.apart hsource) hfile
    exact .inl (.source hsource hbefore htext hx)
  | artifact hplace hfile hinterface hx =>
    obtain hbefore | ⟨payload, -, hencode, hlayout⟩ := ArtifactStore.file_of_write hfile
    · exact .inl (.artifact hplace hbefore hinterface hx)
    · rw [hlayout] at hinterface
      rw [Artifact.eq_of_interface?_layout (setup.readable_store i payload) h.faithful hencode
        hinterface] at hx
      exact .inr hx

/-! ## Along a load -/

/-- **Only some modules are named**, and nobody but the load is going to change files. -/
structure NamesWithin (setup : Setup) (imports : String → List ModuleName) (disks : Set Disk)
    (names : Set ModuleName) (s : LoadState) : Prop where
  /-- Nobody else is going to change files. -/
  quiet : s.world.outside = []
  /-- The disk is one of those that there may be. -/
  disk : s.world.disk ∈ disks
  /-- Sources are filed under their own paths. -/
  filed : s.caches.sources.Filed
  /-- Whatever is named on it is one of these modules. -/
  onDisk : ∀ x, setup.NamedOn imports s.world.disk x → x ∈ names
  /-- So is whatever a source names that is remembered. -/
  remembered : ∀ path file, s.caches.sources.get? path = some file →
    ∀ x ∈ imports file.text, x ∈ names
  /-- So is whatever a decoded interface lists. -/
  decoded : ∀ module i, s.caches.decoded.get? module = some i → ∀ x, i.Lists x → x ∈ names

namespace NamesWithin

variable {names : Set ModuleName} {s : LoadState}

theorem access (h : setup.NamesWithin imports disks names s) :
    setup.NamesWithin imports disks names s.access := by
  rwa [LoadState.access_of_quiet h.quiet]

/-- Another disk that names nothing else. -/
theorem withDisk (h : setup.NamesWithin imports disks names s) (hd : d ∈ disks)
    (hnamed : ∀ x, setup.NamedOn imports d x → x ∈ names) :
    setup.NamesWithin imports disks names (s.withDisk d) :=
  ⟨h.quiet, hd, h.filed, hnamed, h.remembered, h.decoded⟩

/-- A source is read that names nothing else. -/
theorem withSource (h : setup.NamesWithin imports disks names s) {file : SourceFile}
    (hnamed : ∀ x ∈ imports file.text, x ∈ names) :
    setup.NamesWithin imports disks names (s.withSources (s.caches.sources.insert file)) := by
  refine ⟨h.quiet, h.disk, fun path found hget => ?_, h.onDisk, fun path found hget => ?_,
    h.decoded⟩
  · obtain hbefore | ⟨hsame, rfl⟩ := SourceCache.get?_insert_eq_some hget
    · exact h.filed path found hbefore
    · exact hsame
  · obtain hbefore | ⟨-, rfl⟩ := SourceCache.get?_insert_eq_some hget
    · exact h.remembered path found hbefore
    · exact hnamed

/-- Fewer interfaces are decoded. -/
theorem drop (h : setup.NamesWithin imports disks names s) (module : ModuleName)
    (onDisk : Option Digest) : setup.NamesWithin imports disks names
      (s.withDecoded (s.caches.decoded.getCurrent? module onDisk).2) :=
  ⟨h.quiet, h.disk, h.filed, h.onDisk, h.remembered,
    fun m i hget => h.decoded m i (DecodedCache.get?_of_getCurrent? hget)⟩

/-- An interface is kept that lists nothing else. -/
theorem keep (h : setup.NamesWithin imports disks names s) (hi : ∀ x, i.Lists x → x ∈ names) :
    setup.NamesWithin imports disks names (s.keep module i) := by
  refine ⟨h.quiet, h.disk, h.filed, h.onDisk, h.remembered, fun m j hget => ?_⟩
  obtain hbefore | ⟨-, rfl⟩ := DecodedCache.get?_insert_eq_some hget
  · exact h.decoded m j hbefore
  · exact hi

/-- **What is read at a place of sources** names only these modules. -/
theorem of_reload (h : setup.NamesWithin imports disks names s) {path : Path} {file : SourceFile}
    {sources : SourceCache} (hsource : setup.IsSource (Disk.placeOf path))
    (hreload : s.caches.sources.reload s.world.disk path = .ok (file, sources)) :
    setup.NamesWithin imports disks names (s.withSources sources) ∧ file.path = path ∧
      ∀ x ∈ imports file.text, x ∈ names := by
  obtain ⟨hpath, htext, rfl⟩ := SourceCache.of_reload hreload
  have hnamed : ∀ x ∈ imports file.text, x ∈ names := fun x hx =>
    h.onDisk x (.of_readText hsource htext hx)
  exact ⟨h.withSource hnamed, hpath, hnamed⟩

/-- So does what is remembered of it. -/
theorem of_load (h : setup.NamesWithin imports disks names s) {path : Path} {file : SourceFile}
    {sources : SourceCache} (hsource : setup.IsSource (Disk.placeOf path))
    (hload : s.caches.sources.load s.world.disk path = .ok (file, sources)) :
    setup.NamesWithin imports disks names (s.withSources sources) ∧ file.path.Same path ∧
      ∀ x ∈ imports file.text, x ∈ names := by
  obtain ⟨hget, rfl⟩ | hreload := SourceCache.of_load hload
  · exact ⟨h, h.filed path file hget, h.remembered path file hget⟩
  · obtain ⟨hafter, hpath, hnamed⟩ := h.of_reload hsource hreload
    exact ⟨hafter, congrArg Path.components hpath, hnamed⟩

end NamesWithin

/-- **A target that names only some modules**, with its source where sources are found. -/
structure TargetWithin (setup : Setup) (imports : String → List ModuleName)
    (names : Set ModuleName) (target : Target) : Prop where
  /-- Its artifact lies where artifacts do. -/
  placed : setup.Placed target
  /-- Its source lies where sources do. -/
  source : setup.IsSource (Disk.placeOf target.source.path)
  /-- Whatever its text names is one of these modules. -/
  named : ∀ x ∈ imports target.source.text, x ∈ names

/-- A module that is located. -/
theorem maintains_locate_names {names : Set ModuleName} {s : LoadState} {frames : List ModuleName}
    (hs : setup.NamesWithin imports disks names s) (module : ModuleName) :
    (setup.locate module).Maintains (setup.NamesWithin imports disks names) frames s
      fun target _ => setup.IsTarget module target ∧ setup.TargetWithin imports names target := by
  intro r s' hrun
  have haccess := LoadState.access_of_quiet hs.quiet
  cases locates_of_run hrun with
  | missing _ => exact ⟨hs.access, .of_eq rfl⟩
  | unreadable _ _ => exact ⟨hs.access.access, .of_eq rfl⟩
  | @located found file sources hfound hload =>
    have hsource : setup.IsSource (Disk.placeOf found.source) := ⟨_, _, _, hfound, rfl⟩
    rw [haccess, LoadState.nextDisk_of_quiet hs.quiet] at hload
    obtain ⟨hafter, hsame, hnamed⟩ := hs.of_load hsource hload
    rw [← Disk.placeOf_eq_of_same hsame] at hsource
    rw [haccess, haccess]
    exact ⟨hafter, .of_eq rfl, setup.isTarget_targetAt module found file,
      setup.placed_targetAt hfound file, hsource, hnamed⟩

/-- A source that is read again. -/
theorem maintains_refresh_names {names : Set ModuleName} {s : LoadState}
    {frames : List ModuleName} (hs : setup.NamesWithin imports disks names s) {target : Target}
    (htarget : setup.TargetWithin imports names target) :
    (refresh target).Maintains (setup.NamesWithin imports disks names) frames s fun target' _ =>
      (∀ module, setup.IsTarget module target → setup.IsTarget module target') ∧
        setup.TargetWithin imports names target' := by
  intro r s' hrun
  cases refreshes_of_run hrun with
  | unreadable _ => exact ⟨hs.access, .of_eq rfl⟩
  | @refreshed file _ hreload =>
    rw [LoadState.nextDisk_of_quiet hs.quiet] at hreload
    rw [LoadState.access_of_quiet hs.quiet]
    obtain ⟨hafter, hpath, hnamed⟩ := hs.of_reload htarget.source hreload
    have hsource : setup.IsSource (Disk.placeOf file.path) := hpath ▸ htarget.source
    exact ⟨hafter, .of_eq rfl, fun module h => ⟨h.name, h.isPrimitive⟩, htarget.placed, hsource,
      hnamed⟩

/-- The check of a target keeps to these modules. -/
theorem TargetWithin.abides {names : Set ModuleName} {target : Target}
    (htarget : setup.TargetWithin imports names target) (h : setup.Announces imports disks)
    (mode : CheckMode) : (setup.checker target.name target.source mode).Abides
      (setup.namingRule imports disks fun x => x ∈ names) := by
  refine Check.Abides.mono ?_ ?_ ?_ (h.abides mode htarget.source)
  · exact htarget.named
  · exact fun _ _ => id
  · exact fun _ => id

/-- **Along a load only those modules are named that were named when it began**: the steps of a load
keep to them, if its checks do. -/
def announcement (h : setup.Announces imports disks) (names : Set ModuleName) :
    setup.Contract (setup.NamesWithin imports disks names) where
  located := setup.TargetWithin imports names
  stored _ _ i := ∀ x, i.Lists x → x ∈ names
  fit _ _ entry := ∀ x, entry.interface.Lists x → x ∈ names
  rule := setup.namingRule imports disks fun x => x ∈ names
  abides mode htarget := htarget.abides h mode
  grant _ _ := trivial
  record _ hs := ⟨hs.quiet, hs.disk, hs.filed, hs.onDisk, hs.remembered, hs.decoded⟩
  access hs := hs.access
  edit hs hpermitted := Load.maintains_edit hs.access fun d hchange => by
    obtain ⟨hd, hnamed⟩ := hpermitted _ hs.access.disk d hchange
    exact hs.access.withDisk hd fun x hx => hs.access.onDisk x (hnamed x hx)
  locate hs _ := maintains_locate_names hs _
  refresh hs htarget := maintains_refresh_names hs htarget
  read {s target frames} hs htarget := by
    refine (maintains_stored hs (fun _ h => h.access) fun _ _ h => h.drop _ _).mono
      fun result s' _ _ hresult i hi x hx => ?_
    obtain ⟨s₁, hs₁, hdecoded | hread⟩ := hresult i hi
    · exact hs₁.decoded _ _ hdecoded x hx
    · exact hs₁.onDisk x (.of_readInterface? htarget.placed hread hx)
  recorded hstored e he := hstored e.1 ⟨e.2, he⟩
  reuse _ _ _ hstored _ _ := hstored
  built {s target i checked scope context} hs htarget _ hwent _ hsealed x hx := by
    obtain ⟨body, -, rfl⟩ := Interface.sealed_eq_ok hsealed
    obtain ⟨hash, hmem⟩ := hx
    obtain hstart | hwanted := hwent.wanted_of_mem_imports (fun _ _ _ => trivial)
      (htarget.abides h .batch) hmem
    · exact absurd hstart List.not_mem_nil
    · exact hwanted
  keep hs hfit := hs.keep hfit
  persist {s target i frames} hs htarget _ hfit := by
    refine maintains_persist h.faithful ?_ fun _ hs₁ => hs₁.keep hfit
    refine hs.access.withDisk (h.write htarget.placed hs.access.disk) fun x hx => ?_
    obtain hbefore | hlists := hx.of_write h htarget.placed
    · exact hs.access.onDisk x hbefore
    · exact hfit x hlists
  settle hs _ _ := ⟨hs.quiet, hs.disk, hs.filed, hs.onDisk, hs.remembered, hs.decoded⟩
  stored_mono _ hstored := hstored
  fit_mono _ hfit := hfit
  fit_hasWarnings _ hfit := hfit

end Setup

end ModuleLoader
