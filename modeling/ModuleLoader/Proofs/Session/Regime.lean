import ModuleLoader.Proofs.Session.Season

/-!
# Regimes

A contract for the steps of a load (`Setup.Contract`) says of every step that it keeps an invariant.
Most of these steps move data about: an interface is read from disk, kept, written, or dropped again,
a source is read and remembered. What such data is known to be like does not change on the way, and
whatever it is, the proof is the same.

A *regime* is what is left to say: which disks there may be, which texts a module may have on them,
what every stored interface is like, and what a settled one. The laws of a regime (`Regime.Lawful`)
are about the two places where something new comes about, a stored interface that passes for up to
date and a check that has ended; from them the contract follows (`Regime.Lawful.contract`).

Unlike in a season, sources may change and nothing is assumed of what checks come to. What is said of
stored interfaces may depend on what has been settled, as long as it is not lost when more is.
-/

namespace ModuleLoader

open Load

/-- **The sources on some disks are surveyed**: which texts modules may have is known, and the loader
does not leave these disks. -/
structure Setup.Surveyed (setup : Setup) (modules : Set ModuleName) (disks : Set Disk)
    (reads : ModuleName → String → Prop) : Prop where
  /-- A module has one of its texts wherever it is found and read. -/
  read {d d' : Disk} {module : ModuleName} {found : FoundModule} {path : Path} {text : String} :
    module ∈ modules → d ∈ disks → d' ∈ disks → setup.finder module d = .ok found →
    path.Same found.source → d'.readText path = .ok text → reads module text
  /-- Writing an artifact leads to another one of the disks. -/
  write {d d' : Disk} {module : ModuleName} {found : FoundModule} (i : Interface) :
    module ∈ modules → d ∈ disks → d' ∈ disks → setup.finder module d = .ok found →
    (setup.store.write setup.codec (setup.store.interfacePath found.root module) i d').2 ∈ disks

/-- **A regime**: what is known of the data that loads with a setup move about. -/
structure Setup.Regime (setup : Setup) where
  /-- The modules that may be asked for. -/
  modules : Set ModuleName
  /-- The disks there may be. -/
  disks : Set Disk
  /-- The texts that a module may have. -/
  reads : ModuleName → String → Prop
  /-- What stored interfaces are like, on disk and decoded, when some modules are settled. -/
  good : VisitedCache → Interface → Prop
  /-- What the entry of a module is like when others are settled. -/
  fit : VisitedCache → ModuleName → VisitedEntry → Prop

/-- **A harmless change** of the disk leads from a disk there may be to another one, and puts no
interface there. -/
def Setup.Harmless (setup : Setup) (disks : Set Disk) (change : Disk → Except DiskFault Disk) :
    Prop :=
  ∀ d ∈ disks, ∀ d', change d = .ok d' → d' ∈ disks ∧ d.ForgesNothing setup.codec d'

/-- **A calm world**: its disk is one of those there may be, and the changes that other programs are
going to make are harmless. -/
structure Setup.Calm (setup : Setup) (disks : Set Disk) (world : World) : Prop where
  /-- The disk is one of those there may be. -/
  disk : world.disk ∈ disks
  /-- It will still be. -/
  outside : ∀ change ∈ world.outside, setup.Harmless disks fun d => .ok (change d)

/-- A disk that nobody else changes. -/
theorem Setup.calm_quiet {setup : Setup} {disks : Set Disk} {d : Disk} (hd : d ∈ disks) :
    setup.Calm disks (.quiet d) := ⟨hd, nofun⟩

namespace Setup.Regime

variable {setup : Setup} (regime : setup.Regime)

/-- **The regime is kept**: by the world, and by what the session remembers. -/
structure Kept (s : LoadState) : Prop where
  /-- The world is calm. -/
  calm : setup.Calm regime.disks s.world
  /-- The interfaces on disk are as they should be. -/
  onDisk : ∀ i : Interface, i.OnDisk compilerVersion setup.codec s.world.disk →
    regime.good s.caches.visited i
  /-- So are the decoded ones. -/
  decoded : ∀ module i, s.caches.decoded.get? module = some i → regime.good s.caches.visited i
  /-- The sources that are remembered have been read on such disks. -/
  sources : ∀ path file, s.caches.sources.get? path = some file →
    file.path.Same path ∧ ∃ d ∈ regime.disks, d.readText file.path = .ok file.text
  /-- The settled modules fit. -/
  visited : ∀ module entry, s.caches.visited.get? module = some entry →
    regime.fit s.caches.visited module entry

/-- **A target that was located** on a disk of the regime, and read on one. -/
structure Located (target : Target) : Prop where
  /-- The module may be asked for. -/
  mem : target.name ∈ regime.modules
  /-- Its source is one that it may have. -/
  reads : regime.reads target.name target.source.text
  /-- It was found where its artifact belongs. -/
  place : ∃ d ∈ regime.disks, ∃ found, setup.finder target.name d = .ok found ∧
    target.source.path.Same found.source ∧
    target.interfacePath = setup.store.interfacePath found.root target.name

/-- **The rule for checks**: they import modules that may be asked for, keep to the disks there may
be, and put no interface there. -/
def rule : Check.Rule where
  wanted module := module ∈ regime.modules
  granted _ _ := True
  permitted := setup.Harmless regime.disks

/-- **The laws of a regime.** -/
structure Lawful : Prop where
  /-- What was encoded can be decoded. -/
  faithful : setup.codec.Faithful
  /-- The sources are surveyed. -/
  surveyed : setup.Surveyed regime.modules regime.disks regime.reads
  /-- Checks abide by the rule. -/
  abides {target : Target} (mode : CheckMode) : regime.Located target →
    (setup.checker target.name target.source mode).Abides regime.rule
  /-- What a stored interface imports may be asked for. -/
  imports {c : VisitedCache} {i : Interface} : regime.good c i → ∀ e ∈ i.imports,
    e.1 ∈ regime.modules
  /-- **What passes for up to date fits.** -/
  reuse {s : LoadState} {target : Target} {i : Interface} : regime.Kept s →
    regime.Located target → regime.good s.caches.visited i →
    i.localStaleness? target.name target.source.hash setup.settings.options.fingerprint = none →
    s.Current i.imports →
    regime.fit s.caches.visited target.name ⟨i, false, setup.settings.isPrimitive target.name⟩
  /-- **What a check has led to fits.** -/
  built {s : LoadState} {target : Target} {i : Interface} {checked : CheckedModule}
      {scope : ImportedScope} {context : CheckContext} : regime.Kept s → regime.Located target →
    (setup.checker target.name target.source .batch).Went setup.compatibility s.Knows
      (.start setup.settings.options scope) checked context →
    checked.name = target.name →
    (setup.interfaceOf target checked context).sealed setup.codec = .ok i →
    regime.fit s.caches.visited target.name
      ⟨i, i.hasWarnings, setup.settings.isPrimitive target.name⟩
  /-- What fits and has no warnings may be stored. -/
  good_of_fit {c : VisitedCache} {module : ModuleName} {i : Interface} {isPrimitive : Bool} :
    regime.fit c module ⟨i, false, isPrimitive⟩ → regime.good c i
  /-- What is stored is no worse when more is settled. -/
  good_mono {c c' : VisitedCache} {i : Interface} :
    (∀ module entry, c.get? module = some entry → c'.get? module = some entry) →
    regime.good c i → regime.good c' i
  /-- What fits goes on fitting when more is settled. -/
  fit_mono {c c' : VisitedCache} {module : ModuleName} {entry : VisitedEntry} :
    (∀ module entry, c.get? module = some entry → c'.get? module = some entry) →
    regime.fit c module entry → regime.fit c' module entry
  /-- What is reused as free of warnings may be settled with the warnings it has. -/
  fit_hasWarnings {c : VisitedCache} {module : ModuleName} {i : Interface} {isPrimitive : Bool} :
    regime.fit c module ⟨i, false, isPrimitive⟩ →
    regime.fit c module ⟨i, i.hasWarnings, isPrimitive⟩

variable {regime}

/-- The target that a module is found at is located, if its source was read there. -/
theorem located_targetAt {d : Disk} (hd : d ∈ regime.disks) {module : ModuleName}
    (hmem : module ∈ regime.modules) {found : FoundModule}
    (hfound : setup.finder module d = .ok found) {file : SourceFile}
    (hsame : file.path.Same found.source) (hreads : regime.reads module file.text) :
    regime.Located (setup.targetAt module found file) := by
  refine ⟨hmem, hreads, d, hd, found, hfound, hsame, ?_⟩
  dsimp only [Setup.targetAt]

/-! ## What keeps the regime -/

namespace Kept

variable {s : LoadState}

/-- A session that starts now, with some interfaces decoded by others. -/
theorem fresh {world : World} (hcalm : setup.Calm regime.disks world)
    (honDisk : ∀ i : Interface, i.OnDisk compilerVersion setup.codec world.disk →
      regime.good ∅ i) {decoded : DecodedCache}
    (hdecoded : ∀ module i, decoded.get? module = some i → regime.good ∅ i) :
    regime.Kept ⟨{ Caches.empty with decoded }, world⟩ where
  calm := hcalm
  onDisk := honDisk
  decoded := hdecoded
  sources := nofun
  visited := nofun

/-- The regime is kept in another world, as far as that is known of it. -/
theorem inWorld {c : Caches} {world world' : World} (h : regime.Kept ⟨c, world⟩)
    (hcalm : setup.Calm regime.disks world')
    (honDisk : ∀ i : Interface, i.OnDisk compilerVersion setup.codec world'.disk →
      regime.good c.visited i) : regime.Kept ⟨c, world'⟩ :=
  ⟨hcalm, honDisk, h.decoded, h.sources, h.visited⟩

theorem record (h : regime.Kept s) (event : Event) : regime.Kept (s.record event) :=
  ⟨⟨h.calm.disk, h.calm.outside⟩, h.onDisk, h.decoded, h.sources, h.visited⟩

/-- The regime is kept at the next access. -/
theorem access (h : regime.Kept s) : regime.Kept s.access := by
  obtain ⟨caches, ⟨disk, outside, journal⟩⟩ := s
  cases outside with
  | nil => exact h
  | cons change rest =>
    obtain ⟨hdisk, hforges⟩ := h.calm.outside change List.mem_cons_self disk h.calm.disk _ rfl
    exact ⟨⟨hdisk, fun c hc => h.calm.outside c (List.mem_cons_of_mem _ hc)⟩,
      fun i hi => h.onDisk i (hforges i hi), h.decoded, h.sources, h.visited⟩

/-- The disk at the next access is one of the regime. -/
theorem nextDisk_mem (h : regime.Kept s) : s.nextDisk ∈ regime.disks := h.access.calm.disk

/-- The regime is kept on another disk whose interfaces are as they should be. -/
theorem withDisk (h : regime.Kept s) {d : Disk} (hd : d ∈ regime.disks)
    (hgood : ∀ i : Interface, i.OnDisk compilerVersion setup.codec d →
      regime.good s.caches.visited i) : regime.Kept (s.withDisk d) :=
  ⟨⟨hd, h.calm.outside⟩, hgood, h.decoded, h.sources, h.visited⟩

/-- The regime is kept with one more source file, which was read on one of its disks. -/
theorem withSource (h : regime.Kept s) {d : Disk} (hd : d ∈ regime.disks) {path : Path}
    {text : String} (hread : d.readText path = .ok text) :
    regime.Kept (s.withSources (s.caches.sources.insert ⟨path, text⟩)) where
  calm := h.calm
  onDisk := h.onDisk
  decoded := h.decoded
  sources p file hfile := by
    obtain hbefore | ⟨hsame, rfl⟩ := SourceCache.get?_insert_eq_some hfile
    · exact h.sources p file hbefore
    · exact ⟨hsame, d, hd, hread⟩
  visited := h.visited

/-- The regime is kept without some decoded interface. -/
theorem drop (h : regime.Kept s) (module : ModuleName) (onDisk : Option Digest) :
    regime.Kept (s.withDecoded (s.caches.decoded.getCurrent? module onDisk).2) where
  calm := h.calm
  onDisk := h.onDisk
  decoded m i hget := h.decoded m i (DecodedCache.get?_of_getCurrent? hget)
  sources := h.sources
  visited := h.visited

/-- The regime is kept with an interface kept that is as it should be. -/
theorem keep (h : regime.Kept s) {module : ModuleName} {i : Interface}
    (hgood : regime.good s.caches.visited i) : regime.Kept (s.keep module i) where
  calm := h.calm
  onDisk := h.onDisk
  decoded m j hget := by
    obtain hbefore | ⟨-, rfl⟩ := DecodedCache.get?_insert_eq_some hget
    · exact h.decoded m j hbefore
    · exact hgood
  sources := h.sources
  visited := h.visited

end Kept

namespace Lawful

variable {s : LoadState} {frames : List ModuleName}

/-- The regime is kept when an entry that fits is settled. -/
theorem kept_settle (h : regime.Lawful) (hs : regime.Kept s) {module : ModuleName}
    {entry : VisitedEntry} (hfit : regime.fit s.caches.visited module entry) :
    regime.Kept (s.settle module entry) := by
  have hmono : ∀ m e, s.caches.visited.get? m = some e →
      (s.settle module entry).caches.visited.get? m = some e :=
    fun m e hget => VisitedCache.get?_record_of_get? hget module entry
  refine ⟨hs.calm, fun i hi => h.good_mono hmono (hs.onDisk i hi),
    fun m i hget => h.good_mono hmono (hs.decoded m i hget), hs.sources, fun m e hget => ?_⟩
  refine h.fit_mono hmono ?_
  obtain hbefore | ⟨rfl, rfl⟩ := VisitedCache.get?_record_eq_some hget
  · exact hs.visited m e hbefore
  · exact hfit

/-- **A module that is located** was found and read on disks of the regime. -/
theorem maintains_locate (h : regime.Lawful) (hs : regime.Kept s) {module : ModuleName}
    (hmem : module ∈ regime.modules) :
    (setup.locate module).Maintains regime.Kept frames s fun target _ =>
      setup.IsTarget module target ∧ regime.Located target := by
  have hs₁ := hs.access
  have hs₂ := hs₁.access
  intro r s' hrun
  cases locates_of_run hrun with
  | missing _ => exact ⟨hs₁, .of_eq rfl⟩
  | unreadable _ _ => exact ⟨hs₂, .of_eq rfl⟩
  | @located found file sources hfound hload =>
    obtain ⟨hcached, rfl⟩ | hreload := SourceCache.of_load hload
    · obtain ⟨hsame, d, hd, hread⟩ := hs.sources _ _ hcached
      exact ⟨hs₂, .of_eq rfl, setup.isTarget_targetAt _ _ _,
        located_targetAt hs.nextDisk_mem hmem hfound hsame
          (h.surveyed.read hmem hs.nextDisk_mem hd hfound hsame hread)⟩
    · obtain ⟨hpath, hread, rfl⟩ := SourceCache.of_reload hreload
      rw [← hpath] at hread
      have hsame : file.path.Same found.source := congrArg Path.components hpath
      exact ⟨hs₂.withSource hs₁.nextDisk_mem hread, .of_eq rfl, setup.isTarget_targetAt _ _ _,
        located_targetAt hs.nextDisk_mem hmem hfound hsame
          (h.surveyed.read hmem hs.nextDisk_mem hs₁.nextDisk_mem hfound hsame hread)⟩

/-- A target whose source is read again is still located. -/
theorem maintains_refresh (h : regime.Lawful) (hs : regime.Kept s) {target : Target}
    (hlocated : regime.Located target) :
    (Setup.refresh target).Maintains regime.Kept frames s fun target' _ =>
      (∀ module, setup.IsTarget module target → setup.IsTarget module target') ∧
        regime.Located target' := by
  have hs₁ := hs.access
  intro r s' hrun
  cases refreshes_of_run hrun with
  | unreadable _ => exact ⟨hs₁, .of_eq rfl⟩
  | @refreshed file _ hreload =>
    obtain ⟨hpath, hread, rfl⟩ := SourceCache.of_reload hreload
    rw [← hpath] at hread
    obtain ⟨d, hd, found, hfound, hsame, hartifact⟩ := hlocated.place
    have hsame' : file.path.Same found.source := hpath ▸ hsame
    exact ⟨hs₁.withSource hs.nextDisk_mem hread, .of_eq rfl, fun m ht => ⟨ht.name, ht.isPrimitive⟩,
      hlocated.mem, h.surveyed.read hlocated.mem hd hs.nextDisk_mem hfound hsame' hread,
      d, hd, found, hfound, hsame', hartifact⟩

/-- **What is stored for a target is as it should be.** -/
theorem maintains_read (hs : regime.Kept s) {target : Target}
    (hlocated : regime.Located target) :
    (setup.stored target).Maintains regime.Kept frames s fun result s' =>
      ∀ i, result = .ok i → regime.good s'.caches.visited i := by
  -- Reading settles nothing, so what was good at some moment on the way is good at its end.
  let inv t := regime.Kept t ∧ t.caches.visited = s.caches.visited
  have hstored : (setup.stored target).Maintains inv frames s fun result _ =>
      ∀ i, result = .ok i → ∃ s₁, inv s₁ ∧
        (s₁.caches.decoded.get? target.name = some i ∨
          setup.store.readInterface? setup.codec target.interfacePath s₁.world.disk = some i) :=
    maintains_stored ⟨hs, rfl⟩ (fun _ ht => ⟨ht.1.access, ht.2⟩)
      (fun _ _ ht => ⟨ht.1.drop _ _, ht.2⟩)
  refine Ensures.mono hstored ?_ fun _ _ ⟨hinv, hext⟩ => ⟨hinv.1, hext⟩
  rintro result s' ⟨⟨hs', hvisited⟩, hext, hresult⟩
  refine ⟨hs', hext, fun i hi => ?_⟩
  obtain ⟨s₁, ⟨hs₁, hvisited₁⟩, hdecoded | hread⟩ := hresult i hi
  · rw [hvisited, ← hvisited₁]
    exact hs₁.decoded _ _ hdecoded
  · obtain ⟨-, -, found, -, -, hpath⟩ := hlocated.place
    rw [hpath] at hread
    rw [hvisited, ← hvisited₁]
    exact hs₁.onDisk i (Interface.OnDisk.of_readInterface? hread)

/-- **An interface that is as it should be is written**, and what is read back is the same. -/
theorem maintains_persist (h : regime.Lawful) (hs : regime.Kept s) {target : Target}
    (hlocated : regime.Located target) {i : Interface} (hgood : regime.good s.caches.visited i) :
    (setup.persist target i).Maintains regime.Kept frames s fun durable _ => durable = i := by
  have hs₁ := hs.access
  have hdisk : (setup.store.write setup.codec target.interfacePath i s.nextDisk).2
      ∈ regime.disks := by
    obtain ⟨d, hd, found, hfound, -, hpath⟩ := hlocated.place
    rw [hpath]
    exact h.surveyed.write i hlocated.mem hd hs.nextDisk_mem hfound
  have hs₂ := hs₁.withDisk hdisk fun j hj => by
    obtain hbefore | rfl := Interface.OnDisk.of_write setup.readable_store h.faithful hj
    · exact hs₁.onDisk j hbefore
    · exact hgood
  exact Setup.maintains_persist h.faithful hs₂ fun _ hs₃ => hs₃.keep hgood

/-- A change that is permitted keeps the regime. -/
theorem maintains_edit (hs : regime.Kept s) {change : Disk → Except DiskFault Disk}
    (hpermitted : regime.rule.permitted change) :
    (Load.edit change).Maintains regime.Kept frames s fun _ _ => True := by
  have hs₁ := hs.access
  refine Load.maintains_edit hs₁ fun d hchange => ?_
  obtain ⟨hdisk, hforges⟩ := hpermitted _ hs₁.calm.disk _ hchange
  exact hs₁.withDisk hdisk fun i hi => hs₁.onDisk i (hforges i hi)

/-- **A lawful regime is kept by every load**: its laws make a contract. -/
def contract (h : regime.Lawful) : setup.Contract regime.Kept where
  located := regime.Located
  stored c _ i := regime.good c i
  fit := regime.fit
  rule := regime.rule
  abides := h.abides
  grant _ _ := trivial
  record event hs := hs.record event
  access hs := hs.access
  edit hs hpermitted := maintains_edit hs hpermitted
  locate hs hwanted := h.maintains_locate hs hwanted
  refresh hs hlocated := h.maintains_refresh hs hlocated
  read hs hlocated := maintains_read hs hlocated
  recorded := h.imports
  reuse hs hlocated hprimitive hgood hlocal himports :=
    hprimitive ▸ h.reuse hs hlocated hgood hlocal himports
  built hs hlocated hprimitive hwent hname hsealed :=
    hprimitive ▸ h.built hs hlocated hwent hname hsealed
  keep hs hfit := hs.keep (h.good_of_fit hfit)
  persist hs hlocated _ hfit := h.maintains_persist hs hlocated (h.good_of_fit hfit)
  settle hs _ hfit := h.kept_settle hs hfit
  stored_mono hext hgood := h.good_mono (fun _ _ hget => hext.get? hget) hgood
  fit_mono hext hfit := h.fit_mono (fun _ _ hget => hext.get? hget) hfit
  fit_hasWarnings _ hfit := h.fit_hasWarnings hfit

end Lawful

end Setup.Regime

end ModuleLoader
