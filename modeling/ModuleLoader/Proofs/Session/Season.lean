import ModuleLoader.Proofs.Artifact.Write
import ModuleLoader.Proofs.Load.Maintained
import ModuleLoader.Proofs.Load.Steps
import ModuleLoader.Proofs.Project.Derivation

/-!
# While the sources stay the same

A *season* of a project is a time in which its sources do not change. Artifacts come and go, and so
may other files, but on every disk of the season the same modules are found, with the same texts.
The loader itself writes artifacts and nothing else; checkers and other programs may do what they
like as long as the season goes on and no interface appears on disk that was not there before.

During a season a loader that trusts its caches makes no mistake (`Season.sound`). What it may have
in its caches or on disk are interfaces derived in some edition of the project, this one or an
earlier one, and what it settles is what is derived in this edition – reused or checked again.
-/

namespace ModuleLoader

open Load

/-! ## Editions on disk -/

namespace Setup

/-- The source text of a module, if it is found and reads as text. -/
def text? (setup : Setup) (d : Disk) (module : ModuleName) : Option String :=
  match setup.finder module d with
  | .ok found => (d.readText found.source).toOption
  | .error _ => none

/-- What is found for a module is what is read there. -/
theorem text?_of_found {setup : Setup} {d : Disk} {module : ModuleName} {found : FoundModule}
    (h : setup.finder module d = .ok found) :
    setup.text? d module = (d.readText found.source).toOption := by
  unfold text?
  rw [h]

/-- A module with a source text is found, and its source reads as that text. -/
theorem found_of_text? {setup : Setup} {d : Disk} {module : ModuleName} {text : String}
    (h : setup.text? d module = some text) :
    ∃ found, setup.finder module d = .ok found ∧ d.readText found.source = .ok text := by
  unfold text? at h
  split at h
  · rename_i found hfound
    refine ⟨found, hfound, ?_⟩
    cases hread : d.readText found.source with
    | error fault => rw [hread] at h; contradiction
    | ok text' =>
      rw [hread] at h
      rw [show text' = text from Option.some.inj h]
  · contradiction

end Setup

/-- **No interface is on disk that was not there before.** -/
def Disk.ForgesNothing (codec : Codec) (d d' : Disk) : Prop :=
  ∀ i : Interface, i.OnDisk Setup.compilerVersion codec d' → i.OnDisk Setup.compilerVersion codec d

/-- **A season**: what sessions run with, and the disks on which the sources are the same. -/
structure Season where
  /-- What sessions run with. -/
  setup : Setup
  /-- The modules of the project. -/
  modules : Set ModuleName
  /-- How they are checked. -/
  recipe : ModuleName → String → Recipe CheckedModule
  /-- The disks there may be. -/
  disks : Set Disk
  /-- The edition that can be read on all of them. -/
  edition : Edition
  /-- Its options are the base options of the sessions. -/
  options_eq : edition.options = setup.settings.options
  /-- Modules are found in the same places. -/
  finder_eq {d d' : Disk} {module : ModuleName} : module ∈ modules → d ∈ disks → d' ∈ disks →
    setup.finder module d = setup.finder module d'
  /-- They are found to be files. -/
  isFile {d : Disk} {module : ModuleName} {found : FoundModule} : module ∈ modules → d ∈ disks →
    setup.finder module d = .ok found → d.isFile found.source = true
  /-- Their texts are the same. -/
  text?_eq {d : Disk} {module : ModuleName} : module ∈ modules → d ∈ disks →
    setup.text? d module = edition.text? module
  /-- Writing an artifact changes no source. -/
  write {d : Disk} {module : ModuleName} {found : FoundModule} (i : Interface) :
    module ∈ modules → d ∈ disks → setup.finder module d = .ok found →
    (setup.store.write setup.codec (setup.store.interfacePath found.root module) i d).2 ∈ disks
  /-- In the mode that settles, modules are checked by their recipes: what the check of a module comes
  to depends on its text, its options and the interfaces of its imports. -/
  follows {module : ModuleName} {text : String} (path : Path) : module ∈ modules →
    edition.text? module = some text →
    (setup.checker module ⟨path, text⟩ .batch).Follows (recipe module text)
  /-- And nothing comes of a check that was refused an import. -/
  insists {module : ModuleName} {text : String} (path : Path) : module ∈ modules →
    edition.text? module = some text → (setup.checker module ⟨path, text⟩ .batch).Insists

namespace Season

variable (season : Season)

/-- What does not change with the season. -/
def toolchain : Toolchain where
  compatibility := season.setup.compatibility
  isPrimitive := season.setup.settings.isPrimitive
  codec := season.setup.codec
  recipe := season.recipe
  modules := season.modules

/-- **The rule for checks**: given the interfaces that are derived for its imports, a check imports
modules of the project, changes no source, and forges no interface. -/
def rule : Check.Rule where
  wanted module := module ∈ season.modules
  granted module i := ∃ entry, season.toolchain.Derives season.edition module entry ∧
    entry.importable = true ∧ entry.interface = i
  permitted change := ∀ d ∈ season.disks, ∀ d', change d = .ok d' →
    d' ∈ season.disks ∧ d.ForgesNothing season.setup.codec d'

/-- **Checkers abide by the rule**, in every mode. -/
def Abiding : Prop :=
  ∀ module ∈ season.modules, ∀ text, season.edition.text? module = some text → ∀ path mode,
    (season.setup.checker module ⟨path, text⟩ mode).Abides season.rule

/-- **A world in which the season goes on**: whatever other programs do. -/
structure Calm (world : World) : Prop where
  /-- It is the season now. -/
  disk : world.disk ∈ season.disks
  /-- It will still be. -/
  outside : ∀ change ∈ world.outside, ∀ d ∈ season.disks, change d ∈ season.disks ∧
    d.ForgesNothing season.setup.codec (change d)

/-- **A target is read as it is on every disk of the season.** -/
structure Located (target : Target) : Prop where
  /-- The module is one of the project. -/
  mem : target.name ∈ season.modules
  /-- The source is that of the module. -/
  text?_eq : season.edition.text? target.name = some target.source.text
  /-- It is read in the same way wherever it is read again. -/
  readText : ∀ d ∈ season.disks, d.readText target.source.path = .ok target.source.text
  /-- Its artifact lies where those of the module lie. -/
  interfacePath : ∃ found, (∀ d ∈ season.disks, season.setup.finder target.name d = .ok found) ∧
    target.interfacePath = season.setup.store.interfacePath found.root target.name

/-- **The caches and the disk can be trusted**: interfaces are genuine, sources are those of the
season, and settled is what is derived. -/
structure Sound (editions : Set Edition) (s : LoadState) : Prop where
  /-- The season goes on. -/
  calm : season.Calm s.world
  /-- The interfaces on disk are genuine. -/
  onDisk : ∀ i : Interface, i.OnDisk Setup.compilerVersion season.setup.codec s.world.disk →
    season.toolchain.Genuine editions i
  /-- So are the decoded ones. -/
  decoded : ∀ module i, s.caches.decoded.get? module = some i →
    season.toolchain.Genuine editions i
  /-- Sources that were read are as they are on disk. -/
  sources : ∀ path file, s.caches.sources.get? path = some file →
    file.path.Same path ∧ ∀ d ∈ season.disks, d.readText file.path = .ok file.text
  /-- What is settled is derived. -/
  visited : ∀ module entry, s.caches.visited.get? module = some entry →
    season.toolchain.Derives season.edition module entry

variable {season}

/-- The season goes on to the next access. -/
theorem Calm.next {world : World} (h : season.Calm world) :
    season.Calm world.next ∧ world.disk.ForgesNothing season.setup.codec world.next.disk := by
  unfold World.next
  split
  · exact ⟨h, fun i hi => hi⟩
  · rename_i change rest houtside
    have hchange := h.outside change (houtside ▸ List.mem_cons_self) world.disk h.disk
    refine ⟨⟨hchange.1, fun c hc => h.outside c ?_⟩, hchange.2⟩
    rw [houtside]
    exact List.mem_cons_of_mem _ hc

/-- A disk of the season that nobody else changes. -/
theorem calm_quiet {d : Disk} (hd : d ∈ season.disks) : season.Calm (.quiet d) := ⟨hd, nofun⟩

namespace Sound

variable {editions : Set Edition} {s : LoadState}

/-- The caches of a session that starts now, with some interfaces decoded by others. -/
theorem fresh {world : World} (hcalm : season.Calm world)
    (honDisk : ∀ i : Interface, i.OnDisk Setup.compilerVersion season.setup.codec world.disk →
      season.toolchain.Genuine editions i) {decoded : DecodedCache}
    (hdecoded : ∀ module i, decoded.get? module = some i → season.toolchain.Genuine editions i) :
    season.Sound editions ⟨{ Caches.empty with decoded }, world⟩ where
  calm := hcalm
  onDisk := honDisk
  decoded := hdecoded
  sources := nofun
  visited := nofun

/-- Other programs may do something else, as long as the disk is the same now. -/
theorem inWorld {c : Caches} {world world' : World} (h : season.Sound editions ⟨c, world⟩)
    (hcalm : season.Calm world') (hdisk : world'.disk = world.disk) :
    season.Sound editions ⟨c, world'⟩ where
  calm := hcalm
  onDisk i hi := h.onDisk i (hdisk ▸ hi)
  decoded := h.decoded
  sources := h.sources
  visited := h.visited

/-- A sound state at the next access. -/
theorem access (h : season.Sound editions s) : season.Sound editions s.access where
  calm := h.calm.next.1
  onDisk i hi := h.onDisk i (h.calm.next.2 i hi)
  decoded := h.decoded
  sources := h.sources
  visited := h.visited

/-- The disk at the next access is one of the season. -/
theorem nextDisk_mem (h : season.Sound editions s) : s.nextDisk ∈ season.disks :=
  h.access.calm.disk

/-- A sound state on another disk of the season. -/
theorem withDisk (h : season.Sound editions s) {d : Disk} (hd : d ∈ season.disks)
    (hgenuine : ∀ i : Interface, i.OnDisk Setup.compilerVersion season.setup.codec d →
      season.toolchain.Genuine editions i) : season.Sound editions (s.withDisk d) where
  calm := ⟨hd, h.calm.outside⟩
  onDisk := hgenuine
  decoded := h.decoded
  sources := h.sources
  visited := h.visited

/-- A sound state with one more source file, which was just read. -/
theorem withSource (h : season.Sound editions s) {path : Path} {text : String}
    (hread : ∀ d ∈ season.disks, d.readText path = .ok text) :
    season.Sound editions (s.withSources (s.caches.sources.insert ⟨path, text⟩)) where
  calm := h.calm
  onDisk := h.onDisk
  decoded := h.decoded
  sources p file hfile := by
    obtain hbefore | ⟨hsame, rfl⟩ := SourceCache.get?_insert_eq_some hfile
    · exact h.sources p file hbefore
    · exact ⟨hsame, hread⟩
  visited := h.visited

/-- A sound state without some decoded interface. -/
theorem drop (h : season.Sound editions s) (module : ModuleName) (onDisk : Option Digest) :
    season.Sound editions (s.withDecoded (s.caches.decoded.getCurrent? module onDisk).2) where
  calm := h.calm
  onDisk := h.onDisk
  decoded m i hget := h.decoded m i (DecodedCache.get?_of_getCurrent? hget)
  sources := h.sources
  visited := h.visited

/-- A sound state with a genuine interface kept. -/
theorem keep (h : season.Sound editions s) {module : ModuleName} {i : Interface}
    (hgenuine : season.toolchain.Genuine editions i) :
    season.Sound editions (s.keep module i) where
  calm := h.calm
  onDisk := h.onDisk
  decoded m j hget := by
    obtain hbefore | ⟨-, rfl⟩ := DecodedCache.get?_insert_eq_some hget
    · exact h.decoded m j hbefore
    · exact hgenuine
  sources := h.sources
  visited := h.visited

end Sound

/-! ## Reading sources -/

/-- The artifact of a module that is found lies where it should. -/
theorem located_targetAt {d : Disk} (hd : d ∈ season.disks) {module : ModuleName}
    (hmem : module ∈ season.modules) {found : FoundModule}
    (hfound : season.setup.finder module d = .ok found) {file : SourceFile}
    (htext : season.edition.text? module = some file.text)
    (hread : ∀ d ∈ season.disks, d.readText file.path = .ok file.text) :
    season.Located (season.setup.targetAt module found file) := by
  refine ⟨hmem, htext, hread, found, fun d' hd' => ?_, ?_⟩
  · show season.setup.finder module d' = .ok found
    rw [season.finder_eq hmem hd' hd, hfound]
  · dsimp only [Setup.targetAt]

/-- The source of a module reads the same on every disk. -/
theorem readText_of_text? {d : Disk} (hd : d ∈ season.disks) {module : ModuleName}
    (hmem : module ∈ season.modules) {found : FoundModule}
    (hfound : season.setup.finder module d = .ok found) {text : String}
    (htext : season.edition.text? module = some text) :
    ∀ d' ∈ season.disks, d'.readText found.source = .ok text := by
  intro d' hd'
  obtain ⟨found', hfound', hread⟩ :=
    Setup.found_of_text? ((season.text?_eq hmem hd').trans htext)
  rw [season.finder_eq hmem hd' hd, hfound] at hfound'
  rwa [← Except.ok.inj hfound'] at hread

/-- **What is read for a module is its source**, whether it was remembered or is read now. -/
theorem maintains_locate {editions : Set Edition} {s : LoadState} {frames : List ModuleName}
    {module : ModuleName} (hs : season.Sound editions s) (hmem : module ∈ season.modules) :
    (season.setup.locate module).Maintains (season.Sound editions) frames s fun target _ =>
      season.setup.IsTarget module target ∧ season.Located target := by
  have hs₁ := hs.access
  have hs₂ := hs₁.access
  have hd₁ := hs.nextDisk_mem
  have hd₂ := hs₁.nextDisk_mem
  intro r s' hrun
  cases Setup.locates_of_run hrun with
  | missing _ => exact ⟨hs₁, .of_eq rfl⟩
  | unreadable _ _ => exact ⟨hs₂, .of_eq rfl⟩
  | @located found file sources hfound hload =>
    have hfound₂ : season.setup.finder module s.access.nextDisk = .ok found :=
      (season.finder_eq hmem hd₂ hd₁).trans hfound
    have htext := Setup.text?_of_found hfound₂
    rw [season.text?_eq hmem hd₂] at htext
    obtain ⟨hcached, rfl⟩ | hreload := SourceCache.of_load hload
    · obtain ⟨hsame, hread⟩ := hs.sources _ _ hcached
      -- The remembered file may have been read under another spelling of the path.
      have hspelled : s.access.nextDisk.readText found.source = .ok file.text := by
        rw [← hread _ hd₂]
        exact (Disk.readText_eq_of_same hsame (Disk.isFile_of_readText (hread _ hd₂))
          (season.isFile hmem hd₂ hfound₂)).symm
      rw [hspelled] at htext
      exact ⟨hs₂, .of_eq rfl, season.setup.isTarget_targetAt _ _ _,
        located_targetAt hd₂ hmem hfound₂ htext hread⟩
    · obtain ⟨hpath, hread, rfl⟩ := SourceCache.of_reload hreload
      rw [hread] at htext
      have hall := readText_of_text? hd₂ hmem hfound₂ htext
      rw [← hpath] at hall
      exact ⟨hs₂.withSource hall, .of_eq rfl, season.setup.isTarget_targetAt _ _ _,
        located_targetAt hd₂ hmem hfound₂ htext hall⟩

/-- Reading a source again changes nothing. -/
theorem maintains_refresh {editions : Set Edition} {s : LoadState} {frames : List ModuleName}
    {target : Target} (hs : season.Sound editions s) (hlocated : season.Located target) :
    (Setup.refresh target).Maintains (season.Sound editions) frames s fun target' _ =>
      target' = target := by
  have hs₁ := hs.access
  have hread := hlocated.readText _ hs₁.calm.disk
  intro r s' hrun
  rw [Setup.run_refresh] at hrun
  unfold SourceCache.reload at hrun
  rw [show s.nextDisk.readText target.source.path = .ok target.source.text from hread] at hrun
  obtain ⟨rfl, rfl⟩ := Prod.mk.inj (Option.some.inj hrun)
  exact ⟨hs₁.withSource hlocated.readText, .of_eq rfl, rfl⟩

/-! ## The contract -/

/-- **A season is sound**: if no two byte strings that were hashed have one digest, every load keeps
the caches trustworthy and settles what is derived. -/
def sound (season : Season) {editions : Set Edition} (hmem : season.edition ∈ editions)
    (habiding : season.Abiding) (hcodec : season.setup.codec.Faithful)
    (hfree : season.toolchain.CollisionFree editions) :
    season.setup.Contract (season.Sound editions) where
  located := season.Located
  stored _ _ i := season.toolchain.Genuine editions i
  fit _ module entry := season.toolchain.Derives season.edition module entry
  rule := season.rule
  abides {target} mode hlocated :=
    habiding target.name hlocated.mem target.source.text hlocated.text?_eq target.source.path mode
  grant hs hknows := ⟨_, hs.visited _ _ hknows.1, hknows.2, rfl⟩
  record event hs := ⟨⟨hs.calm.disk, hs.calm.outside⟩, hs.onDisk, hs.decoded, hs.sources, hs.visited⟩
  access hs := hs.access
  edit {s change frames} hs hpermitted := by
    have hs₁ := hs.access
    refine Load.maintains_edit hs₁ fun d hchange => ?_
    obtain ⟨hdisk, hforges⟩ := hpermitted _ hs₁.calm.disk _ hchange
    exact hs₁.withDisk hdisk fun i hi => hs₁.onDisk i (hforges i hi)
  locate hs hmem := maintains_locate hs hmem
  refresh hs hlocated := (maintains_refresh hs hlocated).mono fun target' s' _ _ h =>
    ⟨fun module htarget => h ▸ htarget, h ▸ hlocated⟩
  read {s target frames} hs hlocated := by
    refine (Setup.maintains_stored hs (fun s h => h.access) (fun s onDisk h => h.drop _ _)).mono
      fun result s' _ _ hresult i hi => ?_
    obtain ⟨s₁, hs₁, hdecoded | hread⟩ := hresult i hi
    · exact hs₁.decoded _ _ hdecoded
    · obtain ⟨found, -, hpath⟩ := hlocated.interfacePath
      rw [hpath] at hread
      exact hs₁.onDisk i (Interface.OnDisk.of_readInterface? hread)
  recorded {_ target i} hgenuine e he := by
    obtain ⟨edition, -, hderives⟩ := hgenuine
    obtain ⟨imported, himported, -⟩ := hderives.imports he
    exact himported.mem
  reuse {s target i} hs hlocated hprimitive hgenuine hlocal himports := by
    obtain ⟨edition, hedition, hderives⟩ := hgenuine
    obtain ⟨hname, hsource, hoptions⟩ := Interface.localStaleness?_eq_none_iff.1 hlocal
    rw [hname] at hderives
    rw [hprimitive]
    refine hderives.transfer hcodec hfree (fun b hb => ⟨edition, hedition, hb⟩)
      (fun b hb => ⟨season.edition, hmem, hb⟩) hlocated.text?_eq hsource ?_ ?_
    · rw [season.options_eq]
      exact hoptions
    · intro e he
      obtain ⟨entry, hknows, hhash⟩ := himports e he
      exact ⟨entry, hs.visited _ _ hknows.1, hhash⟩
  built {s target i checked scope context} hs hlocated hprimitive hwent hname hsealed := by
    have hcomes := (season.follows target.source.path hlocated.mem hlocated.text?_eq).comes
      (season.insists target.source.path hlocated.mem hlocated.text?_eq) hwent
    rw [hprimitive]
    have hcomes' : (season.recipe target.name target.source.text).Comes season.setup.compatibility
        s.Knows (.start season.edition.options) checked context.ledger := by
      rw [season.options_eq]
      exact hcomes
    refine .intro hlocated.mem hlocated.text?_eq (fun x e (hx : s.Knows x e) => hs.visited x e hx.1)
      (fun x e hx => hx.2) hcomes' hname ?_
    · unfold Toolchain.interfaceOf
      rw [season.options_eq]
      exact hsealed
  keep {s module i} hs hfit := by
    refine hs.keep ⟨season.edition, hmem, ?_⟩
    rw [show i.name = module from hfit.name]
    exact hfit
  persist {s target i frames} hs hlocated hprimitive hfit := by
    have hs₁ := hs.access
    have hgenuine : season.toolchain.Genuine editions i := by
      refine ⟨season.edition, hmem, ?_⟩
      rw [show i.name = target.name from hfit.name]
      rw [hprimitive] at hfit
      exact hfit
    obtain ⟨found, hfound, hpath⟩ := hlocated.interfacePath
    have hwritten := season.write i hlocated.mem hs₁.calm.disk (hfound _ hs₁.calm.disk)
    rw [← hpath] at hwritten
    have hs₂ := hs₁.withDisk hwritten fun j hj => by
      obtain hbefore | rfl := Interface.OnDisk.of_write season.setup.readable_store hcodec hj
      · exact hs₁.onDisk j hbefore
      · exact hgenuine
    exact Setup.maintains_persist hcodec hs₂ fun _ hs₃ => hs₃.keep hgenuine
  settle {s module entry} hs hnone hfit := by
    refine ⟨hs.calm, hs.onDisk, hs.decoded, hs.sources, fun m e hget => ?_⟩
    obtain hbefore | ⟨rfl, rfl⟩ := VisitedCache.get?_record_eq_some hget
    · exact hs.visited m e hbefore
    · exact hfit
  stored_mono _ hgenuine := hgenuine
  fit_mono _ hfit := hfit
  fit_hasWarnings {s module i isPrimitive} _ hfit := by
    have hwarnings : false = i.hasWarnings := congrArg VisitedEntry.hasWarnings hfit.entry_eq
    rw [← hwarnings]
    exact hfit

end Season

end ModuleLoader
