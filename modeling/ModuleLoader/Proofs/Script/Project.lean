import ModuleLoader.Proofs.Disk.Tree
import ModuleLoader.Proofs.Script.Recipe
import ModuleLoader.Proofs.Session.Undisturbed

/-!
# Projects of scripts

A project whose modules are plain scripts below some include roots has seasons. Its disk is a tree,
the paths of its sources have no `..` in them, and no artifact lies where a source may lie. Then
writing an artifact changes no source (`ScriptProject.season`), and the checkers of the modules abide
by every rule that lets them import one another (`ScriptProject.abides`).
-/

namespace ModuleLoader

open Disk

/-- **A project of scripts** as it is on a disk. -/
structure ScriptProject where
  /-- The settings. -/
  settings : Settings
  /-- The include roots. -/
  roots : List Path
  /-- The modules. -/
  modules : List ModuleName
  /-- The disk. -/
  disk : Disk
  /-- It is a tree. -/
  closed : disk.Closed
  /-- The scripts are plain, and import modules of the project. -/
  plain : ∀ module ∈ modules, ∀ text ∈ (Setup.scripts settings roots).text? disk module,
    Script.Plain text ∧ ∀ imported ∈ Script.brings text, imported ∈ modules
  /-- The paths of sources go down only. -/
  direct : ∀ module ∈ modules, ∀ f ∈ Finder.candidates roots module, ".." ∉ f.source.segments
  /-- No artifact lies where a source may lie. -/
  apart : ∀ module ∈ modules, ∀ f ∈ Finder.candidates roots module, ∀ module' ∈ modules,
    ∀ f' ∈ Finder.candidates roots module', placeOf f.source
      ≠ placeOf ((Setup.scripts settings roots).store.interfacePath f'.root module')

@[simp] theorem Setup.checker_scripts (settings : Settings) (roots : List Path) :
    (Setup.scripts settings roots).checker = Script.checker := by
  unfold Setup.scripts
  dsimp only

/-- What is found below some roots is the only candidate that is a file. -/
theorem Finder.filter_candidates_of_ofRoots {roots : List Path} {module : ModuleName} {d : Disk}
    {found : FoundModule} (h : Finder.ofRoots roots module d = .ok found) :
    ((Finder.candidates roots module).filter fun f => d.isFile f.source) = [found] := by
  unfold Finder.ofRoots at h
  split at h
  · contradiction
  · rename_i found' hfilter
    rw [hfilter, Except.ok.inj h]
  · contradiction

/-- What is found below some roots is a candidate and a file. -/
theorem Finder.mem_candidates_of_ofRoots {roots : List Path} {module : ModuleName} {d : Disk}
    {found : FoundModule} (h : Finder.ofRoots roots module d = .ok found) :
    found ∈ candidates roots module ∧ d.isFile found.source = true := by
  have hmem : found ∈ (candidates roots module).filter fun f => d.isFile f.source := by
    rw [filter_candidates_of_ofRoots h]
    exact List.mem_singleton_self found
  exact List.mem_filter.1 hmem

/-- The text of a file depends on its content only. -/
theorem Disk.readText_eq_of_entry {d d' : Disk} {p : Path} (hfile : d.isFile p = true)
    (h : ∀ content, d.entry p = .ok (.file content) ↔ d'.entry p = .ok (.file content)) :
    d.readText p = d'.readText p := by
  unfold isFile at hfile
  split at hfile
  · rename_i content hentry
    unfold readText read
    rw [hentry, (h content).1 hentry]
  · contradiction

namespace ScriptProject

variable (p : ScriptProject)

/-- What its sessions run with. -/
def setup : Setup := .scripts p.settings p.roots

/-- **The disks that hold the same sources.** -/
def disks : Set Disk :=
  { d | d.Closed ∧ ∀ module ∈ p.modules, ∀ f ∈ Finder.candidates p.roots module, ∀ content,
    d.at? (placeOf f.source) = some (.file content) ↔
      p.disk.at? (placeOf f.source) = some (.file content) }

theorem disk_mem : p.disk ∈ p.disks := ⟨p.closed, fun _ _ _ _ _ => Iff.rfl⟩

variable {p} {d d' : Disk} {module : ModuleName}

/-- On two disks with the same sources the paths of sources lead to the same files. -/
theorem entry_iff (hmem : module ∈ p.modules) (hd : d ∈ p.disks) (hd' : d' ∈ p.disks)
    {f : FoundModule} (hf : f ∈ Finder.candidates p.roots module) (content : Bytes) :
    d.entry f.source = .ok (.file content) ↔ d'.entry f.source = .ok (.file content) :=
  hd.1.entry_file_iff hd'.1 (p.direct module hmem f hf)
    (fun c => (hd.2 module hmem f hf c).trans (hd'.2 module hmem f hf c).symm) content

/-- Modules are found in the same places. -/
theorem finder_eq (hmem : module ∈ p.modules) (hd : d ∈ p.disks) (hd' : d' ∈ p.disks) :
    p.setup.finder module d = p.setup.finder module d' := by
  have hfilter : ((Finder.candidates p.roots module).filter fun f => d.isFile f.source)
      = (Finder.candidates p.roots module).filter fun f => d'.isFile f.source :=
    List.filter_congr fun f hf => isFile_eq_of_entry (entry_iff hmem hd hd' hf)
  show Finder.ofRoots p.roots module d = Finder.ofRoots p.roots module d'
  unfold Finder.ofRoots
  rw [hfilter]

/-- What is found is a candidate and a file. -/
theorem found_mem {found : FoundModule} (h : p.setup.finder module d = .ok found) :
    found ∈ Finder.candidates p.roots module ∧ d.isFile found.source = true :=
  Finder.mem_candidates_of_ofRoots h

/-- The texts are the same. -/
theorem text?_eq (hmem : module ∈ p.modules) (hd : d ∈ p.disks) :
    p.setup.text? d module = p.setup.text? p.disk module := by
  have hfinder := finder_eq hmem hd p.disk_mem
  unfold Setup.text?
  rw [hfinder]
  cases hfound : p.setup.finder module p.disk with
  | error e => rfl
  | ok found =>
    obtain ⟨hcandidate, hfile⟩ := found_mem (hfinder.trans hfound)
    dsimp only
    rw [readText_eq_of_entry hfile (entry_iff hmem hd p.disk_mem hcandidate)]

@[simp] theorem checker_setup (p : ScriptProject) : p.setup.checker = Script.checker :=
  Setup.checker_scripts p.settings p.roots

/-- Modules are checked by their recipes. -/
theorem follows {text : String} (path : Path) (hmem : module ∈ p.modules)
    (htext : p.setup.text? p.disk module = some text) :
    (p.setup.checker module ⟨path, text⟩ .batch).Follows (Script.recipe module text) := by
  have hplain := (p.plain module hmem text htext).1
  rw [checker_setup]
  exact Script.follows_recipe hplain.tidy path

/-- They insist on their imports. -/
theorem insists {text : String} (path : Path) (hmem : module ∈ p.modules)
    (htext : p.setup.text? p.disk module = some text) :
    (p.setup.checker module ⟨path, text⟩ .batch).Insists := by
  have hplain := (p.plain module hmem text htext).1
  rw [checker_setup]
  exact Script.checker_insists hplain path

variable (p)

/-- **The season in which the sources of the project are as they are.** -/
def season : Season where
  setup := p.setup
  modules := { module | module ∈ p.modules }
  recipe := Script.recipe
  disks := p.disks
  edition := ⟨p.settings.options, p.setup.text? p.disk⟩
  options_eq := rfl
  finder_eq := finder_eq
  isFile _ _ hfound := (found_mem hfound).2
  text?_eq := text?_eq
  write {d module found} i hmem hd hfound := by
    have hwrite := ArtifactStore.file_write_iff p.setup.store p.setup.codec
      (p.setup.store.interfacePath found.root module) i hd.1
    refine ⟨hwrite.1, fun module' hmem' f hf content => ?_⟩
    rw [hwrite.2 _ (p.apart module' hmem' f hf module hmem found (found_mem hfound).1)]
    exact hd.2 module' hmem' f hf content
  follows path hmem htext := follows path hmem htext
  insists path hmem htext := insists path hmem htext

/-- **The checkers of a project of scripts abide by every rule that lets its modules import one
another.** -/
theorem abides {rule : Check.Rule} (hwanted : ∀ module ∈ p.modules, rule.wanted module)
    {text : String} (hmem : module ∈ p.modules) (htext : p.season.edition.text? module = some text)
    (path : Path) (mode : CheckMode) :
    (p.season.setup.checker module ⟨path, text⟩ mode).Abides rule := by
  obtain ⟨hplain, hbrings⟩ := p.plain module hmem text htext
  show (p.setup.checker module ⟨path, text⟩ mode).Abides rule
  rw [checker_setup]
  exact Script.abides hplain (fun imported h => hwanted imported (hbrings imported h)) path

theorem abiding : p.season.Abiding :=
  fun _ hmem _ htext path mode => p.abides (fun _ h => h) hmem htext path mode

/-- Plain scripts leave the disk alone. -/
theorem handsOff : p.season.HandsOff :=
  fun _ hmem _ htext path mode => p.abides (fun _ h => h) hmem htext path mode

variable {p} in
/-- The artifacts of different modules lie apart if they do below every root. -/
theorem apart_season (h : ∀ x ∈ p.modules, ∀ f ∈ Finder.candidates p.roots x, ∀ y ∈ p.modules,
    ∀ g ∈ Finder.candidates p.roots y, x ≠ y → placeOf (p.setup.store.interfacePath f.root x)
      ≠ placeOf (p.setup.store.interfacePath g.root y)) : p.season.Apart :=
  fun _ _ x hx y hy hne f g hf hg => h x hx f (found_mem hf).1 y hy g (found_mem hg).1 hne

/-! ## Editing a source -/

variable {p} {q : ScriptProject} {place : Place} {content : Bytes}

/-- **A source is edited**: artifacts and other sources stay, and the disk is one of the next
season. -/
theorem put_mem_disks (hroots : q.roots = p.roots) (hmodules : q.modules = p.modules)
    (hdisk : q.disk = p.disk.put place (.file content)) {f : FoundModule}
    (hmem : module ∈ p.modules) (hf : f ∈ Finder.candidates p.roots module)
    (hplace : placeOf f.source = place) {old : Bytes} (hold : p.disk.at? place = some (.file old))
    (hd : d ∈ p.disks) : d.put place (.file content) ∈ q.disks := by
  have hfile : d.at? place = some (.file old) := by
    rw [← hplace] at hold ⊢
    exact (hd.2 module hmem f hf old).2 hold
  have hnot : d.at? place ≠ some .directory := by simp [hfile]
  have hne := ne_nil_of_at? hnot
  refine ⟨hd.1.put (hd.1.parent hfile) hnot, fun module' hmem' f' hf' c => ?_⟩
  rw [hmodules] at hmem'
  rw [hroots] at hf'
  rw [hdisk, at?_put d hne, at?_put p.disk hne]
  split
  · exact Iff.rfl
  · exact hd.2 module' hmem' f' hf' c

/-- **Artifacts read as before** when a source has been edited. -/
theorem holds_put {f : FoundModule} (hmem : module ∈ p.modules)
    (hf : f ∈ Finder.candidates p.roots module) (hplace : placeOf f.source = place)
    {old : Bytes} (hold : p.disk.at? place = some (.file old)) (hd : d ∈ p.disks)
    {x : ModuleName} (hx : x ∈ p.modules) {i : Interface} (h : p.setup.Holds d x i) :
    p.setup.Holds (d.put place (.file content)) x i := by
  obtain ⟨found, hfound, hread⟩ := h
  obtain ⟨bytes, hbytes, hinterface⟩ := Option.bind_eq_some_iff.1 hread
  obtain ⟨q, hlocate, hat⟩ := read?_eq_some_iff.1 hbytes
  rw [← hplace] at hold
  have hfile := (hd.2 module hmem f hf old).2 hold
  rw [hplace] at hfile
  have hdirectory : d.at? place ≠ some .directory := by simp [hfile]
  have hfinder : p.setup.finder x (d.put place (.file content)) = p.setup.finder x d := by
    show Finder.ofRoots p.roots x _ = Finder.ofRoots p.roots x _
    unfold Finder.ofRoots
    rw [List.filter_congr fun f _ => isFile_put hfile f.source]
  refine ⟨found, hfinder.trans hfound, Option.bind_eq_some_iff.2 ⟨bytes, ?_, hinterface⟩⟩
  refine read?_eq_some_iff.2 ⟨q, (keepsDirectories_put hdirectory content).locate hlocate, ?_⟩
  rw [at?_put d (ne_nil_of_at? hdirectory), if_neg ?_, hat]
  rw [← placeOf_of_locate hlocate, ← hplace]
  exact (p.apart module hmem f hf x hx found (found_mem hfound).1).symm

end ScriptProject

namespace Disk

/-- A file that does not read as an interface forges none. -/
theorem forgesNothing_put {codec : Codec} {d : Disk} {place : Place} {content : Bytes}
    (hne : place ≠ []) (h : Artifact.interface? Setup.compilerVersion codec content = none) :
    d.ForgesNothing codec (d.put place (.file content)) := by
  rintro i ⟨directory, root, module, found, hfile, hinterface⟩
  rw [at?_put d hne] at hfile
  split at hfile
  · have hcontent : content = found := by simpa using hfile
    rw [hcontent] at h
    exact absurd (hinterface.symm.trans h) nofun
  · exact ⟨directory, root, module, found, hfile, hinterface⟩

/-! ## Disks given as lists -/

/-- No interface is on a disk without a file that reads as one. -/
theorem not_onDisk_of_entries {version : String} {codec : Codec} {d : Disk}
    (h : d.entries.all fun e => match e.2 with
      | .file content => (Artifact.interface? version codec content).isNone
      | .directory => true) (i : Interface) :
    ¬ i.OnDisk version codec d := by
  rintro ⟨directory, root, module, content, hfile, hinterface⟩
  unfold at? at hfile
  split at hfile
  · simp at hfile
  · obtain ⟨before, after, heq, -⟩ := List.lookup_eq_some_iff.1 hfile
    have hnone := List.all_eq_true.1 h _ (heq ▸ List.mem_append_right _ List.mem_cons_self)
    dsimp only at hnone
    rw [hinterface] at hnone
    exact absurd hnone nofun

end Disk

end ModuleLoader
