import ModuleLoader.Proofs.Load.Cycles
import ModuleLoader.Proofs.Project.Imports
import ModuleLoader.Proofs.Script.Project
import ModuleLoader.Proofs.Session.Contribution
import ModuleLoader.Proofs.Session.History
import ModuleLoader.Proofs.Session.Run

/-!
# Cycles of imports are detected

The sources of a project say what its modules import, and a module must not import itself through
others. The loader finds out while it is on its way: it never looks at the import graph as a whole,
it may follow imports that an old artifact records, and it does not go where a module is settled
already or a stored interface is up to date. All the same, a load that reports a cycle reports one of
the sources as they are now, and if there is a cycle that the loaded module leads to, then no load of
it succeeds (`Chart.cycles_detected`).

What makes this so is that imports are determined by texts, and texts by their digests. A *chart* says
what each text imports that a module has ever had. Every interface that sessions leave behind is on
the chart: it has the digest of a text of its module, and it records what this text imports
(`Chart.Describes`). So whatever an interface records that passes for up to date, the current text
imports too; no cycle is made up from an artifact of another time, and none is missed.
-/

namespace ModuleLoader

open Load Relation

/-- **A chart of imports**: what the modules of a project import, text by text. -/
structure Chart where
  /-- The modules. -/
  modules : Set ModuleName
  /-- The texts that a module has at one time or another. -/
  heard : ModuleName → String → Prop
  /-- What a module with a text imports. -/
  imports : ModuleName → String → ModuleName → Prop
  /-- How interfaces are stored. -/
  codec : Codec
  /-- What was encoded can be decoded. -/
  faithful : codec.Faithful
  /-- The modules import one another. -/
  closed {module x : ModuleName} {text : String} : module ∈ modules → heard module text →
    imports module text x → x ∈ modules
  /-- The texts of a module have digests of their own. -/
  distinct {module : ModuleName} {text text' : String} : module ∈ modules → heard module text →
    heard module text' → Digest.ofText text = Digest.ofText text' → text = text'

namespace Chart

variable (chart : Chart)

/-- **The interface is on the chart**: it was checked from one of the given texts of its module, and
records what this text imports. -/
def Describes (reads : ModuleName → String → Prop) (i : Interface) : Prop :=
  i.name ∈ chart.modules ∧ ∃ text, reads i.name text ∧ i.sourceHash = Digest.ofText text ∧
    ∀ x, i.Lists x ↔ chart.imports i.name text x

/-- **The import graph** of the sources on a disk: the current source of a module imports another
one. -/
def Links (setup : Setup) (d : Disk) (module x : ModuleName) : Prop :=
  ∃ text, setup.text? d module = some text ∧ chart.imports module text x

/-- **A chart covers a session**, on some disks and as long as modules have certain texts. -/
structure Covers (setup : Setup) (disks : Set Disk) (reads : ModuleName → String → Prop) : Prop where
  /-- Interfaces are stored in the same way. -/
  codec_eq : setup.codec = chart.codec
  /-- The chart has heard of the texts. -/
  heard {module : ModuleName} {text : String} : module ∈ chart.modules → reads module text →
    chart.heard module text
  /-- The sources are surveyed. -/
  surveyed : setup.Surveyed chart.modules disks reads
  /-- Looking for a module finds no cycle. -/
  finder (module : ModuleName) (d : Disk) (cycle : ImportCycle) :
    setup.finder module d ≠ .error (.importCycle cycle)
  /-- Checks bring in what the text imports, in every mode, and make harmless changes at most. -/
  brings {module : ModuleName} {text : String} (path : Path) (mode : CheckMode) :
    module ∈ chart.modules → reads module text →
    (setup.checker module ⟨path, text⟩ mode).Brings (chart.imports module text)
      (setup.Harmless disks) [] []

/-- The terms of a run that a chart covers. -/
def terms : Session.Terms := ⟨chart.modules, chart.codec, chart.Covers⟩

/-- **What is known of interfaces in such a run**: stored ones are on the chart, and settled ones with
a text that the module may have now. -/
def upkeep : Session.Upkeep where
  good _ _ i := chart.Describes chart.heard i
  fit _ reads _ module entry := entry.interface.name = module ∧ chart.Describes reads entry.interface

/-- The regime of a session in such a run. -/
abbrev regime (setup : Setup) (disks : Set Disk) (reads : ModuleName → String → Prop)
    (settled : Set Interface) : setup.Regime :=
  chart.upkeep.regime chart.terms setup disks reads settled

variable {chart} {setup : Setup} {disks : Set Disk} {reads : ModuleName → String → Prop}
  {settled : Set Interface}

namespace Covers

variable (h : chart.Covers setup disks reads)

include h

/-- What is checked from a text that a module may have now is on the chart. -/
theorem describes_heard {i : Interface} (hi : chart.Describes reads i) :
    chart.Describes chart.heard i := by
  obtain ⟨hmem, text, hreads, hrest⟩ := hi
  exact ⟨hmem, text, h.heard hmem hreads, hrest⟩

/-- **What passes for up to date was checked from the text that the module has now.** -/
theorem describes_of_localStaleness? {target : Target}
    (hlocated : (chart.regime setup disks reads settled).Located target) {i : Interface}
    (hi : chart.Describes chart.heard i) {baseOptions : Digest}
    (hlocal : i.localStaleness? target.name target.source.hash baseOptions = none) :
    i.name = target.name ∧ chart.Describes reads i := by
  obtain ⟨hmem, text, hheard, hhash, hlists⟩ := hi
  obtain ⟨hname, hsource, -⟩ := Interface.localStaleness?_eq_none_iff.1 hlocal
  have hreads : reads i.name target.source.text := hname ▸ hlocated.reads
  have htext : text = target.source.text :=
    chart.distinct hmem hheard (h.heard hmem hreads) (hhash.symm.trans hsource)
  exact ⟨hname, hmem, text, htext ▸ hreads, hhash, hlists⟩

/-- **What a check lists is what the text imports.** -/
theorem lists_iff {target : Target}
    (hlocated : (chart.regime setup disks reads settled).Located target) {mode : CheckMode}
    {scope : ImportedScope} {s : LoadState} {built : Built}
    (hcomes : setup.ComesOf target mode scope s built) (x : ModuleName) :
    built.interface.Lists x ↔ chart.imports target.name target.source.text x := by
  obtain ⟨checked, context, hwent, -, hsealed, -⟩ := hcomes
  obtain ⟨body, -, heq⟩ := Interface.sealed_eq_ok hsealed
  rw [heq]
  exact (h.brings target.source.path mode hlocated.mem hlocated.reads).listed_iff hwent

/-- What a text imports may be asked for. -/
theorem imports_mem {module x : ModuleName} {text : String} (hmem : module ∈ chart.modules)
    (hreads : reads module text) (himports : chart.imports module text x) : x ∈ chart.modules :=
  chart.closed hmem (h.heard hmem hreads) himports

/-- **A chart makes a lawful regime** of the session that it covers. -/
theorem lawful (settled : Set Interface) : (chart.regime setup disks reads settled).Lawful where
  faithful := h.codec_eq ▸ chart.faithful
  surveyed := h.surveyed
  abides {target} mode hlocated :=
    (h.brings target.source.path mode hlocated.mem hlocated.reads).abides
      (fun x hx => h.imports_mem hlocated.mem hlocated.reads hx) fun _ hharmless => hharmless
  imports hi e he := by
    obtain ⟨hmem, text, hheard, -, hlists⟩ := hi
    exact chart.closed hmem hheard ((hlists e.1).1 ⟨e.2, he⟩)
  reuse _ hlocated hgood hlocal _ := h.describes_of_localStaleness? hlocated hgood hlocal
  built {s target i checked scope context} _ hlocated hwent hname hsealed := by
    have hcomes : setup.ComesOf target .batch scope s ⟨i, context.scope, false⟩ :=
      ⟨checked, context, hwent, hname, hsealed, rfl⟩
    have hlists := h.lists_iff hlocated hcomes
    obtain ⟨body, -, rfl⟩ := Interface.sealed_eq_ok hsealed
    have hown : ∀ j : Interface, j.name = target.name → j.sourceHash = target.source.hash →
        (∀ x, j.Lists x ↔ chart.imports target.name target.source.text x) →
        j.name = target.name ∧ chart.Describes reads j := by
      intro j hj hhash hlists
      refine ⟨hj, hj ▸ hlocated.mem, target.source.text, hj ▸ hlocated.reads, hhash, ?_⟩
      rw [hj]
      exact hlists
    exact hown _ hname rfl hlists
  good_of_fit hfit := h.describes_heard hfit.2
  good_mono _ hgood := hgood
  fit_mono _ hfit := hfit
  fit_hasWarnings hfit := hfit

/-- **Whatever is asked for is imported** by the text that the module has now. -/
theorem linked : (h.lawful settled).contract.Linked fun module x =>
    module ∈ chart.modules ∧ ∃ text, reads module text ∧ chart.imports module text x where
  wanted := fun ⟨hmem, _, hreads, himports⟩ => h.imports_mem hmem hreads himports
  finder := h.finder
  brings {target} mode hlocated :=
    ⟨_, _, fun _ himports => ⟨hlocated.mem, _, hlocated.reads, himports⟩,
      h.brings target.source.path mode hlocated.mem hlocated.reads⟩
  recorded hlocated hgood hlocal e he := by
    obtain ⟨hname, hmem, text, hreads, -, hlists⟩ :=
      h.describes_of_localStaleness? hlocated hgood hlocal
    rw [← hname]
    exact ⟨hmem, text, hreads, (hlists e.1).1 ⟨e.2, he⟩⟩

/-- **What a load gives lists what the text imports** that the module has. -/
theorem lists_of_ending {scope merged : ImportedScope} {module : ModuleName} {mode : CheckMode}
    {s : LoadState} {loaded : Loaded} (hs : (chart.regime setup disks reads settled).Kept s)
    (hending : setup.Ending (chart.regime setup disks reads settled).Located
      (chart.regime setup disks reads settled).fit scope module mode s loaded merged) :
    ∃ text, reads module text ∧ ∀ x, loaded.interface.Lists x ↔ chart.imports module text x := by
  cases hending with
  | recalled hget _ =>
    obtain ⟨rfl, -, text, hreads, -, hlists⟩ := hs.visited _ _ hget
    exact ⟨text, hreads, hlists⟩
  | @reused _ i _ _ hfit _ _ =>
    obtain ⟨hname, -, text, hreads, -, hlists⟩ := hfit
    obtain rfl : i.name = module := hname
    exact ⟨text, hreads, hlists⟩
  | built htarget hlocated hcomes _ _ =>
    obtain ⟨rfl, -⟩ := htarget
    exact ⟨_, hlocated.reads, h.lists_iff hlocated hcomes⟩

/-! ### The import graph as it is now -/

section Current

variable {d : Disk} {module x y : ModuleName} {s : LoadState}
  (hreads : ∀ m ∈ chart.modules, ∀ text, reads m text → setup.text? d m = some text)

include hreads

omit h in
/-- **The import graph is that of the texts that modules have.** -/
theorem links_iff (hmem : module ∈ chart.modules) {text : String} (htext : reads module text) :
    chart.Links setup d module x ↔ chart.imports module text x := by
  refine ⟨fun ⟨text', htext', himports⟩ => ?_, fun himports =>
    ⟨text, hreads module hmem text htext, himports⟩⟩
  obtain rfl : text = text' := Option.some.inj ((hreads module hmem text htext).symm.trans htext')
  exact himports

omit h in
/-- **What a settled module imports is recorded and settled.** -/
theorem records_of_links (hs : (chart.regime setup disks reads settled).Kept s)
    (hconsistent : setup.Consistent s.caches.visited)
    (hvisited : s.caches.visited.contains module = true) (hlink : chart.Links setup d module x) :
    s.caches.visited.Records module x ∧ s.caches.visited.contains x = true := by
  obtain ⟨entry, hget⟩ := Option.isSome_iff_exists.1 hvisited
  obtain ⟨rfl, hmem, text, htext, -, hlists⟩ := hs.visited _ _ hget
  obtain ⟨hash, hx⟩ := (hlists x).2 ((links_iff hreads hmem htext).1 hlink)
  obtain ⟨-, known, hknown, -⟩ := hconsistent.imports hget hx
  exact ⟨⟨entry, hget, hash, hx⟩, Option.isSome_iff_exists.2 ⟨known, hknown⟩⟩

omit h in
/-- From a settled module on, the import graph is the one that is recorded. -/
theorem transGen_records (hs : (chart.regime setup disks reads settled).Kept s)
    (hconsistent : setup.Consistent s.caches.visited)
    (hvisited : s.caches.visited.contains x = true)
    (hpath : TransGen (chart.Links setup d) x y) :
    TransGen s.caches.visited.Records x y ∧ s.caches.visited.contains y = true := by
  induction hpath with
  | single hlink => exact (records_of_links hreads hs hconsistent hvisited hlink).imp_left .single
  | tail _ hlink ih => exact (records_of_links hreads hs hconsistent ih.2 hlink).imp_left ih.1.tail

end Current

end Covers

/-! ## Runs of sessions -/

/-- In a run that a chart covers, every interface is on the chart. -/
theorem borne : chart.upkeep.Borne chart.terms where
  codec_eq h := Covers.codec_eq h
  lawful settled h := Covers.lawful h settled
  good_mono _ hgood := hgood
  fit_mono _ hfit := hfit
  good_ended _ hgood := hgood

section Detected

open Session

variable {s s' : Session} {world world' : World} {past : Past} {module : ModuleName} {depth : Nat}
  {mode : CheckMode}

/-- **What a loaded module imports is settled.** -/
theorem settled_of_links (h : Run chart.terms disks reads s world.disk past)
    (hreads : ∀ m ∈ chart.modules, ∀ text, reads m text → s.setup.text? world.disk m = some text)
    (hcalm : s.setup.Calm disks world) (hmem : module ∈ chart.modules) {loaded : Loaded}
    (hload : s.loadWithin depth module mode world = some (.ok loaded, s', world'))
    {x : ModuleName} (hlink : chart.Links s.setup world.disk module x) :
    s'.caches.visited.contains x = true := by
  have hholds := h.upheld borne
  have hcovers : chart.Covers s.setup disks reads := hholds.admits
  have hlawful := hcovers.lawful past.settled
  have hstack := h.reachable.stack_eq
  obtain ⟨hafter, -, -, hending⟩ :=
    ledTo_loadWithin rfl hlawful.contract hstack hmem (hholds.keptIn hcalm) hload
  obtain ⟨hconsistent, -, -, hsnapshot⟩ := ledTo_loadWithin rfl
    (Setup.snapshot _ hlawful.faithful) hstack trivial (h.reachable.consistent hlawful.faithful) hload
  obtain ⟨text, htext, hlists⟩ := hcovers.lists_of_ending hafter hending
  obtain ⟨hash, hx⟩ := (hlists x).2 ((Covers.links_iff hreads hmem htext).1 hlink)
  have hfresh : (s.scope.forget module).contribution? module = none := by
    rw [ImportedScope.contribution?_forget, if_pos rfl]
  obtain ⟨entry, hknows, -⟩ := hsnapshot.contribution?_of_import hconsistent hfresh hx
  exact Option.isSome_iff_exists.2 ⟨entry, hknows.1⟩

/-- **A module that leads to a cycle cannot be loaded**: everything that it leads to would be settled,
and what is settled imports only what was settled before. -/
theorem not_ok_of_cycle (h : Run chart.terms disks reads s world.disk past)
    (hreads : ∀ m ∈ chart.modules, ∀ text, reads m text → s.setup.text? world.disk m = some text)
    (hcalm : s.setup.Calm disks world) (hmem : module ∈ chart.modules) {x : ModuleName}
    (hreach : ReflTransGen (chart.Links s.setup world.disk) module x)
    (hcycle : TransGen (chart.Links s.setup world.disk) x x) (loaded : Loaded) :
    s.loadWithin depth module mode world ≠ some (.ok loaded, s', world') := by
  intro hload
  have hholds := h.upheld borne
  have hlawful := Covers.lawful hholds.admits past.settled
  have hreachable := h.reachable
  have hafter := (maintains_loadWithin rfl hlawful.contract hreachable.stack_eq hmem
    (hholds.keptIn hcalm) hload).1
  have hconsistent := (maintains_loadWithin rfl (Setup.snapshot s.setup hlawful.faithful)
    hreachable.stack_eq trivial (hreachable.consistent hlawful.faithful) hload).1
  -- The first step is from the loaded module, which need not be settled itself.
  obtain ⟨y, hlink, hpath⟩ := TransGen.head'_iff.1 (.trans_right hreach hcycle)
  have hy := settled_of_links h hreads hcalm hmem hload hlink
  have hx : s'.caches.visited.contains x = true := by
    obtain rfl | hpath := reflTransGen_iff_eq_or_transGen.1 hpath
    · exact hy
    · exact (Covers.transGen_records hreads hafter hconsistent hy hpath).2
  exact hconsistent.not_transGen x (Covers.transGen_records hreads hafter hconsistent hx hcycle).1

/-- **Cycles of imports are detected.** After any run of sessions, with any edits in between, let a
module be loaded in a session in which the sources stay as they are. If the load reports a cycle, the
cycle is one of the current sources: each module of the chain imports the next one, the last is the
first, and no other occurs twice. And if the sources that the module leads to contain a cycle, the
load does not succeed. In these sessions a check that ends with a result was granted every import of
its text, and one that fails with a cycle passes on a cycle that it was told of
(`Chart.Covers.brings`). -/
theorem cycles_detected (h : Run chart.terms disks reads s world.disk past)
    (hreads : ∀ m ∈ chart.modules, ∀ text, reads m text → s.setup.text? world.disk m = some text)
    (hcalm : s.setup.Calm disks world) (hmem : module ∈ chart.modules)
    {result : Except LoadError Loaded}
    (hload : s.loadWithin depth module mode world = some (result, s', world')) :
    (∀ cycle, result = .error (.importCycle cycle) →
      cycle.Follows (chart.Links s.setup world.disk)) ∧
    ∀ x, ReflTransGen (chart.Links s.setup world.disk) module x →
      TransGen (chart.Links s.setup world.disk) x x → ∀ loaded, result ≠ .ok loaded := by
  constructor
  · rintro cycle rfl
    have hholds := h.upheld borne
    have hcovers : chart.Covers s.setup disks reads := hholds.admits
    obtain ⟨first, rest, hclosed, hnodup, hchain⟩ := follows_of_loadWithin rfl
      (hcovers.lawful past.settled).contract hcovers.linked h.reachable.stack_eq hmem
      (hholds.keptIn hcalm) hload
    refine ⟨first, rest, hclosed, hnodup, hchain.imp ?_⟩
    rintro m x ⟨hm, text, htext, himports⟩
    exact ⟨text, hreads m hm text htext, himports⟩
  · rintro x hreach hcycle loaded rfl
    exact not_ok_of_cycle h hreads hcalm hmem hreach hcycle loaded hload

end Detected

end Chart

/-! ## Projects of scripts -/

/-- Looking for a module below some roots finds no cycle. -/
theorem Finder.ofRoots_ne_cycle (roots : List Path) (module : ModuleName) (d : Disk)
    (cycle : ImportCycle) : Finder.ofRoots roots module d ≠ .error (.importCycle cycle) := by
  intro h
  unfold Finder.ofRoots at h
  split at h <;> cases h

namespace ScriptProject

/-- The sources of a project of scripts are surveyed, as long as they stay as they are. -/
theorem surveyed (p : ScriptProject) {modules : Set ModuleName}
    (hmodules : ∀ module ∈ modules, module ∈ p.modules) :
    p.setup.Surveyed modules p.disks fun module text =>
      p.setup.text? p.disk module = some text where
  read {d d' module found path text} hmem hd hd' hfound hsame hread := by
    have hmem := hmodules module hmem
    have hfound' := (finder_eq hmem hd' hd).trans hfound
    have hspelled := Disk.readText_eq_of_same hsame (Disk.isFile_of_readText hread)
      (found_mem hfound').2
    rw [← text?_eq hmem hd', Setup.text?_of_found hfound', ← hspelled, hread]
    rfl
  write i hmem hd hd' hfound :=
    p.season.write i (hmodules _ hmem) hd' ((finder_eq (hmodules _ hmem) hd' hd).trans hfound)

/-- **A chart covers the sessions of a project of scripts**, as long as its sources stay as they are,
if it has heard of these. -/
theorem covers (p : ScriptProject) (chart : Chart) (hcodec : p.setup.codec = chart.codec)
    (hmodules : ∀ module, module ∈ chart.modules → module ∈ p.modules)
    (hheard : ∀ module ∈ p.modules, ∀ text, p.setup.text? p.disk module = some text →
      chart.heard module text)
    (himports : ∀ module text, chart.imports module text = (· ∈ Script.brings text)) :
    chart.Covers p.setup p.disks fun module text => p.setup.text? p.disk module = some text where
  codec_eq := hcodec
  heard hmem := hheard _ (hmodules _ hmem) _
  surveyed := p.surveyed hmodules
  finder := Finder.ofRoots_ne_cycle p.roots
  brings {module text} path mode hmem htext := by
    rw [himports, checker_setup]
    exact Script.checker_brings (p.plain module (hmodules _ hmem) text htext).1 path

set_option maxRecDepth 100000 in
/-- Two scripts that import each other: the second one has been edited. -/
def loopedPair : ScriptProject where
  settings := {}
  roots := [⟨"p"⟩]
  modules := [⟨"A"⟩, ⟨"B"⟩]
  disk := pair.disk.put ["p", "B.lm"] (.file (Bytes.ofText "import A"))
  closed := Disk.closed_of_entries (by decide +kernel)
  plain := by decide +kernel
  direct := pair.direct
  apart := pair.apart

/-- Whether a module has a text before or after the edit. -/
def heardInPair (module : ModuleName) (text : String) : Prop :=
  pair.setup.text? pair.disk module = some text ∨
    loopedPair.setup.text? loopedPair.disk module = some text

set_option maxRecDepth 100000 in
/-- The texts before and after the edit. -/
theorem mem_of_heardInPair {module : ModuleName} {text : String} (hmem : module ∈ pair.modules)
    (h : heardInPair module text) : text ∈ ["import B", "def b", "import A"] := by
  have hall : ∀ module ∈ pair.modules,
      (∀ text ∈ pair.setup.text? pair.disk module, text ∈ ["import B", "def b", "import A"]) ∧
      ∀ text ∈ loopedPair.setup.text? loopedPair.disk module,
        text ∈ ["import B", "def b", "import A"] := by
    decide +kernel
  exact h.elim ((hall module hmem).1 text) ((hall module hmem).2 text)

/-- The chart of the two scripts. -/
def chartOfPair : Chart where
  modules := { module | module ∈ pair.modules }
  heard := heardInPair
  imports _ text x := x ∈ Script.brings text
  codec := .standard
  faithful := Codec.standard_faithful
  closed {module x text} hmem hheard := by
    obtain htext | htext := hheard
    · exact (pair.plain module hmem text htext).2 x
    · exact (loopedPair.plain module hmem text htext).2 x
  distinct {module text text'} hmem hheard hheard' := by
    have hall : ∀ text ∈ ["import B", "def b", "import A"],
        ∀ text' ∈ ["import B", "def b", "import A"],
          Digest.ofText text = Digest.ofText text' → text = text' := by
      decide +kernel
    exact hall text (mem_of_heardInPair hmem hheard) text' (mem_of_heardInPair hmem hheard')

end ScriptProject

namespace Chart

open ScriptProject Session

set_option maxRecDepth 100000 in
/-- The first script is loaded, the second one is edited so that it imports the first, and the first
one is loaded again. Its artifact passes for up to date, and the load reports the cycle of the two. -/
theorem cycles_detected_loopedPair : ∃ (s s' : Session) (world world' : World)
    (past : Past) (cycle : ImportCycle),
    Run chartOfPair.terms loopedPair.disks
      (fun module text => loopedPair.setup.text? loopedPair.disk module = some text) s world.disk
      past ∧
    s.loadWithin 3 ⟨"A"⟩ .batch world = some (.error (.importCycle cycle), s', world') ∧
    cycle.chain = [⟨"A"⟩, ⟨"B"⟩, ⟨"A"⟩] ∧
    cycle.Follows (chartOfPair.Links s.setup world.disk) := by
  let edit (d : Disk) := d.put ["p", "B.lm"] (.file (Bytes.ofText "import A"))
  have hrun : (((Session.start pair.setup).loadWithin 3 ⟨"A"⟩ .batch (.quiet pair.disk)).bind
      fun r => ((Session.start loopedPair.setup).loadWithin 3 ⟨"A"⟩ .batch
        (.quiet (edit r.2.2.disk))).map fun r => r.1.map fun _ => ())
          = some (.error (.importCycle ⟨[⟨"A"⟩, ⟨"B"⟩, ⟨"A"⟩]⟩)) := by
    decide +kernel
  obtain ⟨⟨first, s, world⟩, hfirst, hrun⟩ := Option.bind_eq_some_iff.1 hrun
  obtain ⟨⟨result, s', world'⟩, hsecond, hresult⟩ := Option.map_eq_some_iff.1 hrun
  cases result with
  | ok loaded => exact absurd hresult nofun
  | error e =>
    obtain rfl : e = _ := Except.error.inj hresult
    have hstart : Run chartOfPair.terms pair.disks _ (.start pair.setup) pair.disk ∅ :=
      .first (pair.covers chartOfPair rfl (fun _ h => h) (fun _ _ _ htext => .inl htext)
        fun _ _ => rfl) pair.disk_mem (Disk.not_onDisk_of_entries (by decide +kernel))
    have hloaded := hstart.load List.mem_cons_self (Setup.calm_quiet pair.disk_mem) hfirst
    have hold : pair.disk.at? ["p", "B.lm"] = some (.file (Bytes.ofText "def b")) := by
      decide +kernel
    have hedited : edit world.disk ∈ loopedPair.disks :=
      put_mem_disks (p := pair) (q := loopedPair) (f := ⟨⟨"p"⟩, ⟨"p/B.lm"⟩⟩) rfl rfl rfl
        (List.mem_cons_of_mem _ List.mem_cons_self) (by decide +kernel) (by decide +kernel) hold
        (hloaded.upheld borne).kept.calm.disk
    have hagain : Run chartOfPair.terms loopedPair.disks
        (fun module text => loopedPair.setup.text? loopedPair.disk module = some text)
        (.start loopedPair.setup) (World.quiet (edit world.disk)).disk _ :=
      hloaded.start (loopedPair.covers chartOfPair rfl (fun _ h => h)
        (fun _ _ _ htext => .inr htext) fun _ _ => rfl) hedited
        fun i hi => .inr (Disk.forgesNothing_put (by decide) (by decide +kernel) i hi)
    have htext : ∀ m ∈ chartOfPair.modules, ∀ text, loopedPair.setup.text? loopedPair.disk m
        = some text → loopedPair.setup.text? (edit world.disk) m = some text :=
      fun m hm text htext => (text?_eq (p := loopedPair) hm hedited).trans htext
    refine ⟨_, s', .quiet (edit world.disk), world', _, _, hagain, hsecond, rfl, ?_⟩
    exact (cycles_detected hagain htext (Setup.calm_quiet hedited) List.mem_cons_self
      hsecond).1 _ rfl

end Chart

end ModuleLoader
