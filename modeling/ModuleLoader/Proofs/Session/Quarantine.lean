import ModuleLoader.Proofs.Load.Watched
import ModuleLoader.Proofs.Script.Project
import ModuleLoader.Proofs.Session.Snapshot

/-!
# Warnings are in quarantine

A module that was checked with warnings can be loaded, but it cannot be imported unless it is built
in, and its interface is not written. So warnings stay with the session that has seen them.

The loader takes this for granted where it reuses an interface: it settles the module as free of
warnings without a look at the interface. That is right only because no interface with warnings is
ever stored – not on disk and not among the decoded ones – and this depends on every write, every
rebuild and every session that goes on with what another one decoded. `Setup.Quarantined` is what
they all keep, and `Setup.quarantine` shows it of the single steps.

Other programs and the checkers might put an artifact with warnings on disk. It is assumed that they
do not; whatever else they do, to sources or to artifacts, is up to them.
-/

namespace ModuleLoader

open Load

/-- **A disk without spots**: no artifact on it has warnings. -/
def Disk.Spotless (codec : Codec) (d : Disk) : Prop :=
  ∀ i : Interface, i.OnDisk Setup.compilerVersion codec d → i.hasWarnings = false

namespace Setup

/-- **A module may be imported with an entry**: it is built in or free of warnings. -/
def Unwarned (setup : Setup) (module : ModuleName) (entry : VisitedEntry) : Prop :=
  setup.settings.isPrimitive module = true ∨ entry.interface.hasWarnings = false

/-- The rule for checks that put no artifact with warnings on disk, given imports that are built in or
free of warnings. -/
def discreetRule (setup : Setup) : Check.Rule where
  wanted _ := True
  granted module i := setup.settings.isPrimitive module = true ∨ i.hasWarnings = false
  permitted change := ∀ d d', d.Spotless setup.codec → change d = .ok d' → d'.Spotless setup.codec

/-- **A discreet setup**: what was encoded can be decoded, and checkers put no artifact with warnings
on disk. -/
structure Discreet (setup : Setup) : Prop where
  /-- The codec is faithful. -/
  faithful : setup.codec.Faithful
  /-- The checkers abide by the rule. -/
  abides (module : ModuleName) (file : SourceFile) (mode : CheckMode) :
    (setup.checker module file mode).Abides setup.discreetRule

/-- **Warnings are in quarantine**: nothing stored has any, and settled modules are known to have
those that they have. -/
structure Quarantined (setup : Setup) (s : LoadState) : Prop where
  /-- Other programs are not going to change that. -/
  outside : ∀ change ∈ s.world.outside, ∀ d : Disk, d.Spotless setup.codec →
    (change d).Spotless setup.codec
  /-- No artifact has warnings. -/
  onDisk : s.world.disk.Spotless setup.codec
  /-- No decoded interface has warnings. -/
  decoded : ∀ module i, s.caches.decoded.get? module = some i → i.hasWarnings = false
  /-- Of settled modules it is known whether they have warnings and whether they are built in. -/
  visited : ∀ module entry, s.caches.visited.get? module = some entry →
    entry.hasWarnings = entry.interface.hasWarnings ∧
      entry.isPrimitive = setup.settings.isPrimitive module

namespace Quarantined

variable {setup : Setup} {s : LoadState}

/-- **What is known of a module in quarantine can be imported**: the module is built in, or it has no
warnings. -/
theorem unwarned (h : setup.Quarantined s) {module : ModuleName} {entry : VisitedEntry}
    (hknows : s.Knows module entry) : setup.Unwarned module entry := by
  obtain ⟨hwarnings, hprimitive⟩ := h.visited module entry hknows.1
  have himportable : !entry.hasWarnings || entry.isPrimitive := hknows.2
  rw [hwarnings, hprimitive, Bool.or_eq_true, Bool.not_eq_true'] at himportable
  exact himportable.symm

/-- The quarantine goes on at the next access. -/
theorem access (h : setup.Quarantined s) : setup.Quarantined s.access := by
  obtain ⟨caches, ⟨disk, outside, journal⟩⟩ := s
  cases outside with
  | nil => exact h
  | cons change rest =>
    exact ⟨fun c hc => h.outside c (List.mem_cons_of_mem _ hc),
      h.outside change List.mem_cons_self disk h.onDisk, h.decoded, h.visited⟩

/-- The quarantine goes on with another disk without spots. -/
theorem withDisk (h : setup.Quarantined s) {d : Disk} (hd : d.Spotless setup.codec) :
    setup.Quarantined (s.withDisk d) := ⟨h.outside, hd, h.decoded, h.visited⟩

/-- Which sources are remembered does not matter. -/
theorem withSources (h : setup.Quarantined s) (sources : SourceCache) :
    setup.Quarantined (s.withSources sources) := ⟨h.outside, h.onDisk, h.decoded, h.visited⟩

/-- Fewer interfaces are decoded. -/
theorem drop (h : setup.Quarantined s) (module : ModuleName) (onDisk : Option Digest) :
    setup.Quarantined (s.withDecoded (s.caches.decoded.getCurrent? module onDisk).2) := by
  exact ⟨h.outside, h.onDisk,
    fun m i hget => h.decoded m i (DecodedCache.get?_of_getCurrent? hget), h.visited⟩

/-- One more interface without warnings is decoded. -/
theorem keep (h : setup.Quarantined s) {module : ModuleName} {i : Interface}
    (hi : i.hasWarnings = false) : setup.Quarantined (s.keep module i) := by
  refine ⟨h.outside, h.onDisk, fun m j hget => ?_, h.visited⟩
  obtain hbefore | ⟨-, rfl⟩ := DecodedCache.get?_insert_eq_some hget
  · exact h.decoded m j hbefore
  · exact hi

end Quarantined

/-! ## The contract -/

/-- **The quarantine is maintained by every load**: the steps of a load keep it. -/
def quarantine (setup : Setup) (hdiscreet : setup.Discreet) : setup.Contract setup.Quarantined where
  located := setup.Placed
  stored _ _ i := i.hasWarnings = false
  fit _ module entry := entry.hasWarnings = entry.interface.hasWarnings ∧
    entry.isPrimitive = setup.settings.isPrimitive module
  rule := setup.discreetRule
  abides {target} mode _ := hdiscreet.abides target.name target.source mode
  grant hs hknows := hs.unwarned hknows
  record _ hs := ⟨hs.outside, hs.onDisk, hs.decoded, hs.visited⟩
  access hs := hs.access
  edit hs hpermitted := Load.maintains_edit hs.access fun _ hchange =>
    hs.access.withDisk (hpermitted _ _ hs.access.onDisk hchange)
  locate {s frames module} hs _ := by
    refine (maintains_locate_of module hs (fun _ h => h.access) fun _ sources h =>
      h.withSources sources).mono fun target s' _ _ => ?_
    rintro ⟨_, found, file, hfound, rfl⟩
    exact ⟨setup.isTarget_targetAt module found file, setup.placed_targetAt hfound file⟩
  refresh {s target frames} hs hlocated := by
    refine (maintains_refresh_of target hs (fun _ h => h.access) fun _ sources h =>
      h.withSources sources).mono fun target' s' _ _ => ?_
    rintro ⟨file, rfl⟩
    exact ⟨fun module h => ⟨h.name, h.isPrimitive⟩, hlocated⟩
  read {s target frames} hs hlocated := by
    refine (maintains_stored hs (fun _ h => h.access) fun _ _ h => h.drop _ _).mono
      fun result s' _ _ hresult i hi => ?_
    obtain ⟨s₁, hs₁, hdecoded | hread⟩ := hresult i hi
    · exact hs₁.decoded _ _ hdecoded
    · obtain ⟨_, found, -, hpath⟩ := hlocated
      rw [hpath] at hread
      exact hs₁.onDisk i (Interface.OnDisk.of_readInterface? hread)
  recorded _ _ _ := trivial
  reuse _ _ hprimitive hstored _ _ := ⟨hstored.symm, hprimitive⟩
  built _ _ hprimitive _ _ _ := ⟨rfl, hprimitive⟩
  keep hs hfit := hs.keep hfit.1.symm
  persist {s target i frames} hs hlocated _ hfit := by
    have hspotless : (setup.store.write setup.codec target.interfacePath i
        s.nextDisk).2.Spotless setup.codec := by
      intro j hj
      obtain hbefore | rfl := Interface.OnDisk.of_write setup.readable_store hdiscreet.faithful hj
      · exact hs.access.onDisk j hbefore
      · exact hfit.1.symm
    exact maintains_persist hdiscreet.faithful (hs.access.withDisk hspotless)
      fun _ hs₁ => hs₁.keep hfit.1.symm
  settle {s module entry} hs hnone hfit := by
    refine ⟨hs.outside, hs.onDisk, hs.decoded, fun m e hget => ?_⟩
    obtain hbefore | ⟨rfl, rfl⟩ := VisitedCache.get?_record_eq_some hget
    · exact hs.visited m e hbefore
    · exact hfit
  stored_mono _ hwarnings := hwarnings
  fit_mono _ hfit := hfit
  fit_hasWarnings _ hfit := ⟨rfl, hfit.2⟩

/-- **A resolution in quarantine** fails or answers with a module that is built in or free of
warnings, however the module comes to be settled, and the quarantine goes on. -/
theorem resolve_unwarned {setup : Setup} (hdiscreet : setup.Discreet) (depth : Nat)
    (stack : ImportStack) (scope : ImportedScope) (module : ModuleName) {s : LoadState}
    (hs : setup.Quarantined s) :
    (setup.resolve depth stack scope module).Ensures s
      (fun entry s' => setup.Quarantined s' ∧ setup.Unwarned module entry)
      fun _ s' => setup.Quarantined s' :=
  Ensures.mono ((setup.quarantine hdiscreet).resolve depth stack scope module s trivial hs)
    (fun _ _ ⟨hs', _, hknows⟩ => ⟨hs', hs'.unwarned hknows⟩) fun _ _ ⟨hs', _⟩ => hs'

end Setup

/-! ## Runs -/

namespace Session

/-- **The runs in which nobody puts an artifact with warnings on disk**, each with the session and the
disk that it has led to. It begins on a disk without spots. -/
inductive Quarantine (codec : Codec) : Session → Disk → Prop where
  /-- A session from scratch. -/
  | start {setup : Setup} {d : Disk} : setup.Discreet → setup.codec = codec → d.Spotless codec →
      Quarantine codec (.start setup) d
  /-- Another session from scratch, with whatever settings. -/
  | restart {s : Session} {d : Disk} {setup : Setup} : Quarantine codec s d → setup.Discreet →
      setup.codec = codec → Quarantine codec (.start setup) d
  /-- A session that starts with what was decoded. -/
  | resume {s : Session} {d : Disk} {setup : Setup} : Quarantine codec s d → setup.Discreet →
      setup.codec = codec → Quarantine codec (.resume setup s.caches.decoded) d
  /-- Somebody else has changed the disk between two loads. -/
  | edit {s : Session} {d : Disk} {change : Disk → Disk} : Quarantine codec s d →
      (∀ d : Disk, d.Spotless codec → (change d).Spotless codec) → Quarantine codec s (change d)
  /-- The session has loaded a module, while others were changing the disk. -/
  | load {s s' : Session} {d : Disk} {depth : Nat} {module : ModuleName} {mode : CheckMode}
      {world world' : World} {result : Except LoadError Loaded} : Quarantine codec s d →
      world.disk = d →
      (∀ change ∈ world.outside, ∀ d : Disk, d.Spotless codec → (change d).Spotless codec) →
      s.loadWithin depth module mode world = some (result, s', world') →
      Quarantine codec s' world'.disk

variable {codec : Codec} {s : Session} {d : Disk}

/-- A session in quarantine is between two loads, and its state is in quarantine in every world in
which nobody changes that. -/
theorem Quarantine.quarantined (h : Quarantine codec s d) :
    s.setup.Discreet ∧ s.setup.codec = codec ∧ s.stack = ∅ ∧ d.Spotless codec ∧
      ∀ world : World, world.disk = d →
        (∀ change ∈ world.outside, ∀ d : Disk, d.Spotless codec → (change d).Spotless codec) →
        s.setup.Quarantined ⟨s.caches, world⟩ := by
  induction h with
  | start hdiscreet hcodec hd =>
    subst hcodec
    exact ⟨hdiscreet, rfl, rfl, hd, fun world hdisk houtside =>
      ⟨houtside, hdisk ▸ hd, nofun, nofun⟩⟩
  | restart _ hdiscreet hcodec ih =>
    subst hcodec
    obtain ⟨-, -, -, hd, -⟩ := ih
    exact ⟨hdiscreet, rfl, rfl, hd, fun world hdisk houtside =>
      ⟨houtside, hdisk ▸ hd, nofun, nofun⟩⟩
  | @resume s d setup _ hdiscreet hcodec ih =>
    subst hcodec
    obtain ⟨-, -, -, hd, hquarantined⟩ := ih
    have hdecoded := (hquarantined (.quiet d) rfl nofun).decoded
    exact ⟨hdiscreet, rfl, rfl, hd, fun world hdisk houtside =>
      ⟨houtside, hdisk ▸ hd, hdecoded, nofun⟩⟩
  | @edit s d change _ hchange ih =>
    obtain ⟨hdiscreet, hcodec, hstack, hd, hquarantined⟩ := ih
    refine ⟨hdiscreet, hcodec, hstack, hchange d hd, fun world hdisk houtside => ?_⟩
    have hbefore := hquarantined (.quiet d) rfl nofun
    exact ⟨hcodec ▸ houtside, hcodec ▸ hdisk ▸ hchange d hd, hbefore.decoded, hbefore.visited⟩
  | @load s s' d depth module mode world world' result _ hdisk houtside hload ih =>
    obtain ⟨hdiscreet, hcodec, hstack, -, hquarantined⟩ := ih
    obtain ⟨_, _, -, -, -, hsetup, hstack', -⟩ := loadWithin_eq_some hstack hload
    have hafter := (maintains_loadWithin rfl (s.setup.quarantine hdiscreet) hstack trivial
      (hquarantined world hdisk houtside) hload).1
    rw [hsetup]
    refine ⟨hdiscreet, hcodec, hstack', hcodec ▸ hafter.onDisk, fun next hnext houtside' => ?_⟩
    exact ⟨hcodec ▸ houtside', hnext ▸ hafter.onDisk, hafter.decoded, hafter.visited⟩

/-- **Warnings never leave quarantine.** After any run, no artifact on disk and no decoded interface
has warnings, and of every settled module it is known whether it has. In the next load, every
resolution of an import begins and ends like that, and it fails or answers with a module that is built
in or free of warnings: the load is the same when it is watched for this. If it succeeds, it gives the
warnings of the interface that it gives. -/
theorem Quarantine.warnings_confined (h : Quarantine codec s d) :
    (∀ i : Interface, i.OnDisk Setup.compilerVersion codec d → i.hasWarnings = false) ∧
    (∀ module i, s.caches.decoded.get? module = some i → i.hasWarnings = false) ∧
    (∀ module entry, s.caches.visited.get? module = some entry →
      entry.hasWarnings = entry.interface.hasWarnings) ∧
    ∀ depth module mode (world : World), world.disk = d →
      (∀ change ∈ world.outside, ∀ d : Disk, d.Spotless codec → (change d).Spotless codec) →
      s.loadBy (s.setup.resolveWatched s.setup.Quarantined s.setup.Unwarned depth) module mode world
        = s.loadWithin depth module mode world ∧
      ∀ loaded s' world', s.loadWithin depth module mode world = some (.ok loaded, s', world') →
        loaded.warnings = loaded.interface.warnings := by
  obtain ⟨hdiscreet, -, hstack, hd, hquarantined⟩ := h.quarantined
  have hnow := hquarantined (.quiet d) rfl nofun
  refine ⟨hd, hnow.decoded, fun module entry hget => (hnow.visited module entry hget).1, ?_⟩
  intro depth module mode world hdisk houtside
  have hbefore := hquarantined world hdisk houtside
  refine ⟨loadBy_resolveWatched (s.setup.quarantine hdiscreet) hstack
    (fun t module entry ht hknows => ht.unwarned hknows) depth trivial mode hbefore, ?_⟩
  intro loaded s' world' hload
  obtain ⟨-, -, -, hending⟩ := ledTo_loadWithin rfl (s.setup.quarantine hdiscreet) hstack trivial
    hbefore hload
  exact hending.warnings_eq fun _ _ _ _ hfit => hfit.1.symm

end Session

/-! ## A script with a warning -/

namespace Script

/-- The checker of scripts that rejects those that are not plain. -/
def plainChecker : Checker := fun module file mode =>
  if Plain file.text then checker module file mode
  else .fail (.typeCheck module "not a plain script")

/-- What sessions run with that check plain scripts in a directory. -/
def plainSetup : Setup := ⟨{}, Finder.ofRoots [⟨"p"⟩], plainChecker, .standard⟩

@[simp] theorem codec_plainSetup : plainSetup.codec = .standard := by dsimp only [plainSetup]

@[simp] theorem checker_plainSetup : plainSetup.checker = plainChecker := by
  dsimp only [plainSetup]

/-- Plain scripts change no file. -/
theorem discreet_plainSetup : plainSetup.Discreet where
  faithful := codec_plainSetup ▸ Codec.standard_faithful
  abides module file mode := by
    rw [checker_plainSetup]
    unfold plainChecker
    by_cases hplain : Plain file.text
    · rw [if_pos hplain]
      exact abides hplain (fun _ _ => trivial) file.path
    · rw [if_neg hplain]
      exact .fail _

end Script

namespace Session

/-- A directory with two scripts. The first has a warning, and the second imports it. -/
def warnedDisk : Disk :=
  ⟨[(["p"], .directory), (["p", "W.lm"], .file (Bytes.ofText "def w\nwarning old")),
    (["p", "V.lm"], .file (Bytes.ofText "import W"))]⟩

set_option maxRecDepth 100000 in
/-- The first script is loaded and settled with its warning. The second one cannot be loaded then, and
nothing stored has the warning. -/
theorem warnings_confined_warned : ∃ (s : Session) (d : Disk) (entry : VisitedEntry),
    Quarantine .standard s d ∧ s.caches.visited.get? ⟨"W"⟩ = some entry ∧
    entry.hasWarnings = true ∧ entry.interface.hasWarnings = true ∧
    (∀ i : Interface, i.OnDisk Setup.compilerVersion .standard d → i.hasWarnings = false) ∧
    (s.loadWithin 3 ⟨"V"⟩ .batch (.quiet d)).map (fun r => r.1.toOption.isSome) = some false := by
  let start := Session.start Script.plainSetup
  have hrun : ((start.loadWithin 3 ⟨"W"⟩ .batch (.quiet warnedDisk)).bind fun r =>
      (r.2.1.caches.visited.get? ⟨"W"⟩).map fun entry => (entry.hasWarnings,
        (r.2.1.loadWithin 3 ⟨"V"⟩ .batch (.quiet r.2.2.disk)).map fun r => r.1.toOption.isSome))
      = some (true, some false) := by
    decide +kernel
  obtain ⟨⟨result, s, w⟩, hload, hrun⟩ := Option.bind_eq_some_iff.1 hrun
  obtain ⟨entry, hget, heq⟩ := Option.map_eq_some_iff.1 hrun
  obtain ⟨hwarnings, hrefused⟩ := Prod.mk.inj heq
  have hspotless : warnedDisk.Spotless .standard := fun i hi =>
    absurd hi (Disk.not_onDisk_of_entries (by decide +kernel) i)
  have hstart : Quarantine .standard start warnedDisk :=
    .start Script.discreet_plainSetup Script.codec_plainSetup hspotless
  have hquarantine : Quarantine .standard s w.disk := by
    refine .load hstart ?_ ?_ hload
    · rfl
    · exact nofun
  obtain ⟨hdisk, -, hvisited, -⟩ := hquarantine.warnings_confined
  exact ⟨s, w.disk, entry, hquarantine, hget, hwarnings, hvisited _ entry hget ▸ hwarnings, hdisk,
    hrefused⟩

end Session

end ModuleLoader
