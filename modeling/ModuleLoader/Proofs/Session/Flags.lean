import ModuleLoader.Proofs.Check.Pragmas
import ModuleLoader.Proofs.Project.Clean
import ModuleLoader.Proofs.Script.Project
import ModuleLoader.Proofs.Session.Contribution
import ModuleLoader.Proofs.Session.Run
import ModuleLoader.Proofs.Session.Trail

/-!
# Flags go along chains of imports

A module that is checked safely must not import anything that is not, directly or through others, and
what uses a rewriting theory somewhere below uses it itself. The loader looks at single imports only:
it compares the options of a module with those of an import when the import is resolved, and goes by
the digests of imports from then on. An interface that was compared with its imports in one session
is reused in another one as long as these have the digests that it records, and what a new comparison
finds then is not reported.

That is enough (`Policy.accepts_of_path`). Interfaces with the same digest are the same, so the
imports of an interface that passes for up to date are those that it was compared with
(`Policy.accepts_of_records`); and what is accepted by what one accepts is accepted.

What it takes is a *policy* which all sessions observe: options are compared, the same modules are
built in, and checks apply the pragmas of their modules before the first import. Without the last
condition the flags of an interface need not be those with which its imports were compared.
-/

namespace ModuleLoader

open Load Relation

/-- **A policy about options**: what does not change from session to session. -/
structure Policy where
  /-- The modules. -/
  modules : Set ModuleName
  /-- Which ones are built in. -/
  isPrimitive : ModuleName → Bool
  /-- How interfaces are stored. -/
  codec : Codec
  /-- What was encoded can be decoded. -/
  faithful : codec.Faithful

namespace Policy

variable (policy : Policy)

/-- **A session observes the policy**, on some disks and as long as modules have certain texts. -/
structure Observed (setup : Setup) (disks : Set Disk) (reads : ModuleName → String → Prop) :
    Prop where
  /-- Interfaces are stored in the same way. -/
  codec_eq : setup.codec = policy.codec
  /-- Options are compared. -/
  compares : setup.settings.checks.optionConsistency = true
  /-- The same modules are built in. -/
  isPrimitive_eq (module : ModuleName) :
    setup.settings.isPrimitive module = policy.isPrimitive module
  /-- The sources are surveyed. -/
  surveyed : setup.Surveyed policy.modules disks reads
  /-- Checks import modules that may be asked for, and make harmless changes at most. -/
  abides {module : ModuleName} {text : String} (path : Path) (mode : CheckMode) :
    module ∈ policy.modules → reads module text →
    (setup.checker module ⟨path, text⟩ mode).Abides
      ⟨fun x => x ∈ policy.modules, fun _ _ => True, setup.Harmless disks⟩
  /-- Pragmas are applied before the first import. -/
  pragmas {module : ModuleName} {text : String} (path : Path) : module ∈ policy.modules →
    reads module text → (setup.checker module ⟨path, text⟩ .batch).PragmasFirst false

/-- The terms of a run in which the policy is observed. -/
def terms : Session.Terms := ⟨policy.modules, policy.codec, policy.Observed⟩

/-- **An interface was compared with some others**: among them there is one with the digest of each
of its imports that is not built in, and its options accept those of this one. -/
def Compared (interfaces : Set Interface) (i : Interface) : Prop :=
  ∀ e ∈ i.imports, policy.isPrimitive e.1 = false → ∃ imported ∈ interfaces,
    imported.Sealed policy.codec ∧ imported.fullHash = e.2 ∧ i.options.Accepts imported.options

/-- **An interface is in order**, given those with which modules were settled. -/
structure InOrder (interfaces : Set Interface) (i : Interface) : Prop where
  /-- Its digest is that of its bytes. -/
  sealed : i.Sealed policy.codec
  /-- Its imports may be asked for. -/
  imports : ∀ e ∈ i.imports, e.1 ∈ policy.modules
  /-- It was compared with its imports, and nothing was found if it has no warnings. -/
  compared : i.hasWarnings = false → policy.Compared interfaces i

/-- **What is known of interfaces in such a run**: they are in order, and stored ones have no
warnings. -/
def upkeep : Session.Upkeep where
  good settled c i := i.hasWarnings = false ∧ policy.InOrder (settled ∪ c.interfaces) i
  fit settled _ c module entry := module ∈ policy.modules ∧
    entry.isPrimitive = policy.isPrimitive module ∧
    (entry.hasWarnings = false → entry.interface.hasWarnings = false) ∧
    policy.InOrder (settled ∪ c.interfaces) entry.interface

/-- The regime of a session in such a run. -/
abbrev regime (setup : Setup) (disks : Set Disk) (reads : ModuleName → String → Prop)
    (settled : Set Interface) : setup.Regime :=
  policy.upkeep.regime policy.terms setup disks reads settled

variable {policy} {setup : Setup} {disks : Set Disk} {reads : ModuleName → String → Prop}
  {settled : Set Interface}

/-- An interface that is in order stays so when more modules have been settled. -/
theorem InOrder.mono {interfaces interfaces' : Set Interface} (hsubset : interfaces ⊆ interfaces')
    {i : Interface} (h : policy.InOrder interfaces i) : policy.InOrder interfaces' i where
  sealed := h.sealed
  imports := h.imports
  compared hnone e he hprimitive := by
    obtain ⟨imported, hmem, hrest⟩ := h.compared hnone e he hprimitive
    exact ⟨imported, hsubset hmem, hrest⟩

/-! ## What a check leaves in order -/

/-- **What a check has led to is in order**: each import was compared when it was resolved, with the
options that the module has in the end. -/
theorem Observed.inOrder_of_went (h : policy.Observed setup disks reads) {s : LoadState}
    (hs : (policy.regime setup disks reads settled).Kept s) {target : Target}
    (hlocated : (policy.regime setup disks reads settled).Located target) {scope : ImportedScope}
    {checked : CheckedModule} {context : CheckContext}
    (hwent : (setup.checker target.name target.source .batch).Went setup.compatibility s.Knows
      (.start setup.settings.options scope) checked context) {i : Interface}
    (hsealed : (setup.interfaceOf target checked context).sealed setup.codec = .ok i) :
    policy.InOrder (settled ∪ s.caches.visited.interfaces) i := by
  have hbytes := Interface.sealBytes_of_sealed hsealed
  obtain ⟨body, -, rfl⟩ := Interface.sealed_eq_ok hsealed
  refine ⟨h.codec_eq ▸ hbytes, fun e he => ?_, fun hnone e he hprimitive => ?_⟩
  · obtain hstart | ⟨entry, hknows, -⟩ := hwent.known_of_mem_imports he
    · exact absurd hstart List.not_mem_nil
    · exact (hs.visited _ _ hknows.1).1
  · have hquiet : context.warnings = [] := Interface.hasWarnings_eq_false_iff.1 hnone
    obtain hstart | ⟨entry, hknows, hhash, haccepts⟩ := hwent.accepts_of_mem_imports
      (h.pragmas target.source.path hlocated.mem hlocated.reads) h.compares hquiet he
    · exact absurd hstart List.not_mem_nil
    · obtain ⟨-, hentry, -, horder⟩ := hs.visited _ _ hknows.1
      exact ⟨entry.interface, .inr ⟨_, _, hknows.1, rfl⟩, horder.sealed, hhash,
        haccepts (hentry.trans hprimitive)⟩

/-- More is in order when more modules are settled. -/
theorem InOrder.extend {c c' : VisitedCache}
    (hmono : ∀ module entry, c.get? module = some entry → c'.get? module = some entry)
    {i : Interface} (h : policy.InOrder (settled ∪ c.interfaces) i) :
    policy.InOrder (settled ∪ c'.interfaces) i :=
  h.mono (Set.union_subset_union_right settled (VisitedCache.interfaces_mono hmono))

/-- **The policy makes a lawful regime** of each session that observes it. -/
theorem Observed.lawful (h : policy.Observed setup disks reads) (settled : Set Interface) :
    (policy.regime setup disks reads settled).Lawful where
  faithful := h.codec_eq ▸ policy.faithful
  surveyed := h.surveyed
  abides {target} mode hlocated := h.abides target.source.path mode hlocated.mem hlocated.reads
  imports hgood := hgood.2.imports
  reuse _ hlocated hgood _ _ :=
    ⟨hlocated.mem, h.isPrimitive_eq _, fun _ => hgood.1, hgood.2⟩
  built hs hlocated hwent _ hsealed :=
    ⟨hlocated.mem, h.isPrimitive_eq _, id, h.inOrder_of_went hs hlocated hwent hsealed⟩
  good_of_fit hfit := ⟨hfit.2.2.1 rfl, hfit.2.2.2⟩
  good_mono hmono hgood := ⟨hgood.1, hgood.2.extend hmono⟩
  fit_mono hmono hfit := ⟨hfit.1, hfit.2.1, hfit.2.2.1, hfit.2.2.2.extend hmono⟩
  fit_hasWarnings hfit := ⟨hfit.1, hfit.2.1, id, hfit.2.2.2⟩

/-! ## Runs of sessions -/

/-- In a run in which the policy is observed, every interface is in order. -/
theorem borne : policy.upkeep.Borne policy.terms where
  codec_eq h := Observed.codec_eq h
  lawful settled h := Observed.lawful h settled
  good_mono hmore hgood := ⟨hgood.1, hgood.2.mono (Set.union_subset_union_left _ hmore)⟩
  fit_mono hmore hfit :=
    ⟨hfit.1, hfit.2.1, hfit.2.2.1, hfit.2.2.2.mono (Set.union_subset_union_left _ hmore)⟩
  good_ended hsettled hgood :=
    ⟨hgood.1, hgood.2.mono (Set.union_subset Set.subset_union_left
      (hsettled.trans Set.subset_union_left))⟩

section Chains

open Session

variable {s : Session} {d : Disk} {past : Past} {module x : ModuleName} {entry : VisitedEntry}

/-- **A module without warnings accepts what it records as an import**, unless that is built in: what
the session has settled as its import is what the module was compared with. -/
theorem accepts_of_records (h : Run policy.terms disks reads s d past)
    (hinj : Set.InjOn Digest.ofBytes (Interface.allBytes policy.codec past.settled))
    (hget : s.caches.visited.get? module = some entry) (hnone : entry.interface.hasWarnings = false)
    (hrecords : s.caches.visited.Records module x) (hprimitive : policy.isPrimitive x = false) :
    ∃ imported, s.caches.visited.get? x = some imported ∧
      imported.interface.hasWarnings = false ∧
      entry.interface.options.Accepts imported.interface.options := by
  have hholds := h.upheld borne
  have hobserved : policy.Observed s.setup disks reads := hholds.admits
  have hconsistent := h.reachable.consistent (hobserved.codec_eq ▸ policy.faithful)
  obtain ⟨_, hget', hash, he⟩ := hrecords
  obtain rfl := Option.some.inj (hget.symm.trans hget')
  obtain ⟨-, known, hknown, himportable, hhash⟩ := hconsistent.imports hget he
  obtain ⟨-, -, -, horder⟩ := hholds.kept.visited _ _ hget
  obtain ⟨-, hbuiltin, hclean, hknownOrder⟩ := hholds.kept.visited _ _ hknown
  obtain ⟨imported, hmem, hsealed, himported, haccepts⟩ := horder.compared hnone _ he hprimitive
  -- What the module was compared with and what is settled now have one digest, so they are the same.
  have hsettled : past.settled ∪ s.caches.visited.interfaces ⊆ past.settled :=
    Set.union_subset subset_rfl hholds.settled
  obtain rfl : imported = known.interface :=
    hsealed.eq_of_fullHash policy.faithful hinj hknownOrder.sealed
      (fun bytes hbytes => ⟨_, hsettled hmem, hbytes⟩)
      (fun bytes hbytes => ⟨_, hholds.settled ⟨_, _, hknown, rfl⟩, hbytes⟩)
      (himported.trans hhash.symm)
  refine ⟨known, hknown, hclean ?_, haccepts⟩
  simpa [VisitedEntry.importable, hbuiltin.trans hprimitive] using himportable

/-- **Flags go along chains of imports.** After any run of sessions that observe the policy, let a
settled module without warnings lead to another one through recorded imports, all of which are not
built in. Then this one is settled without warnings, too. It has every coinfective flag of the first
module, and the first module has every infective flag of it. -/
theorem accepts_of_path (h : Run policy.terms disks reads s d past)
    (hinj : Set.InjOn Digest.ofBytes (Interface.allBytes policy.codec past.settled))
    (hget : s.caches.visited.get? module = some entry) (hnone : entry.interface.hasWarnings = false)
    (hpath : ReflTransGen (fun y z => s.caches.visited.Records y z ∧ policy.isPrimitive z = false)
      module x) :
    ∃ imported, s.caches.visited.get? x = some imported ∧
      imported.interface.hasWarnings = false ∧
      (∀ f ∈ Flag.coinfective, entry.interface.options.get f = true →
        imported.interface.options.get f = true) ∧
      ∀ f ∈ Flag.infective, imported.interface.options.get f = true →
        entry.interface.options.get f = true := by
  have haccepts : ∃ imported, s.caches.visited.get? x = some imported ∧
      imported.interface.hasWarnings = false ∧
      entry.interface.options.Accepts imported.interface.options := by
    induction hpath with
    | refl => exact ⟨entry, hget, hnone, .refl _⟩
    | tail _ hedge ih =>
      obtain ⟨between, hbetween, hclean, haccepts⟩ := ih
      obtain ⟨imported, himported, hnone', haccepts'⟩ :=
        accepts_of_records h hinj hbetween hclean hedge.1 hedge.2
      exact ⟨imported, himported, hnone', haccepts.trans haccepts'⟩
  obtain ⟨imported, himported, hnone', hdown, hup⟩ := haccepts
  exact ⟨imported, himported, hnone', hdown, hup⟩

end Chains

end Policy

/-! ## Scripts that are edited -/

/-- The text of the file in a place. -/
def Disk.textAt? (d : Disk) (place : Place) : Option String :=
  match d.at? place with
  | some (.file content) => Bytes.text? content
  | _ => none

theorem Disk.textAt?_eq_some_iff {d : Disk} {place : Place} {text : String} :
    d.textAt? place = some text ↔
      ∃ content, d.at? place = some (.file content) ∧ Bytes.text? content = some text := by
  unfold textAt?
  split
  · rename_i content hat
    simp [hat]
  · rename_i hnone
    exact ⟨nofun, fun ⟨content, hfile, _⟩ => absurd hfile (hnone content)⟩

/-- What is read under a path is the text in the place that the path names. -/
theorem Disk.textAt?_of_readText {d : Disk} {p : Path} {text : String}
    (h : d.readText p = .ok text) : d.textAt? (placeOf p) = some text := by
  obtain ⟨content, hentry, htext⟩ := readText_eq_ok h
  obtain ⟨place, hlocate, hat⟩ := entry_eq_ok_iff.1 hentry
  exact textAt?_eq_some_iff.2 ⟨content, placeOf_of_locate hlocate ▸ hat, htext⟩

/-- **The disks on which modules have certain texts**, wherever below some roots their sources are. -/
def Finder.disksWith (roots : List Path) (modules : Set ModuleName)
    (reads : ModuleName → String → Prop) : Set Disk :=
  { d | d.Closed ∧ ∀ module ∈ modules, ∀ f ∈ candidates roots module,
    ∀ text ∈ d.textAt? (Disk.placeOf f.source), reads module text }

section Scripts

variable {settings : Settings} {roots : List Path} {modules : Set ModuleName}

/-- **The sources on such disks are surveyed**, whoever edits them, if no artifact lies where a source
may lie. -/
theorem Finder.surveyed_disksWith (reads : ModuleName → String → Prop)
    (hapart : ∀ module ∈ modules, ∀ f ∈ candidates roots module, ∀ module' ∈ modules,
      ∀ f' ∈ candidates roots module', Disk.placeOf f.source
        ≠ Disk.placeOf ((Setup.scripts settings roots).store.interfacePath f'.root module')) :
    (Setup.scripts settings roots).Surveyed modules (disksWith roots modules reads) reads where
  read {d d' module found path text} hmem _ hd' hfound hsame hread := by
    refine hd'.2 module hmem found (mem_candidates_of_ofRoots hfound).1 text ?_
    rw [← Disk.placeOf_eq_of_same hsame]
    exact Disk.textAt?_of_readText hread
  write {d d' module found} i hmem _ hd' hfound := by
    obtain ⟨hclosed, hfiles⟩ := ArtifactStore.file_write_iff (Setup.scripts settings roots).store
      (Setup.scripts settings roots).codec
      ((Setup.scripts settings roots).store.interfacePath found.root module) i hd'.1
    refine ⟨hclosed, fun module' hmem' f hf text htext => hd'.2 module' hmem' f hf text ?_⟩
    have hplace := hfiles _ (hapart module' hmem' f hf module hmem found
      (mem_candidates_of_ofRoots hfound).1)
    obtain ⟨content, hfile, hcontent⟩ := Disk.textAt?_eq_some_iff.1 htext
    exact Disk.textAt?_eq_some_iff.2 ⟨content, (hplace content).1 hfile, hcontent⟩

/-- **A script that a policy allows** is plain, switches its flags before its first import, and imports
modules that may be asked for. -/
def Policy.Allows (policy : Policy) (_ : ModuleName) (text : String) : Prop :=
  Script.Plain text ∧ Script.OptionsFirst text ∧ ∀ x ∈ Script.brings text, x ∈ policy.modules

/-- **Sessions that check scripts observe a policy**, as long as it allows the scripts. Their base
options are arbitrary, and so are the edits of scripts. -/
theorem Policy.observed_scripts (policy : Policy) (hcodec : policy.codec = .standard)
    (hcompares : settings.checks.optionConsistency = true)
    (hprimitive : ∀ module, settings.isPrimitive module = policy.isPrimitive module)
    (hapart : ∀ module ∈ policy.modules, ∀ f ∈ Finder.candidates roots module,
      ∀ module' ∈ policy.modules, ∀ f' ∈ Finder.candidates roots module', Disk.placeOf f.source
        ≠ Disk.placeOf ((Setup.scripts settings roots).store.interfacePath f'.root module')) :
    policy.Observed (.scripts settings roots)
      (Finder.disksWith roots policy.modules policy.Allows) policy.Allows where
  codec_eq := hcodec.symm
  compares := hcompares
  isPrimitive_eq := hprimitive
  surveyed := Finder.surveyed_disksWith policy.Allows hapart
  abides {module text} path mode _ hallows := by
    obtain ⟨hplain, -, hbrings⟩ := hallows
    rw [Setup.checker_scripts]
    exact Script.abides hplain hbrings path
  pragmas {module text} path _ hallows := by
    rw [Setup.checker_scripts]
    exact Script.checker_pragmasFirst hallows.2.1 path

end Scripts

namespace Policy

open Session

/-- The modules of three scripts. -/
def safeModules : List ModuleName := [⟨"A"⟩, ⟨"B"⟩, ⟨"C"⟩]

/-- Three scripts that import one another in a row, all of them safe. -/
def safeDisk : Disk :=
  ⟨[(["s"], .directory), (["s", "A.lm"], .file (Bytes.ofText "option safe\nimport B")),
    (["s", "B.lm"], .file (Bytes.ofText "option safe\nimport C")),
    (["s", "C.lm"], .file (Bytes.ofText "option safe\ndef c"))]⟩

/-- What the sessions that check them run with. -/
def safeSetup : Setup := .scripts {} [⟨"s"⟩]

/-- The policy that they observe. -/
def safePolicy : Policy where
  modules := { module | module ∈ safeModules }
  isPrimitive := safeSetup.settings.isPrimitive
  codec := .standard
  faithful := Codec.standard_faithful

set_option maxRecDepth 100000 in
theorem observed_safe : safePolicy.Observed safeSetup
    (Finder.disksWith [⟨"s"⟩] safePolicy.modules safePolicy.Allows) safePolicy.Allows := by
  have hapart : ∀ module ∈ safeModules, ∀ f ∈ Finder.candidates [⟨"s"⟩] module,
      ∀ module' ∈ safeModules, ∀ f' ∈ Finder.candidates [⟨"s"⟩] module', Disk.placeOf f.source
        ≠ Disk.placeOf (safeSetup.store.interfacePath f'.root module') := by
    decide +kernel
  exact safePolicy.observed_scripts rfl rfl (fun _ => rfl) hapart

set_option maxRecDepth 100000 in
theorem safeDisk_mem :
    safeDisk ∈ Finder.disksWith [⟨"s"⟩] safePolicy.modules safePolicy.Allows := by
  have htexts : ∀ module ∈ safeModules, ∀ f ∈ Finder.candidates [⟨"s"⟩] module,
      ∀ text ∈ safeDisk.textAt? (Disk.placeOf f.source), Script.Plain text ∧
        Script.OptionsFirst text ∧ ∀ x ∈ Script.brings text, x ∈ safeModules := by
    decide +kernel
  exact ⟨Disk.closed_of_entries (by decide +kernel), htexts⟩

/-- The imports that a settled module records can be looked up. -/
theorem records_of_mem {c : VisitedCache} {module x : ModuleName}
    (h : x ∈ ((c.get? module).map fun e => e.interface.imports.map Prod.fst).getD []) :
    c.Records module x := by
  cases hget : c.get? module with
  | none =>
    rw [hget] at h
    exact absurd h List.not_mem_nil
  | some entry =>
    rw [hget] at h
    obtain ⟨e, he, rfl⟩ := List.mem_map.1 h
    exact ⟨entry, hget, e.2, he⟩

set_option maxRecDepth 100000 in
/-- One session loads the second script, and another one the first. The second script is not checked
again, and the first one leads through it to the third, which is safe as the first one is. -/
theorem accepts_of_path_safe : ∃ (s : Session) (world : World) (past : Past)
    (entry imported : VisitedEntry),
    Run safePolicy.terms (Finder.disksWith [⟨"s"⟩] safePolicy.modules safePolicy.Allows)
      safePolicy.Allows s world.disk past ∧ world.checks = [⟨"A"⟩] ∧
    s.caches.visited.get? ⟨"A"⟩ = some entry ∧ entry.interface.options.get .safe = true ∧
    s.caches.visited.Records ⟨"A"⟩ ⟨"B"⟩ ∧ s.caches.visited.Records ⟨"B"⟩ ⟨"C"⟩ ∧
    s.caches.visited.get? ⟨"C"⟩ = some imported ∧
    imported.interface.options.get .safe = true := by
  have hrun : ((Session.start safeSetup).loadWithin 4 ⟨"B"⟩ .batch (.quiet safeDisk)).any (fun r =>
      ((Session.start safeSetup).loadWithin 4 ⟨"A"⟩ .batch (.quiet r.2.2.disk)).any fun r' =>
        decide (r'.2.2.checks = [⟨"A"⟩] ∧
          ((r'.2.1.caches.visited.get? ⟨"A"⟩).map fun e =>
            (e.interface.hasWarnings, e.interface.options.get .safe)) = some (false, true) ∧
          ⟨"B"⟩ ∈ ((r'.2.1.caches.visited.get? ⟨"A"⟩).map fun e =>
            e.interface.imports.map Prod.fst).getD [] ∧
          ⟨"C"⟩ ∈ ((r'.2.1.caches.visited.get? ⟨"B"⟩).map fun e =>
            e.interface.imports.map Prod.fst).getD [] ∧
          ((r.2.1.caches.visited.sealedBytes ++ r'.2.1.caches.visited.sealedBytes).map fun bytes =>
            (Digest.ofBytes bytes, bytes)).Pairwise fun x y => x.1 = y.1 → x.2 = y.2)) = true := by
    decide +kernel
  obtain ⟨⟨_, s, world⟩, hfirst, hrun⟩ := (Option.any_eq_true _ _).1 hrun
  obtain ⟨⟨_, s', world'⟩, hsecond, hrun⟩ := (Option.any_eq_true _ _).1 hrun
  obtain ⟨hchecks, hentry, hB, hC, hdistinct⟩ := of_decide_eq_true hrun
  obtain ⟨entry, hget, hvalues⟩ := Option.map_eq_some_iff.1 hentry
  obtain ⟨hnone, hsafe⟩ := Prod.mk.inj hvalues
  have hmem : ∀ module ∈ safeModules, module ∈ safePolicy.terms.modules := fun _ h => h
  have hstart : Run safePolicy.terms _ safePolicy.Allows (.start safeSetup)
      (World.quiet safeDisk).disk ∅ :=
    .first observed_safe safeDisk_mem (Disk.not_onDisk_of_entries (by decide +kernel))
  have hloaded := hstart.load (hmem _ (by decide)) (Setup.calm_quiet safeDisk_mem) hfirst
  have hdisk := (hloaded.upheld borne).kept.calm.disk
  have hnext : Run safePolicy.terms _ safePolicy.Allows (.start safeSetup)
      (World.quiet world.disk).disk _ :=
    hloaded.start observed_safe hdisk fun i hi => .inr hi
  have hagain := hnext.load (hmem _ (by decide)) (Setup.calm_quiet hdisk) hsecond
  have hinj : Set.InjOn Digest.ofBytes (Interface.allBytes .standard
      ((∅ ∪ s.caches.visited.interfaces) ∪ s'.caches.visited.interfaces)) := by
    refine Digest.injOn_of_list _ ?_ hdistinct
    rintro bytes ⟨i, (hempty | hi) | hi, hbytes⟩
    · exact absurd hempty (Set.notMem_empty i)
    · exact List.mem_append_left _ (VisitedCache.mem_sealedBytes ⟨i, hi, hbytes⟩)
    · exact List.mem_append_right _ (VisitedCache.mem_sealedBytes ⟨i, hi, hbytes⟩)
  have hpath := (ReflTransGen.single (r := fun y z => s'.caches.visited.Records y z ∧
    safePolicy.isPrimitive z = false) ⟨records_of_mem hB, by decide⟩).tail
      ⟨records_of_mem hC, by decide⟩
  obtain ⟨imported, himported, -, hdown, -⟩ := accepts_of_path hagain hinj hget hnone hpath
  exact ⟨s', world', _, entry, imported, hagain, hchecks, hget, hsafe, records_of_mem hB,
    records_of_mem hC, himported, hdown .safe (by decide) hsafe⟩

end Policy

end ModuleLoader
