import ModuleLoader.Proofs.Session.Season

/-!
# A loader that is left alone

Nobody else changes the disk, and the checkers leave it alone too. Then what is decoded is what is on
disk (`Season.Alone`), and each step of a load has one outcome that can be told in advance: what is
stored for a module is what its artifact reads as, and an artifact that has just been written is
found up to date, without a change to anything, as soon as its imports are answered from memory
(`Season.run_validate`).

Two modules must not have the same artifact, or writing one would destroy the other
(`Season.Apart`).
-/

namespace ModuleLoader

open Load

/-! ## Artifacts of modules -/

/-- **The artifact of a module reads as an interface.** -/
def Setup.Holds (setup : Setup) (d : Disk) (module : ModuleName) (i : Interface) : Prop :=
  ∃ found, setup.finder module d = .ok found ∧
    setup.store.readInterface? setup.codec (setup.store.interfacePath found.root module) d = some i

/-- It reads as one interface only. -/
theorem Setup.Holds.unique {setup : Setup} {d : Disk} {module : ModuleName} {i j : Interface}
    (hi : setup.Holds d module i) (hj : setup.Holds d module j) : i = j := by
  obtain ⟨found, hfound, hread⟩ := hi
  obtain ⟨found', hfound', hread'⟩ := hj
  obtain rfl := Except.ok.inj (hfound.symm.trans hfound')
  exact Option.some.inj (hread.symm.trans hread')

namespace Season

variable (season : Season)

/-- **The artifacts of different modules lie in different places.** -/
def Apart : Prop :=
  ∀ d ∈ season.disks, ∀ x ∈ season.modules, ∀ y ∈ season.modules, x ≠ y → ∀ f g,
    season.setup.finder x d = .ok f → season.setup.finder y d = .ok g →
    Disk.placeOf (season.setup.store.interfacePath f.root x)
      ≠ Disk.placeOf (season.setup.store.interfacePath g.root y)

/-- The rule for checks that also leave the disk alone. -/
def strictRule : Check.Rule := { season.rule with permitted := fun _ => False }

/-- **Checkers leave the disk alone.** -/
def HandsOff : Prop :=
  ∀ module ∈ season.modules, ∀ text, season.edition.text? module = some text → ∀ path mode,
    (season.setup.checker module ⟨path, text⟩ mode).Abides season.strictRule

/-- **Nobody else is at work**, and what is decoded is what is on disk. -/
structure Alone (s : LoadState) : Prop where
  /-- No other program is going to change the disk. -/
  outside : s.world.outside = []
  /-- The decoded interfaces are those that the artifacts read as. -/
  decoded : ∀ module i, s.caches.decoded.get? module = some i →
    module ∈ season.modules ∧ season.setup.Holds s.world.disk module i

variable {season} {editions : Set Edition} {s : LoadState} {target : Target} {i j : Interface}

/-- The artifact of a target is the one that the target says. -/
theorem Located.holds_iff (h : season.Located target) {d : Disk} (hd : d ∈ season.disks) :
    season.setup.Holds d target.name i ↔
      season.setup.store.readInterface? season.setup.codec target.interfacePath d = some i := by
  obtain ⟨found, hfound, hpath⟩ := h.interfacePath
  rw [hpath]
  constructor
  · rintro ⟨found', hfound', hread⟩
    obtain rfl := Except.ok.inj ((hfound d hd).symm.trans hfound')
    exact hread
  · exact fun hread => ⟨found, hfound d hd, hread⟩

namespace Alone

/-- An access to the disk changes nothing. -/
theorem access_eq (h : season.Alone s) : s.access = s := by
  obtain ⟨caches, ⟨disk, outside, journal⟩⟩ := s
  obtain rfl : outside = [] := h.outside
  rfl

theorem nextDisk_eq (h : season.Alone s) : s.nextDisk = s.world.disk :=
  congrArg (fun s => s.world.disk) h.access_eq

/-- Whatever else changes does not matter. -/
theorem of_eq {s' : LoadState} (h : season.Alone s) (houtside : s'.world.outside = s.world.outside)
    (hdisk : s'.world.disk = s.world.disk) (hdecoded : s'.caches.decoded = s.caches.decoded) :
    season.Alone s' where
  outside := houtside.trans h.outside
  decoded module i hget := by
    rw [hdisk]
    exact h.decoded module i (hdecoded ▸ hget)

/-- An interface is kept that is on disk. -/
theorem keep (h : season.Alone s) {module : ModuleName} (hmem : module ∈ season.modules)
    (hholds : season.setup.Holds s.world.disk module i) : season.Alone (s.keep module i) where
  outside := h.outside
  decoded m j hget := by
    obtain hbefore | ⟨rfl, rfl⟩ := DecodedCache.get?_insert_eq_some hget
    · exact h.decoded m j hbefore
    · exact ⟨hmem, hholds⟩

end Alone

/-! ## Single steps -/

/-- **What is stored for a target is what its artifact reads as**, and asking changes nothing. -/
theorem run_stored (hdisk : s.world.disk ∈ season.disks) (halone : season.Alone s)
    (hlocated : season.Located target) :
    ∃ result, (season.setup.stored target).run.run s = some (.ok result, s) ∧
      ∀ i, result = .ok i ↔ season.setup.Holds s.world.disk target.name i := by
  have hread := fun i => hlocated.holds_iff hdisk (i := i)
  cases hdecoded : s.caches.decoded.get? target.name with
  | some j =>
    have hholds := (halone.decoded _ _ hdecoded).2
    -- The header on disk is that of the decoded interface.
    obtain ⟨header, hheader, hhash, -⟩ :=
      ArtifactStore.readHeader?_of_readInterface? ((hread j).1 hholds)
    rw [← halone.nextDisk_eq] at hheader
    have hrun := Setup.run_stored_of_decoded hdecoded hheader hhash
    rw [halone.access_eq] at hrun
    refine ⟨.ok j, hrun, fun i => ⟨fun h => Except.ok.inj h ▸ hholds, fun h => ?_⟩⟩
    rw [hholds.unique h]
  | none =>
    have hsame : s.withDecoded s.caches.decoded = s := rfl
    rw [Setup.run_stored]
    simp only [DecodedCache.getCurrent?_of_get?_eq_none hdecoded, halone.access_eq,
      halone.nextDisk_eq, hsame]
    cases hstored : season.setup.store.readInterface? season.setup.codec target.interfacePath
        s.world.disk with
    | some j =>
      have hexists : s.world.disk.exists? target.interfacePath = true :=
        ArtifactStore.exists?_of_readInterface? hstored
      rw [if_pos hexists]
      refine ⟨.ok j, rfl, fun i => ?_⟩
      rw [hread i, hstored, Option.some.injEq, Except.ok.injEq]
    | none =>
      have hnone : ∀ i, ¬ season.setup.Holds s.world.disk target.name i := by
        intro i h
        rw [hread i, hstored] at h
        contradiction
      split
      · exact ⟨_, rfl, fun i => iff_of_false nofun (hnone i)⟩
      · exact ⟨_, rfl, fun i => iff_of_false nofun (hnone i)⟩

/-- Locating a module changes nothing but the sources that are remembered. -/
theorem locate_alone (halone : season.Alone s) (module : ModuleName) :
    (season.setup.locate module).Ensures s (fun _ s' => ∃ sources, s' = s.withSources sources)
      fun _ _ => True := by
  intro r s' hrun
  cases Setup.locates_of_run hrun with
  | missing _ => exact True.intro
  | unreadable _ _ => exact True.intro
  | @located _ _ sources _ _ =>
    rw [halone.access_eq, halone.access_eq]
    exact ⟨sources, rfl⟩

/-- **A module with a source is located.** Its source was remembered as it is on disk, or it is read
and remembered now. -/
theorem exists_run_locate {module : ModuleName} (hd : s.world.disk ∈ season.disks)
    (halone : season.Alone s)
    (hsources : ∀ path file, s.caches.sources.get? path = some file →
      file.path.Same path ∧ ∀ d ∈ season.disks, d.readText file.path = .ok file.text)
    (hmem : module ∈ season.modules) {text : String}
    (htext : season.edition.text? module = some text) :
    ∃ target, season.setup.IsTarget module target ∧ season.Located target ∧
      ((season.setup.locate module).run.run s = some (.ok target, s) ∨
        ∃ path, (season.setup.locate module).run.run s
            = some (.ok target, s.withSources (s.caches.sources.insert ⟨path, text⟩)) ∧
          ∀ d ∈ season.disks, d.readText path = .ok text) := by
  obtain ⟨found, hfound, hread⟩ := Setup.found_of_text? ((season.text?_eq hmem hd).trans htext)
  have hall := readText_of_text? hd hmem hfound htext
  have hrun := Setup.run_locate season.setup s module
  simp only [halone.access_eq, halone.nextDisk_eq, hfound] at hrun
  unfold SourceCache.load at hrun
  cases hcached : s.caches.sources.get? found.source with
  | some file =>
    rw [hcached] at hrun
    obtain ⟨hsame, hfile⟩ := hsources _ _ hcached
    -- The remembered file may have been read under another spelling of the path.
    have hspelled : s.world.disk.readText found.source = .ok file.text := by
      rw [← hfile _ hd]
      exact (Disk.readText_eq_of_same hsame (Disk.isFile_of_readText (hfile _ hd))
        (season.isFile hmem hd hfound)).symm
    obtain rfl : text = file.text := Except.ok.inj (hread.symm.trans hspelled)
    exact ⟨_, season.setup.isTarget_targetAt _ _ _, located_targetAt hd hmem hfound htext hfile,
      .inl hrun⟩
  | none =>
    rw [hcached] at hrun
    unfold SourceCache.reload at hrun
    rw [hread] at hrun
    have hlocated : season.Located (season.setup.targetAt module found ⟨found.source, text⟩) :=
      located_targetAt hd hmem hfound htext hall
    exact ⟨_, season.setup.isTarget_targetAt _ _ _, hlocated, .inr ⟨found.source, hrun, hall⟩⟩

/-- Reading the source of a target again changes nothing else either, and gives the same. -/
theorem run_refresh (hs : season.Sound editions s) (halone : season.Alone s)
    (hlocated : season.Located target) :
    ∃ sources, (Setup.refresh target).run.run s = some (.ok target, s.withSources sources) ∧
      season.Sound editions (s.withSources sources) := by
  have hrun := Setup.run_refresh s target
  rw [halone.access_eq, halone.nextDisk_eq] at hrun
  unfold SourceCache.reload at hrun
  rw [hlocated.readText _ hs.calm.disk] at hrun
  exact ⟨_, hrun, hs.withSource hlocated.readText⟩

/-- **A write leaves the artifacts of other modules.** -/
theorem holds_of_write (hapart : season.Apart) (hlocated : season.Located target) {d d' : Disk}
    (hd : d ∈ season.disks) (hd' : d' ∈ season.disks) {durable : Interface}
    (hwrite : season.setup.store.write season.setup.codec target.interfacePath i d
      = (.ok durable, d')) {module : ModuleName} (hmem : module ∈ season.modules)
    (hne : module ≠ target.name) (h : season.setup.Holds d module j) :
    season.setup.Holds d' module j := by
  obtain ⟨found, hfound, hread⟩ := h
  obtain ⟨other, hother, hpath⟩ := hlocated.interfacePath
  obtain ⟨content, hcontent, hinterface⟩ := Option.bind_eq_some_iff.1 hread
  refine ⟨found, (season.finder_eq hmem hd' hd).trans hfound, ?_⟩
  refine Option.bind_eq_some_iff.2 ⟨content, ?_, hinterface⟩
  refine ArtifactStore.read?_of_write_of_ne hwrite ?_ hcontent
  rw [hpath]
  exact hapart d hd module hmem target.name hlocated.mem hne found other hfound (hother d hd)

/-- **What is written for a target** is held by its artifact afterwards, and nothing that was held
for another module is lost. -/
theorem run_persist (hs : season.Sound editions s) (halone : season.Alone s) (hapart : season.Apart)
    (hcodec : season.setup.codec.Faithful) (hlocated : season.Located target)
    {durable : Interface} {s' : LoadState}
    (hrun : (season.setup.persist target i).run.run s = some (.ok durable, s')) :
    durable = i ∧ s'.caches.visited = s.caches.visited ∧ s'.world.journal = s.world.journal ∧
      season.Alone s' ∧ season.setup.Holds s'.world.disk target.name i ∧
      ∀ module ∈ season.modules, module ≠ target.name → ∀ j,
        season.setup.Holds s.world.disk module j → season.setup.Holds s'.world.disk module j := by
  obtain ⟨found, hfound, hpath⟩ := hlocated.interfacePath
  have hdisk := season.write i hlocated.mem hs.calm.disk (hfound _ hs.calm.disk)
  rw [← hpath] at hdisk
  cases Setup.persists_of_run hrun with
  | @written _ disk hwrite =>
    rw [halone.nextDisk_eq] at hwrite
    rw [hwrite] at hdisk
    obtain rfl := ArtifactStore.eq_of_write season.setup.readable_store hcodec hwrite
    have hheld : season.setup.Holds disk target.name durable := by
      obtain ⟨_, _, -, -, -, hread⟩ := ArtifactStore.write_eq_ok hwrite
      exact (hlocated.holds_iff hdisk).2 hread
    have hother : ∀ module ∈ season.modules, module ≠ target.name → ∀ j,
        season.setup.Holds s.world.disk module j → season.setup.Holds disk module j :=
      fun module hmem hne j => holds_of_write hapart hlocated hs.calm.disk hdisk hwrite hmem hne
    rw [halone.access_eq]
    refine ⟨rfl, rfl, rfl, ⟨halone.outside, fun module j hget => ?_⟩, hheld, hother⟩
    change (s.caches.decoded.insert target.name durable).get? module = some j at hget
    rw [DecodedCache.get?_insert] at hget
    split at hget
    · rename_i hmodule
      rw [hmodule, ← Option.some.inj hget]
      exact ⟨hlocated.mem, hheld⟩
    · rename_i hmodule
      obtain ⟨hmem, hholds⟩ := halone.decoded module j hget
      exact ⟨hmem, hother module hmem hmodule j hholds⟩

end Season

/-! ## Imports that are answered from memory -/

/-- **An importer recalls a module**: once it is known, asking for it changes nothing. -/
def Importer.Recalls (importer : Importer) (module : ModuleName) : Prop :=
  ∀ scope s entry, s.Knows module entry → (importer scope module).run.run s = some (.ok entry, s)

namespace Setup

variable {setup : Setup} {s s' : LoadState}

/-- **What has been resolved once is recalled**, to the same depth and with the same modules in
progress. -/
theorem recalls_of_run {depth : Nat} {stack : ImportStack} {scope : ImportedScope}
    {module : ModuleName} {entry : VisitedEntry}
    (hrun : (setup.resolve depth stack scope module).run.run s = some (.ok entry, s')) :
    (setup.resolve depth stack).Recalls module := by
  cases depth with
  | zero => contradiction
  | succ depth =>
    intro scope' t known hknows
    rw [resolve_succ] at hrun ⊢
    unfold resolveStep entering at hrun ⊢
    cases hpush : stack.push module with
    | error cycle =>
      rw [hpush] at hrun
      exact absurd (congrArg Prod.fst (Option.some.inj hrun)) nofun
    | ok pushed =>
      have hsettled : (setup.settleImport (setup.resolve depth pushed) scope' module).run.run t
          = some (.ok known, t) := by
        unfold settleImport
        rw [Load.run_bind, show (Load.visited? module).run.run t
          = some (.ok (t.caches.visited.get? module), t) from rfl, hknows.1]
        rfl
      dsimp only
      rw [Load.run_bind, hsettled]
      dsimp only [Option.bind_some]
      rw [if_pos hknows.2]
      rfl

/-- Recorded imports that are recalled with the digests recorded are compared without a change. -/
theorem run_changedImport? {importer : Importer} (scope : ImportedScope)
    {imports : List (ModuleName × Digest)} (hrecalls : ∀ e ∈ imports, importer.Recalls e.1)
    (hcurrent : s.Current imports) :
    (Interface.changedImport? (currentHash importer scope) imports).run.run s
      = some (.ok none, s) := by
  induction imports with
  | nil => rfl
  | cons e rest ih =>
    obtain ⟨module, recorded⟩ := e
    obtain ⟨entry, hknows, hhash⟩ := hcurrent _ List.mem_cons_self
    unfold Interface.changedImport? currentHash
    rw [bind_assoc, Load.run_bind, hrecalls _ List.mem_cons_self scope s entry hknows]
    show ((pure entry.interface.fullHash >>= _ : Load (Option StalenessReason)).run.run s) = _
    rw [pure_bind, if_pos hhash]
    exact ih (fun e he => hrecalls e (List.mem_cons_of_mem _ he))
      fun e he => hcurrent e (List.mem_cons_of_mem _ he)

end Setup

namespace Season

variable {season : Season} {s : LoadState} {target : Target} {i : Interface} {importer : Importer}

/-- **An artifact that is up to date is found so at once**, if all its imports are recalled: nothing
happens but that its interface is kept. -/
theorem run_validate (hdisk : s.world.disk ∈ season.disks) (halone : season.Alone s)
    (hlocated : season.Located target) (hholds : season.setup.Holds s.world.disk target.name i)
    (hlocal : i.localStaleness? target.name target.source.hash
      season.setup.settings.options.fingerprint = none)
    (hrecalls : ∀ e ∈ i.imports, importer.Recalls e.1) (hcurrent : s.Current i.imports)
    (scope : ImportedScope) :
    (season.setup.validate importer target scope).run.run s
      = some (.ok (.ok i), s.keep target.name i) := by
  obtain ⟨result, hrun, hresult⟩ := run_stored hdisk halone hlocated
  rw [(hresult i).2 hholds] at hrun
  unfold Setup.validate
  rw [Load.run_bind, hrun]
  dsimp only [Option.bind_some]
  rw [hlocal]
  dsimp only
  have hcompare := Setup.run_changedImport? scope hrecalls hcurrent
  unfold Setup.currentHash at hcompare
  rw [Load.run_bind, Interface.importStaleness?, hcompare]
  rfl

end Season

end ModuleLoader
