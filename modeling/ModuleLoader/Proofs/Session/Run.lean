import ModuleLoader.Proofs.Session.Regime
import ModuleLoader.Proofs.Session.Snapshot

/-!
# Runs of sessions

A project is worked on in one session after the other. Between two loads others may edit sources, and
delete, copy or put back artifacts, while a load runs they may do harmless things, and a session may
start from scratch or with what was decoded before. What is the same all the time are the *terms* of
the run: the modules, the way in which interfaces are stored, and what is asked of the setup of a
session. `Session.Run` is the run of sessions on such terms, which begins without artifacts.

To show something of all runs, one says what it means for stored and for settled interfaces
(`Session.Upkeep`). It may depend on the interfaces with which modules were ever settled, as these are
what others were checked against. If the terms make it a lawful regime of each single session, it
holds in every run (`Session.Run.upheld`).
-/

namespace ModuleLoader

/-- **The interfaces of the settled modules.** -/
def VisitedCache.interfaces (c : VisitedCache) : Set Interface :=
  { i | ∃ module entry, c.get? module = some entry ∧ entry.interface = i }

@[simp] theorem VisitedCache.interfaces_empty : VisitedCache.empty.interfaces = ∅ := by
  ext i
  simp [interfaces]

/-- With more modules settled there are more interfaces. -/
theorem VisitedCache.interfaces_mono {c c' : VisitedCache}
    (h : ∀ module entry, c.get? module = some entry → c'.get? module = some entry) :
    c.interfaces ⊆ c'.interfaces := by
  rintro i ⟨module, entry, hget, rfl⟩
  exact ⟨module, entry, h module entry hget, rfl⟩

/-- The bytes that are hashed for the interfaces of the settled modules. -/
def VisitedCache.sealedBytes (c : VisitedCache) : List Bytes :=
  c.entries.filterMap fun e => (e.2.interface.sealBytes .standard).toOption

/-- Nothing else is hashed for them. -/
theorem VisitedCache.mem_sealedBytes {c : VisitedCache} {bytes : Bytes}
    (h : bytes ∈ Interface.allBytes .standard c.interfaces) : bytes ∈ c.sealedBytes := by
  obtain ⟨_, ⟨module, entry, hget, rfl⟩, hbytes⟩ := h
  obtain ⟨before, after, hsplit, -⟩ := List.lookup_eq_some_iff.1 hget
  have hmem : (module, entry) ∈ c.entries := hsplit ▸ List.mem_append_right _ List.mem_cons_self
  refine List.mem_filterMap.2 ⟨(module, entry), hmem, ?_⟩
  rw [hbytes]
  rfl

namespace Session

/-- **The terms of a run.** -/
structure Terms where
  /-- The modules that are ever asked for. -/
  modules : Set ModuleName
  /-- How interfaces are stored. -/
  codec : Codec
  /-- The setups that a session may have, while the disk is one of some and modules have certain
  texts. -/
  admits : Setup → Set Disk → (ModuleName → String → Prop) → Prop

/-- **What has been**, as far as loads have ended. -/
structure Past where
  /-- The interfaces that were on disk. -/
  stored : Set Interface
  /-- The interfaces with which modules were settled. -/
  settled : Set Interface

/-- Nothing has been. -/
def Past.empty : Past := ⟨∅, ∅⟩

instance : EmptyCollection Past := ⟨Past.empty⟩

/-- What has been when another load has ended. -/
def Past.after (past : Past) (codec : Codec) (s : Session) (d : Disk) : Past where
  stored := past.stored ∪ { i | i.OnDisk Setup.compilerVersion codec d }
  settled := past.settled ∪ s.caches.visited.interfaces

/-- **The runs on some terms**: the session that there is now, with the disks that there may be and the
texts that modules may have as long as it lasts, the disk that there is, and what has been. Others may
change the disk between two loads as the session allows; they put no interface there that was not on
disk before. -/
inductive Run (terms : Terms) :
    Set Disk → (ModuleName → String → Prop) → Session → Disk → Past → Prop where
  /-- The first session finds no artifacts. -/
  | first {setup : Setup} {disks : Set Disk} {reads : ModuleName → String → Prop} {d : Disk} :
      terms.admits setup disks reads → d ∈ disks →
      (∀ i : Interface, ¬ i.OnDisk Setup.compilerVersion terms.codec d) →
      Run terms disks reads (.start setup) d ∅
  /-- A session from scratch follows another one. -/
  | start {setup : Setup} {disks disks' : Set Disk} {reads reads' : ModuleName → String → Prop}
      {s : Session} {d d' : Disk} {past : Past} : Run terms disks reads s d past →
      terms.admits setup disks' reads' → d' ∈ disks' →
      (∀ i : Interface, i.OnDisk Setup.compilerVersion terms.codec d' → i ∈ past.stored) →
      Run terms disks' reads' (.start setup) d' past
  /-- A session that starts with what another one decoded follows it. -/
  | resume {setup : Setup} {disks disks' : Set Disk} {reads reads' : ModuleName → String → Prop}
      {s : Session} {d d' : Disk} {past : Past} : Run terms disks reads s d past →
      terms.admits setup disks' reads' → d' ∈ disks' →
      (∀ i : Interface, i.OnDisk Setup.compilerVersion terms.codec d' → i ∈ past.stored) →
      Run terms disks' reads' (.resume setup s.caches.decoded) d' past
  /-- The disk is changed between two loads. -/
  | edit {disks : Set Disk} {reads : ModuleName → String → Prop} {s : Session} {d d' : Disk}
      {past : Past} : Run terms disks reads s d past → d' ∈ disks →
      (∀ i : Interface, i.OnDisk Setup.compilerVersion terms.codec d' → i ∈ past.stored) →
      Run terms disks reads s d' past
  /-- A module is loaded. -/
  | load {disks : Set Disk} {reads : ModuleName → String → Prop} {s s' : Session} {depth : Nat}
      {module : ModuleName} {mode : CheckMode} {world world' : World} {past : Past}
      {result : Except LoadError Loaded} : Run terms disks reads s world.disk past →
      module ∈ terms.modules → s.setup.Calm disks world →
      s.loadWithin depth module mode world = some (result, s', world') →
      Run terms disks reads s' world'.disk (past.after terms.codec s' world'.disk)

variable {terms : Terms} {disks : Set Disk} {reads : ModuleName → String → Prop} {s : Session}
  {d : Disk} {past : Past}

/-- The sessions of a run are reachable. -/
theorem Run.reachable (h : Run terms disks reads s d past) : s.Reachable := by
  induction h with
  | first _ _ _ => exact .start _
  | start _ _ _ _ _ => exact .start _
  | resume _ _ _ _ ih => exact .resume _ ih
  | edit _ _ _ ih => exact ih
  | load _ _ _ hload ih => exact .load ih hload

/-! ## What a run keeps up -/

/-- **What is said of stored and of settled interfaces** in a run, given the interfaces that were ever
settled, and of settled ones, given the texts of the modules. -/
structure Upkeep where
  /-- What stored interfaces are like. -/
  good : Set Interface → VisitedCache → Interface → Prop
  /-- What the entries of modules are like. -/
  fit : Set Interface → (ModuleName → String → Prop) → VisitedCache → ModuleName → VisitedEntry →
    Prop

/-- The regime of a session in a run. -/
def Upkeep.regime (u : Upkeep) (terms : Terms) (setup : Setup) (disks : Set Disk)
    (reads : ModuleName → String → Prop) (settled : Set Interface) : setup.Regime where
  modules := terms.modules
  disks := disks
  reads := reads
  good := u.good settled
  fit := u.fit settled reads

/-- **The terms of a run bear the upkeep**: it is lawful in each session, and no less is known when
more has been settled. -/
structure Upkeep.Borne (u : Upkeep) (terms : Terms) : Prop where
  /-- Interfaces are stored in the same way. -/
  codec_eq {setup : Setup} {disks : Set Disk} {reads : ModuleName → String → Prop} :
    terms.admits setup disks reads → setup.codec = terms.codec
  /-- The regime of each session is lawful. -/
  lawful {setup : Setup} {disks : Set Disk} {reads : ModuleName → String → Prop}
    (settled : Set Interface) : terms.admits setup disks reads →
    (u.regime terms setup disks reads settled).Lawful
  /-- What is stored is no worse when more has been settled. -/
  good_mono {settled settled' : Set Interface} {c : VisitedCache} {i : Interface} :
    settled ⊆ settled' → u.good settled c i → u.good settled' c i
  /-- What is settled is no worse when more has been settled. -/
  fit_mono {settled settled' : Set Interface} {reads : ModuleName → String → Prop}
      {c : VisitedCache} {module : ModuleName} {entry : VisitedEntry} : settled ⊆ settled' →
    u.fit settled reads c module entry → u.fit settled' reads c module entry
  /-- What is settled counts when the session has ended, too. -/
  good_ended {settled : Set Interface} {c : VisitedCache} {i : Interface} :
    c.interfaces ⊆ settled → u.good settled c i → u.good settled ∅ i

/-- **The upkeep holds**: the session is one of the run, its settled interfaces are known to have been
settled, and whatever is or was on disk is as it should be, and so are the caches. -/
structure Upkeep.Holds (u : Upkeep) (terms : Terms) (disks : Set Disk)
    (reads : ModuleName → String → Prop) (s : Session) (d : Disk) (past : Past) : Prop where
  /-- The setup is one that the terms admit. -/
  admits : terms.admits s.setup disks reads
  /-- What is settled now has been settled. -/
  settled : s.caches.visited.interfaces ⊆ past.settled
  /-- What was ever on disk is as it should be. -/
  stored : ∀ i ∈ past.stored, u.good past.settled ∅ i
  /-- The regime is kept. -/
  kept : (u.regime terms s.setup disks reads past.settled).Kept ⟨s.caches, .quiet d⟩

variable {u : Upkeep}

/-- The regime is kept in every calm world. -/
theorem Upkeep.Holds.keptIn {world : World} (h : u.Holds terms disks reads s world.disk past)
    (hcalm : s.setup.Calm disks world) :
    (u.regime terms s.setup disks reads past.settled).Kept ⟨s.caches, world⟩ :=
  h.kept.inWorld hcalm h.kept.onDisk

/-- A session that follows another one finds everything as it should be. -/
theorem Upkeep.Holds.next (hborne : u.Borne terms) {setup : Setup}
    {disks' : Set Disk} {reads' : ModuleName → String → Prop} {d' : Disk} {decoded : DecodedCache}
    (hstored : ∀ i ∈ past.stored, u.good past.settled ∅ i)
    (hadmits : terms.admits setup disks' reads') (hd : d' ∈ disks')
    (hwas : ∀ i : Interface, i.OnDisk Setup.compilerVersion terms.codec d' → i ∈ past.stored)
    (hdecoded : ∀ module i, decoded.get? module = some i → u.good past.settled ∅ i) :
    u.Holds terms disks' reads' (.resume setup decoded) d' past where
  admits := hadmits
  settled := by
    show VisitedCache.empty.interfaces ⊆ past.settled
    simp
  stored := hstored
  kept := .fresh (Setup.calm_quiet hd)
    (fun i hi => hstored i (hwas i (hborne.codec_eq hadmits ▸ hi))) hdecoded

/-- **In every run the upkeep holds**, if the terms bear it. -/
theorem Run.upheld (hborne : u.Borne terms) (h : Run terms disks reads s d past) :
    u.Holds terms disks reads s d past := by
  induction h with
  | first hadmits hd hnone =>
    exact .next hborne nofun hadmits hd (fun i hi => absurd hi (hnone i)) nofun
  | start _ hadmits hd hwas ih => exact .next hborne ih.stored hadmits hd hwas nofun
  | resume _ hadmits hd hwas ih =>
    exact .next hborne ih.stored hadmits hd hwas fun m i hget =>
      hborne.good_ended ih.settled (ih.kept.decoded m i hget)
  | @edit disks reads s d d' past _ hd hwas ih =>
    refine ⟨ih.admits, ih.settled, ih.stored, ih.kept.inWorld (Setup.calm_quiet hd) fun i hi => ?_⟩
    exact (hborne.lawful past.settled ih.admits).good_mono
      (fun m e hget => absurd ((VisitedCache.get?_empty m).symm.trans hget) nofun)
      (ih.stored i (hwas i (hborne.codec_eq ih.admits ▸ hi)))
  | @load disks reads s s' depth module mode world world' past result hrun hmem hcalm hload ih =>
    have hstack := hrun.reachable.stack_eq
    have hafter := (maintains_loadWithin rfl (hborne.lawful past.settled ih.admits).contract hstack
      hmem (ih.keptIn hcalm) hload).1
    obtain ⟨_, _, -, -, -, hsetup, -⟩ := loadWithin_eq_some hstack hload
    have hmore : past.settled ⊆ (past.after terms.codec s' world'.disk).settled :=
      Set.subset_union_left
    have hsettled : s'.caches.visited.interfaces
        ⊆ (past.after terms.codec s' world'.disk).settled := Set.subset_union_right
    have honDisk : ∀ i : Interface, i.OnDisk Setup.compilerVersion s.setup.codec world'.disk →
        u.good (past.after terms.codec s' world'.disk).settled s'.caches.visited i :=
      fun i hi => hborne.good_mono hmore (hafter.onDisk i hi)
    refine ⟨hsetup ▸ ih.admits, hsettled, ?_, ?_⟩
    · rintro i (hi | hi)
      · exact hborne.good_mono hmore (ih.stored i hi)
      · exact hborne.good_ended hsettled (honDisk i (hborne.codec_eq ih.admits ▸ hi))
    · rw [hsetup]
      exact ⟨Setup.calm_quiet hafter.calm.disk, honDisk,
        fun m i hget => hborne.good_mono hmore (hafter.decoded m i hget), hafter.sources,
        fun m e hget => hborne.fit_mono hmore (hafter.visited m e hget)⟩

end Session

end ModuleLoader
