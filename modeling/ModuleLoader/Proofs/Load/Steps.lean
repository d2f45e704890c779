import ModuleLoader.Proofs.Artifact.Place
import ModuleLoader.Proofs.Load.Contract

/-!
# The steps of a load

What each step of a load comes to, as one equation: the outcome, and the state that it leaves. A
step that looks at the disk does so at the next access, when other programs have got in before it;
several looks within one step are several accesses.

The same is said once more the other way round, with a name for each way in which a step can end
(`Setup.Locates`, `Setup.Refreshes`, `Setup.LooksUp`, `Setup.Persists` and `Load.Edits`). Whatever
is to be shown of all loads has one case for each of these, and no step is taken apart elsewhere.
-/

namespace ModuleLoader

namespace LoadState

/-- The state with another disk. -/
def withDisk (s : LoadState) (disk : Disk) : LoadState := { s with world := { s.world with disk } }

/-- The state with other source files remembered. -/
def withSources (s : LoadState) (sources : SourceCache) : LoadState :=
  { s with caches := { s.caches with sources } }

/-- The state with other decoded interfaces. -/
def withDecoded (s : LoadState) (decoded : DecodedCache) : LoadState :=
  { s with caches := { s.caches with decoded } }

/-- The disk as the next access finds it. -/
def nextDisk (s : LoadState) : Disk := s.access.world.disk

@[simp] theorem caches_access (s : LoadState) : s.access.caches = s.caches := rfl

/-- In a quiet world an access changes nothing. -/
theorem access_of_quiet {s : LoadState} (h : s.world.outside = []) : s.access = s := by
  unfold access World.next
  rw [h]

/-- In a quiet world the next access finds the disk as it is. -/
theorem nextDisk_of_quiet {s : LoadState} (h : s.world.outside = []) :
    s.nextDisk = s.world.disk := by
  unfold nextDisk
  rw [access_of_quiet h]

end LoadState

open LoadState

namespace Load

variable (s : LoadState)

theorem run_get : (get : Load LoadState).run.run s = some (.ok s, s) := rfl

theorem run_disk : disk.run.run s = some (.ok s.nextDisk, s.access) := rfl

/-- A change of the disk, made or refused. -/
theorem run_edit (change : Disk → Except DiskFault Disk) :
    (edit change).run.run s = some (
      match change s.nextDisk with
      | .ok changed => (.ok (.ok ()), s.access.withDisk changed)
      | .error fault => (.ok (.error fault), s.access)) := by
  unfold edit
  rw [run_bind, run_disk]
  dsimp only [Option.bind_some]
  cases change s.nextDisk <;> rfl

/-- **How a change of the disk ends.** -/
inductive Edits (change : Disk → Except DiskFault Disk) (s : LoadState) :
    Except LoadError (Except DiskFault Unit) → LoadState → Prop where
  /-- It is made. -/
  | changed {d : Disk} :
      change s.nextDisk = .ok d → Edits change s (.ok (.ok ())) (s.access.withDisk d)
  /-- It is refused. -/
  | refused {fault : DiskFault} :
      change s.nextDisk = .error fault → Edits change s (.ok (.error fault)) s.access

variable {s} in
theorem edits_of_run {change : Disk → Except DiskFault Disk}
    {r : Except LoadError (Except DiskFault Unit)} {s' : LoadState}
    (h : (edit change).run.run s = some (r, s')) : Edits change s r s' := by
  rw [run_edit] at h
  split at h
  · rename_i hchange
    obtain ⟨rfl, rfl⟩ := Prod.mk.inj (Option.some.inj h)
    exact .changed hchange
  · rename_i hchange
    obtain ⟨rfl, rfl⟩ := Prod.mk.inj (Option.some.inj h)
    exact .refused hchange

/-- **A change of the disk maintains an invariant** that the access keeps, if what the change leads to
has it. -/
theorem maintains_edit {s : LoadState} {inv : LoadState → Prop} {frames : List ModuleName}
    {change : Disk → Except DiskFault Disk} (hs : inv s.access)
    (hchanged : ∀ d, change s.nextDisk = .ok d → inv (s.access.withDisk d)) :
    (edit change).Maintains inv frames s fun _ _ => True := by
  intro r s' hrun
  cases edits_of_run hrun with
  | changed hchange => exact ⟨hchanged _ hchange, .of_eq rfl, trivial⟩
  | refused _ => exact ⟨hs, .of_eq rfl, trivial⟩

/-- A source file that is read, in any of the ways that there are. -/
theorem run_sourceBy (read : SourceCache → Disk → Path → Except DiskFault (SourceFile × SourceCache))
    (path : Path) :
    (sourceBy read path).run.run s = some (
      match read s.caches.sources s.nextDisk path with
      | .ok (file, sources) => (.ok file, s.access.withSources sources)
      | .error fault => (.error (.source path fault), s.access)) := by
  unfold sourceBy
  rw [run_bind, run_disk]
  dsimp only [Option.bind_some]
  rw [run_bind, run_get]
  dsimp only [Option.bind_some]
  rw [caches_access]
  cases read s.caches.sources s.nextDisk path <;> rfl

/-- A decoded interface that is asked for. -/
theorem run_decoded? (module : ModuleName) (onDisk : Option Digest) :
    (decoded? module onDisk).run.run s = some (
      .ok (s.caches.decoded.getCurrent? module onDisk).1,
      s.withDecoded (s.caches.decoded.getCurrent? module onDisk).2) := rfl

end Load

namespace Setup

open Load

variable (setup : Setup) (s : LoadState)

/-- The target that a module is found at. -/
def targetAt (module : ModuleName) (found : FoundModule) (source : SourceFile) : Target where
  name := module
  root := found.root
  source := source
  interfacePath := setup.store.interfacePath found.root module
  isPrimitive := setup.settings.isPrimitive module

theorem isTarget_targetAt (module : ModuleName) (found : FoundModule) (source : SourceFile) :
    setup.IsTarget module (setup.targetAt module found source) := ⟨rfl, rfl⟩

theorem interfacePath_targetAt (module : ModuleName) (found : FoundModule) (source : SourceFile) :
    (setup.targetAt module found source).interfacePath
      = setup.store.interfacePath found.root module := by
  dsimp only [targetAt]

/-- **A target has its artifact where the artifact of its module lies.** -/
def Placed (setup : Setup) (target : Target) : Prop :=
  setup.Lies target.name target.interfacePath

theorem placed_targetAt {module : ModuleName} {found : FoundModule} {d : Disk}
    (h : setup.finder module d = .ok found) (source : SourceFile) :
    setup.Placed (setup.targetAt module found source) :=
  ⟨d, found, h, setup.interfacePath_targetAt module found source⟩

/-- **A module that is located** is found first, and then its source is read. -/
theorem run_locate (module : ModuleName) :
    (setup.locate module).run.run s = some (
      match setup.finder module s.nextDisk with
      | .error e => (.error e, s.access)
      | .ok found =>
        match s.caches.sources.load s.access.nextDisk found.source with
        | .ok (file, sources) =>
          (.ok (setup.targetAt module found file), s.access.access.withSources sources)
        | .error fault => (.error (.source found.source fault), s.access.access)) := by
  unfold locate
  rw [Load.run_bind, run_disk]
  dsimp only [Option.bind_some]
  cases setup.finder module s.nextDisk with
  | error e => rfl
  | ok found =>
    rw [Load.run_bind]
    dsimp only
    show (Load.source found.source >>= fun source =>
      pure (setup.targetAt module found source)).run.run s.access = _
    rw [Load.run_bind, Load.source, run_sourceBy]
    dsimp only [Option.bind_some]
    rw [caches_access]
    cases s.caches.sources.load s.access.nextDisk found.source <;> rfl

/-- **How locating a module ends.** -/
inductive Locates (setup : Setup) (module : ModuleName) (s : LoadState) :
    Except LoadError Target → LoadState → Prop where
  /-- It is not found. -/
  | missing {e : LoadError} :
      setup.finder module s.nextDisk = .error e → Locates setup module s (.error e) s.access
  /-- Its source cannot be read. -/
  | unreadable {found : FoundModule} {fault : DiskFault} :
      setup.finder module s.nextDisk = .ok found →
      s.caches.sources.load s.access.nextDisk found.source = .error fault →
      Locates setup module s (.error (.source found.source fault)) s.access.access
  /-- It is found, and its source is remembered or read. -/
  | located {found : FoundModule} {file : SourceFile} {sources : SourceCache} :
      setup.finder module s.nextDisk = .ok found →
      s.caches.sources.load s.access.nextDisk found.source = .ok (file, sources) →
      Locates setup module s (.ok (setup.targetAt module found file))
        (s.access.access.withSources sources)

variable {setup s} in
theorem locates_of_run {module : ModuleName} {r : Except LoadError Target} {s' : LoadState}
    (h : (setup.locate module).run.run s = some (r, s')) : setup.Locates module s r s' := by
  rw [run_locate] at h
  split at h
  · rename_i hfound
    obtain ⟨rfl, rfl⟩ := Prod.mk.inj (Option.some.inj h)
    exact .missing hfound
  · rename_i hfound
    split at h
    · rename_i hload
      obtain ⟨rfl, rfl⟩ := Prod.mk.inj (Option.some.inj h)
      exact .located hfound hload
    · rename_i hload
      obtain ⟨rfl, rfl⟩ := Prod.mk.inj (Option.some.inj h)
      exact .unreadable hfound hload

variable {setup s} in
/-- **A target that is located** has the source that is remembered for what the finder finds, or that is
read there. -/
theorem locate_eq_ok {module : ModuleName} {target : Target} {s' : LoadState}
    (h : (setup.locate module).run.run s = some (.ok target, s')) :
    ∃ found file sources, setup.finder module s.nextDisk = .ok found ∧
      s.caches.sources.load s.access.nextDisk found.source = .ok (file, sources) ∧
      target = setup.targetAt module found file ∧ s' = s.access.access.withSources sources := by
  cases locates_of_run h with
  | located hfound hload => exact ⟨_, _, _, hfound, hload, rfl, rfl⟩

/-- The source of a target is read again. -/
theorem run_refresh (target : Target) :
    (refresh target).run.run s = some (
      match s.caches.sources.reload s.nextDisk target.source.path with
      | .ok (file, sources) => (.ok { target with source := file }, s.access.withSources sources)
      | .error fault => (.error (.source target.source.path fault), s.access)) := by
  unfold refresh Load.freshSource
  rw [Load.run_bind, run_sourceBy]
  dsimp only [Option.bind_some]
  cases s.caches.sources.reload s.nextDisk target.source.path <;> rfl

/-- **How reading the source of a target again ends.** -/
inductive Refreshes (target : Target) (s : LoadState) :
    Except LoadError Target → LoadState → Prop where
  /-- It cannot be read. -/
  | unreadable {fault : DiskFault} :
      s.caches.sources.reload s.nextDisk target.source.path = .error fault →
      Refreshes target s (.error (.source target.source.path fault)) s.access
  /-- It is read. -/
  | refreshed {file : SourceFile} {sources : SourceCache} :
      s.caches.sources.reload s.nextDisk target.source.path = .ok (file, sources) →
      Refreshes target s (.ok { target with source := file }) (s.access.withSources sources)

variable {s} in
theorem refreshes_of_run {target : Target} {r : Except LoadError Target} {s' : LoadState}
    (h : (refresh target).run.run s = some (r, s')) : Refreshes target s r s' := by
  rw [run_refresh] at h
  split at h
  · rename_i hreload
    obtain ⟨rfl, rfl⟩ := Prod.mk.inj (Option.some.inj h)
    exact .refreshed hreload
  · rename_i hreload
    obtain ⟨rfl, rfl⟩ := Prod.mk.inj (Option.some.inj h)
    exact .unreadable hreload

/-- Locating a module maintains an invariant that minds neither accesses nor what is remembered of
sources. -/
theorem maintains_locate_of {setup : Setup} {s : LoadState} {inv : LoadState → Prop}
    {frames : List ModuleName} (module : ModuleName) (hs : inv s)
    (haccess : ∀ s, inv s → inv s.access)
    (hsources : ∀ s sources, inv s → inv (s.withSources sources)) :
    (setup.locate module).Maintains inv frames s fun target _ => ∃ d found file,
      setup.finder module d = .ok found ∧ target = setup.targetAt module found file := by
  have hs₁ := haccess _ hs
  intro r s' hrun
  cases locates_of_run hrun with
  | missing _ => exact ⟨hs₁, .of_eq rfl⟩
  | unreadable _ _ => exact ⟨haccess _ hs₁, .of_eq rfl⟩
  | located hfound _ =>
    exact ⟨hsources _ _ (haccess _ hs₁), .of_eq rfl, _, _, _, hfound, rfl⟩

/-- So does reading the source of a target again. -/
theorem maintains_refresh_of {s : LoadState} {inv : LoadState → Prop} {frames : List ModuleName}
    (target : Target) (hs : inv s) (haccess : ∀ s, inv s → inv s.access)
    (hsources : ∀ s sources, inv s → inv (s.withSources sources)) :
    (refresh target).Maintains inv frames s fun target' _ =>
      ∃ file, target' = { target with source := file } := by
  intro r s' hrun
  cases refreshes_of_run hrun with
  | unreadable _ => exact ⟨haccess _ hs, .of_eq rfl⟩
  | refreshed _ => exact ⟨hsources _ _ (haccess _ hs), .of_eq rfl, _, rfl⟩

/-- The header that is read for a target. -/
def headerAt (target : Target) (disk : Disk) : Option Artifact.Header :=
  setup.store.readHeader? target.interfacePath disk

/-- **What is stored for a target** is the decoded interface if its digest is the one on disk, and
otherwise what is on disk. -/
theorem run_stored (target : Target) :
    (setup.stored target).run.run s = some (
      let onDisk := (setup.headerAt target s.nextDisk).map Artifact.Header.fullHash
      let found := s.caches.decoded.getCurrent? target.name onDisk
      let s₁ := s.access.withDecoded found.2
      match found.1 with
      | some i => (.ok (.ok i), s₁)
      | none =>
        if s₁.nextDisk.exists? target.interfacePath then
          (.ok (match setup.store.readInterface? setup.codec target.interfacePath
              s₁.access.nextDisk with
            | some i => .ok i
            | none => .error .undecodable), s₁.access.access)
        else (.ok (.error .noInterface), s₁.access)) := by
  unfold stored
  rw [Load.run_bind, run_disk]
  dsimp only [Option.bind_some]
  rw [Load.run_bind, run_decoded?, caches_access]
  dsimp only [Option.bind_some]
  unfold headerAt
  cases (s.caches.decoded.getCurrent? target.name ((setup.store.readHeader? target.interfacePath
    s.nextDisk).map Artifact.Header.fullHash)) with
  | mk found decoded =>
    cases found with
    | some i => rfl
    | none =>
      dsimp only
      rw [Load.run_bind, run_disk]
      dsimp only [Option.bind_some]
      split
      · rw [Load.run_bind, run_disk]
        dsimp only [Option.bind_some]
        cases setup.store.readInterface? setup.codec target.interfacePath
          (s.access.withDecoded decoded).access.nextDisk <;> rfl
      · rfl

/-- The state in which the decoded interfaces have been asked for a target: one that does not have the
digest on disk is dropped. -/
def lookedUp (target : Target) : LoadState :=
  s.access.withDecoded (s.caches.decoded.getCurrent? target.name
    ((setup.headerAt target s.nextDisk).map Artifact.Header.fullHash)).2

variable {setup s} in
/-- One that does is still there. -/
theorem lookedUp_of_decoded {target : Target} {i : Interface} {header : Artifact.Header}
    (hdecoded : s.caches.decoded.get? target.name = some i)
    (hheader : setup.headerAt target s.nextDisk = some header)
    (hhash : header.fullHash = i.fullHash) : setup.lookedUp s target = s.access := by
  unfold lookedUp
  rw [hheader, Option.map_some, hhash, DecodedCache.getCurrent?_of_get?_eq_some hdecoded]
  rfl

/-- **How reading what is stored for a target ends.** It never fails. -/
inductive LooksUp (setup : Setup) (target : Target) (s : LoadState) :
    Except LoadError (Except StalenessReason Interface) → LoadState → Prop where
  /-- It is decoded, and has the digest on disk. -/
  | decoded {i : Interface} {header : Artifact.Header} :
      s.caches.decoded.get? target.name = some i →
      setup.headerAt target s.nextDisk = some header → header.fullHash = i.fullHash →
      LooksUp setup target s (.ok (.ok i)) (setup.lookedUp s target)
  /-- There is no artifact. -/
  | absent :
      (setup.lookedUp s target).nextDisk.exists? target.interfacePath = false →
      LooksUp setup target s (.ok (.error .noInterface)) (setup.lookedUp s target).access
  /-- The artifact does not read as an interface. -/
  | unreadable :
      setup.store.readInterface? setup.codec target.interfacePath
        (setup.lookedUp s target).access.nextDisk = none →
      LooksUp setup target s (.ok (.error .undecodable)) (setup.lookedUp s target).access.access
  /-- The artifact reads as an interface. -/
  | read {i : Interface} :
      setup.store.readInterface? setup.codec target.interfacePath
        (setup.lookedUp s target).access.nextDisk = some i →
      LooksUp setup target s (.ok (.ok i)) (setup.lookedUp s target).access.access

variable {setup s} in
theorem looksUp_of_run {target : Target}
    {r : Except LoadError (Except StalenessReason Interface)} {s' : LoadState}
    (h : (setup.stored target).run.run s = some (r, s')) : setup.LooksUp target s r s' := by
  rw [run_stored] at h
  change some (match (s.caches.decoded.getCurrent? target.name _).1 with
    | some i => _
    | none => _) = _ at h
  split at h
  · rename_i i hfound
    obtain ⟨rfl, rfl⟩ := Prod.mk.inj (Option.some.inj h)
    obtain ⟨hget, hdisk⟩ := DecodedCache.fullHash_of_getCurrent? hfound
    obtain ⟨header, hheader, hhash⟩ := Option.map_eq_some_iff.1 hdisk
    exact .decoded hget hheader hhash
  · split at h
    · obtain ⟨rfl, rfl⟩ := Prod.mk.inj (Option.some.inj h)
      split
      · rename_i hread
        exact .read hread
      · rename_i hread
        exact .unreadable hread
    · rename_i hexists
      obtain ⟨rfl, rfl⟩ := Prod.mk.inj (Option.some.inj h)
      exact .absent (Bool.eq_false_iff.2 hexists)

/-- **A decoded interface is what is stored for a target** if the header that is read names its digest,
and the artifact is not read. -/
theorem run_stored_of_decoded {setup : Setup} {s : LoadState} {target : Target} {i : Interface}
    {header : Artifact.Header}
    (hdecoded : s.caches.decoded.get? target.name = some i)
    (hheader : setup.headerAt target s.nextDisk = some header)
    (hhash : header.fullHash = i.fullHash) :
    (setup.stored target).run.run s = some (.ok (.ok i), s.access) := by
  rw [run_stored, hheader, Option.map_some, hhash]
  dsimp only
  rw [DecodedCache.getCurrent?_of_get?_eq_some hdecoded]
  rfl

/-- **What is read for a target was decoded before or is on disk**, at some moment on the way, and
no invariant suffers that does not mind accesses and dropped interfaces. -/
theorem maintains_stored {setup : Setup} {s : LoadState} {inv : LoadState → Prop}
    {frames : List ModuleName} {target : Target} (hs : inv s)
    (haccess : ∀ s, inv s → inv s.access)
    (hdrop : ∀ s onDisk, inv s →
      inv (s.withDecoded (s.caches.decoded.getCurrent? target.name onDisk).2)) :
    (setup.stored target).Maintains inv frames s fun result _ =>
      ∀ i, result = .ok i → ∃ s₁, inv s₁ ∧
        (s₁.caches.decoded.get? target.name = some i ∨
          setup.store.readInterface? setup.codec target.interfacePath s₁.world.disk = some i) := by
  have hs₁ : inv (setup.lookedUp s target) := hdrop s.access _ (haccess s hs)
  have hs₃ := haccess _ (haccess _ hs₁)
  intro r s' hrun
  cases looksUp_of_run hrun with
  | decoded hdecoded _ _ =>
    refine ⟨hs₁, .of_eq rfl, fun j hj => ⟨s, hs, .inl ?_⟩⟩
    rw [← Except.ok.inj hj]
    exact hdecoded
  | absent _ => exact ⟨haccess _ hs₁, .of_eq rfl, nofun⟩
  | unreadable _ => exact ⟨hs₃, .of_eq rfl, nofun⟩
  | read hread =>
    refine ⟨hs₃, .of_eq rfl, fun j hj => ⟨_, hs₃, .inr ?_⟩⟩
    rw [← Except.ok.inj hj]
    exact hread

/-- The headers that sessions write can be read. -/
theorem readable_store (setup : Setup) : setup.store.Readable := by
  have hversion : Wire.textFits compilerVersion = true := by decide
  have hlength : 4 + (Wire.writeUInt32 Artifact.formatVersion).length +
      (Wire.writeText compilerVersion).length + 48 ≤ Artifact.headerLimit := by decide
  exact ArtifactStore.readable_of_lengths hversion hlength

/-- **What is written for a target**, and what is kept then. -/
theorem run_persist (target : Target) (i : Interface) :
    (setup.persist target i).run.run s = some (
      let written := setup.store.write setup.codec target.interfacePath i s.nextDisk
      let s₁ := s.access.withDisk written.2
      match written.1 with
      | .ok durable => (.ok durable, s₁.keep target.name durable)
      | .error e => (.error (.cache e), s₁)) := by
  unfold persist
  rw [Load.run_bind, run_disk]
  dsimp only [Option.bind_some]
  cases setup.store.write setup.codec target.interfacePath i s.nextDisk with
  | mk result disk => cases result <;> rfl

/-- **How writing an interface for a target ends.** -/
inductive Persists (setup : Setup) (target : Target) (i : Interface) (s : LoadState) :
    Except LoadError Interface → LoadState → Prop where
  /-- It is written and read back, and what is read is kept. -/
  | written {durable : Interface} {d : Disk} :
      setup.store.write setup.codec target.interfacePath i s.nextDisk = (.ok durable, d) →
      Persists setup target i s (.ok durable) ((s.access.withDisk d).keep target.name durable)
  /-- It cannot be written, or read back. -/
  | failed {e : CacheError} {d : Disk} :
      setup.store.write setup.codec target.interfacePath i s.nextDisk = (.error e, d) →
      Persists setup target i s (.error (.cache e)) (s.access.withDisk d)

variable {setup s} in
theorem persists_of_run {target : Target} {i : Interface} {r : Except LoadError Interface}
    {s' : LoadState} (h : (setup.persist target i).run.run s = some (r, s')) :
    setup.Persists target i s r s' := by
  rw [run_persist] at h
  cases hwrite : setup.store.write setup.codec target.interfacePath i s.nextDisk with
  | mk result d =>
    rw [hwrite] at h
    cases result with
    | ok durable =>
      obtain ⟨rfl, rfl⟩ := Prod.mk.inj (Option.some.inj h)
      exact .written hwrite
    | error e =>
      obtain ⟨rfl, rfl⟩ := Prod.mk.inj (Option.some.inj h)
      exact .failed hwrite

/-- The end of a load that reuses an interface looks at the settled modules only. -/
theorem run_reuse (scope : ImportedScope) (i : Interface) (warnings : List Diagnostic) :
    (reuse scope i warnings).run.run s = some (
      match scope.mergeWithImports s.caches.visited i with
      | .ok merged => (.ok (⟨i, warnings⟩, merged), s)
      | .error e => (.error e, s)) := by
  unfold reuse
  rw [Load.run_bind, run_get]
  dsimp only [Option.bind_some]
  cases scope.mergeWithImports s.caches.visited i <;> rfl

/-- **Writing an interface for a target maintains an invariant**, if the disk that this leads to and
the interface that is kept have nothing against it; and what is read back is the same. -/
theorem maintains_persist {setup : Setup} (hcodec : setup.codec.Faithful) {s : LoadState}
    {inv : LoadState → Prop} {frames : List ModuleName} {target : Target} {i : Interface}
    (hwritten : inv (s.access.withDisk
      (setup.store.write setup.codec target.interfacePath i s.nextDisk).2))
    (hkeep : ∀ disk, inv (s.access.withDisk disk) →
      inv ((s.access.withDisk disk).keep target.name i)) :
    (setup.persist target i).Maintains inv frames s fun durable _ => durable = i := by
  intro r s' hrun
  cases persists_of_run hrun with
  | written hwrite =>
    rw [hwrite] at hwritten
    obtain rfl := ArtifactStore.eq_of_write setup.readable_store hcodec hwrite
    exact ⟨hkeep _ hwritten, .of_eq rfl, rfl⟩
  | failed hwrite =>
    rw [hwrite] at hwritten
    exact ⟨hwritten, .of_eq rfl⟩

end Setup

end ModuleLoader
