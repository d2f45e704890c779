import ModuleLoader.Proofs.Load.Chronicle
import ModuleLoader.Proofs.Load.Conditional
import ModuleLoader.Proofs.Project.Derivation

/-!
# Interfaces that are carried over

A session may begin with interfaces that another one has decoded, and what it has decoded is looked
at before a file is read. That should save time and change nothing. Two states are alike here if
they differ in decoded interfaces only, and for each module hold the same one or, each of them, one
that was carried over or none (`LoadState.Alike`). A load does the same in both, and leaves them
alike (`Load.Mirrors`); this is shown along the functions of the loader.

The one step that could tell the two states apart is the look at what is stored for a target. There
a carried interface is taken for the artifact if the header of the file has its digest. It is the
artifact if the file reads in full, if both are sealed and if their digests do not collide
(`Setup.run_stored_of_carries`). The first two are properties of the disk, which the loader keeps
(`Disk.Intact.write`). Collisions are excluded by a condition on the resolutions of the one load.
-/

namespace ModuleLoader

open Load

/-! ## Decoded interfaces -/

namespace DecodedCache

variable {c : DecodedCache} {module : ModuleName} {onDisk : Option Digest}

/-- The interfaces that are kept. -/
def interfaces (c : DecodedCache) : Set Interface := { i | ∃ module, c.get? module = some i }

/-- **What is answered depends on what is kept for the module.** -/
theorem getCurrent?_congr {c' : DecodedCache} (h : c.get? module = c'.get? module)
    (onDisk : Option Digest) :
    (c.getCurrent? module onDisk).1 = (c'.getCurrent? module onDisk).1 ∧
      (c.getCurrent? module onDisk).2.get? module
        = (c'.getCurrent? module onDisk).2.get? module := by
  unfold getCurrent?
  rw [h]
  cases hget : c'.get? module with
  | none => exact ⟨rfl, h.trans rfl⟩
  | some i =>
    dsimp only
    split
    · exact ⟨rfl, h⟩
    · refine ⟨rfl, ?_⟩
      rw [get?_erase, get?_erase, if_pos rfl, if_pos rfl]

end DecodedCache

/-! ## Intact disks -/

/-- **An intact disk**: every artifact on it whose header can be read also reads in full, as an
interface that is sealed. -/
def Disk.Intact (codec : Codec) (d : Disk) : Prop :=
  ∀ directory root module content header,
    d.at? (placeOf (ArtifactStore.interfacePath ⟨directory, Setup.compilerVersion⟩ root module))
      = some (.file content) →
    Artifact.header? Setup.compilerVersion content = some header →
    ∃ i, Artifact.interface? Setup.compilerVersion codec content = some i ∧ i.Sealed codec

namespace Disk.Intact

variable {setup : Setup} {d : Disk}

/-- What is on an intact disk is sealed. -/
theorem sealed_of_onDisk (hd : d.Intact setup.codec) {i : Interface}
    (hi : i.OnDisk Setup.compilerVersion setup.codec d) : i.Sealed setup.codec := by
  obtain ⟨directory, root, module, content, hfile, hinterface⟩ := hi
  obtain ⟨header, hheader, -⟩ := Artifact.header?_of_interface? hinterface
  obtain ⟨j, hj, hsealed⟩ := hd directory root module content header hfile hheader
  obtain rfl : j = i := Option.some.inj (hj.symm.trans hinterface)
  exact hsealed

/-- **Where the header of an artifact can be read the interface can**, and it has
the same digest. -/
theorem exists_of_headerAt (hd : d.Intact setup.codec) {target : Target}
    (hplaced : setup.Placed target) {header : Artifact.Header}
    (h : setup.headerAt target d = some header) :
    ∃ i : Interface, setup.store.readInterface? setup.codec target.interfacePath d = some i ∧
      i.OnDisk Setup.compilerVersion setup.codec d ∧ i.fullHash = header.fullHash := by
  obtain ⟨_, found, -, hpath⟩ := hplaced
  obtain ⟨content, hread, hheader⟩ := Option.bind_eq_some_iff.1 h
  obtain ⟨place, hlocate, hfile⟩ := Disk.read?_eq_some_iff.1 hread
  rw [← Disk.placeOf_of_locate hlocate, hpath] at hfile
  obtain ⟨i, hinterface, -⟩ := hd _ found.root target.name content header hfile hheader
  obtain ⟨header', hheader', hhash, -⟩ := Artifact.header?_of_interface? hinterface
  obtain rfl : header' = header := Option.some.inj (hheader'.symm.trans hheader)
  refine ⟨i, ?_, ⟨_, found.root, target.name, content, hfile, hinterface⟩, hhash.symm⟩
  unfold ArtifactStore.readInterface?
  rw [hread]
  exact hinterface

/-- **Writing a sealed interface keeps a disk intact.** -/
theorem write (hcodec : setup.codec.Faithful) (hd : d.Intact setup.codec) (path : Path)
    {i : Interface} (hi : i.Sealed setup.codec) :
    (setup.store.write setup.codec path i d).2.Intact setup.codec := by
  intro directory root module content header hfile hheader
  cases hwrite : setup.store.write setup.codec path i d with
  | mk result d' =>
    rw [hwrite] at hfile
    cases result with
    | error e =>
      exact hd directory root module content header
        (ArtifactStore.file_of_write_error hwrite hfile) hheader
    | ok j =>
      have hafter : (setup.store.write setup.codec path i d).2.at? (placeOf
          (ArtifactStore.interfacePath ⟨directory, Setup.compilerVersion⟩ root module))
          = some (.file content) := by rw [hwrite]; exact hfile
      obtain hbefore | ⟨payload, hplace, -, -⟩ := ArtifactStore.file_of_write hafter
      · exact hd directory root module content header hbefore hheader
      · obtain ⟨found, hfound, hreads⟩ :=
          ArtifactStore.at?_of_write_ok setup.readable_store hcodec hwrite
        rw [← hplace, hfile] at hfound
        obtain rfl : content = found := by simpa using hfound
        exact ⟨i, hreads, hi⟩

end Disk.Intact

/-! ## Alike states -/

namespace LoadState

/-- What is kept for a module was carried over. -/
def Carries (carried : Set Interface) (module : ModuleName) (s : LoadState) : Prop :=
  ∀ i, s.caches.decoded.get? module = some i → i ∈ carried

/-- Two states keep the same for a module. -/
def AgreeAt (module : ModuleName) (s t : LoadState) : Prop :=
  s.caches.decoded.get? module = t.caches.decoded.get? module

/-- **Two states are alike** in a quiet world and on an intact disk: they differ in decoded
interfaces at most, and where they do, these were carried over. -/
structure Alike (codec : Codec) (carried : Set Interface) (s t : LoadState) : Prop where
  /-- The same modules are settled. -/
  visited : t.caches.visited = s.caches.visited
  /-- The same sources are remembered. -/
  sources : t.caches.sources = s.caches.sources
  /-- The world is the same. -/
  world : t.world = s.world
  /-- Nobody else changes the disk. -/
  quiet : s.world.outside = []
  /-- The disk is intact. -/
  intact : s.world.disk.Intact codec
  /-- The same is kept for a module, or what was carried over. -/
  decoded : ∀ module, AgreeAt module s t ∨ s.Carries carried module ∧ t.Carries carried module

namespace Alike

variable {codec : Codec} {carried : Set Interface} {s t : LoadState}

theorem symm (h : Alike codec carried s t) : Alike codec carried t s where
  visited := h.visited.symm
  sources := h.sources.symm
  world := h.world.symm
  quiet := h.world ▸ h.quiet
  intact := h.world ▸ h.intact
  decoded module := (h.decoded module).imp Eq.symm And.symm

theorem access_left (h : Alike codec carried s t) : s.access = s := access_of_quiet h.quiet

theorem access_right (h : Alike codec carried s t) : t.access = t := h.symm.access_left

theorem nextDisk_left (h : Alike codec carried s t) : s.nextDisk = s.world.disk :=
  nextDisk_of_quiet h.quiet

theorem nextDisk_right (h : Alike codec carried s t) : t.nextDisk = s.world.disk := by
  rw [h.symm.nextDisk_left, h.world]

theorem record (h : Alike codec carried s t) (event : Event) :
    Alike codec carried (s.record event) (t.record event) :=
  ⟨h.visited, h.sources, congrArg (World.record · event) h.world, h.quiet, h.intact, h.decoded⟩

theorem withDisk (h : Alike codec carried s t) {d : Disk} (hd : d.Intact codec) :
    Alike codec carried (s.withDisk d) (t.withDisk d) :=
  ⟨h.visited, h.sources, congrArg (fun world : World => { world with disk := d }) h.world, h.quiet,
    hd, h.decoded⟩

theorem withSources (h : Alike codec carried s t) (sources : SourceCache) :
    Alike codec carried (s.withSources sources) (t.withSources sources) :=
  ⟨h.visited, rfl, h.world, h.quiet, h.intact, h.decoded⟩

theorem settle (h : Alike codec carried s t) (module : ModuleName) (entry : VisitedEntry) :
    Alike codec carried (s.settle module entry) (t.settle module entry) :=
  ⟨congrArg (VisitedCache.record · module entry) h.visited, h.sources, h.world, h.quiet, h.intact,
    h.decoded⟩

/-- **What is kept from now on is the same**, and for other modules nothing changes. -/
theorem keep (h : Alike codec carried s t) (module : ModuleName) (i : Interface) :
    Alike codec carried (s.keep module i) (t.keep module i) ∧
      AgreeAt module (s.keep module i) (t.keep module i) := by
  have hget : ∀ (u : LoadState) m, (u.keep module i).caches.decoded.get? m
      = if m = module then some i else u.caches.decoded.get? m :=
    fun u m => DecodedCache.get?_insert u.caches.decoded module i m
  refine ⟨⟨h.visited, h.sources, h.world, h.quiet, h.intact, fun m => ?_⟩, ?_⟩
  · unfold AgreeAt Carries
    simp only [hget]
    by_cases hm : m = module
    · simp only [if_pos hm]
      exact .inl trivial
    · simp only [if_neg hm]
      exact h.decoded m
  · unfold AgreeAt
    simp only [hget, if_true]

/-- **Asking for a module** in both states leaves them alike. -/
theorem getCurrent? (h : Alike codec carried s t) (module : ModuleName) (onDisk : Option Digest) :
    Alike codec carried (s.withDecoded (s.caches.decoded.getCurrent? module onDisk).2)
      (t.withDecoded (t.caches.decoded.getCurrent? module onDisk).2) := by
  refine ⟨h.visited, h.sources, h.world, h.quiet, h.intact, fun m => ?_⟩
  by_cases hm : m = module
  · subst hm
    obtain hsame | ⟨hs, ht⟩ := h.decoded m
    · exact .inl (DecodedCache.getCurrent?_congr hsame onDisk).2
    · exact .inr ⟨fun i hi => hs i (DecodedCache.get?_of_getCurrent? hi),
        fun i hi => ht i (DecodedCache.get?_of_getCurrent? hi)⟩
  · have hget : ∀ u : LoadState,
        (u.withDecoded (u.caches.decoded.getCurrent? module onDisk).2).caches.decoded.get? m
          = u.caches.decoded.get? m :=
      fun u => DecodedCache.get?_getCurrent?_of_ne u.caches.decoded onDisk hm
    unfold AgreeAt Carries
    rw [hget s, hget t]
    exact h.decoded m

end Alike

end LoadState

open LoadState

/-! ## Loads that mirror one another -/

/-- **A load mirrors another one**, from two states: whatever the one comes to, the other comes to
as well, and the states that they leave are alike again. Of a result and these states something
holds. -/
def Load.Mirrors {α : Type} (codec : Codec) (carried : Set Interface) (load load' : Load α)
    (s t : LoadState) (ok : α → LoadState → LoadState → Prop) : Prop :=
  ∀ r s', load.run.run s = some (r, s') → ∃ t', load'.run.run t = some (r, t') ∧
    Alike codec carried s' t' ∧ ∀ a, r = .ok a → ok a s' t'

namespace Load.Mirrors

variable {α β : Type} {codec : Codec} {carried : Set Interface} {load load' : Load α}
  {s t : LoadState} {ok ok' : α → LoadState → LoadState → Prop}

theorem mono (h : Mirrors codec carried load load' s t ok)
    (hok : ∀ a s' t', Alike codec carried s' t' → ok a s' t' → ok' a s' t') :
    Mirrors codec carried load load' s t ok' := by
  intro r s' hrun
  obtain ⟨t', hrun', halike, hr⟩ := h r s' hrun
  exact ⟨t', hrun', halike, fun a ha => hok a s' t' halike (hr a ha)⟩

/-- Two loads whose outcomes are plain to see. -/
theorem of_run {r : Except LoadError α} {s' t' : LoadState} (hs : load.run.run s = some (r, s'))
    (ht : load'.run.run t = some (r, t')) (halike : Alike codec carried s' t')
    (hok : ∀ a, r = .ok a → ok a s' t') : Mirrors codec carried load load' s t ok := by
  intro r₁ s₁ hrun
  obtain ⟨rfl, rfl⟩ := Prod.mk.inj (Option.some.inj (hs.symm.trans hrun))
  exact ⟨t', ht, halike, hok⟩

theorem pure (halike : Alike codec carried s t) {a : α} (hok : ok a s t) :
    Mirrors codec carried (Pure.pure a) (Pure.pure a) s t ok :=
  of_run rfl rfl halike fun _ ha => Except.ok.inj ha ▸ hok

theorem throw (halike : Alike codec carried s t) (e : LoadError) :
    Mirrors codec carried (MonadExcept.throw e) (MonadExcept.throw e) s t ok :=
  of_run rfl rfl halike nofun

theorem ofExcept (halike : Alike codec carried s t) (result : Except LoadError α) :
    Mirrors codec carried (Load.ofExcept result) (Load.ofExcept result) s t
      fun a s' t' => result = .ok a ∧ s' = s ∧ t' = t :=
  of_run rfl rfl halike fun _ ha => ⟨ha, rfl, rfl⟩

/-- **One load after another.** -/
theorem bind {next next' : α → Load β} {ok' : β → LoadState → LoadState → Prop}
    (h : Mirrors codec carried load load' s t ok)
    (hnext : ∀ a s' t', Alike codec carried s' t' → ok a s' t' →
      Mirrors codec carried (next a) (next' a) s' t' ok') :
    Mirrors codec carried (load >>= next) (load' >>= next') s t ok' := by
  intro r s'' hrun
  rw [run_bind] at hrun
  obtain ⟨⟨r₁, s'⟩, hrun₁, hrun⟩ := Option.bind_eq_some_iff.1 hrun
  obtain ⟨t', hrun₁', halike, hok⟩ := h r₁ s' hrun₁
  cases r₁ with
  | error e =>
    obtain ⟨rfl, rfl⟩ := Prod.mk.inj (Option.some.inj hrun)
    refine ⟨t', ?_, halike, nofun⟩
    rw [run_bind, hrun₁']
    rfl
  | ok a =>
    obtain ⟨t'', hrun', hafter⟩ := hnext a s' t' halike (hok a rfl) r s'' hrun
    refine ⟨t'', ?_, hafter⟩
    rw [run_bind, hrun₁']
    exact hrun'

/-- A failure that is looked at is no failure any more. -/
theorem outcome (h : Mirrors codec carried load load' s t ok) :
    Mirrors codec carried load.outcome load'.outcome s t fun _ _ _ => True := by
  intro r s' hrun
  rw [run_outcome] at hrun
  obtain ⟨⟨r₁, s₁⟩, hload, heq⟩ := Option.map_eq_some_iff.1 hrun
  obtain ⟨rfl, rfl⟩ := Prod.mk.inj heq
  obtain ⟨t', hload', halike, -⟩ := h r₁ s₁ hload
  refine ⟨t', ?_, halike, fun _ _ => trivial⟩
  rw [run_outcome, hload']
  rfl

end Load.Mirrors

/-! ## The look at what is stored -/

namespace Setup

/-- **A setup for which it is safe to carry some interfaces over**: what was encoded can be decoded,
they are sealed, checkers keep intact disks intact, and on the disks of a kind no digest of theirs
collides with another one. -/
structure CarriesSafely (setup : Setup) (carried : Set Interface) (p : Disk → Prop) : Prop where
  /-- The codec is faithful. -/
  faithful : setup.codec.Faithful
  /-- What is carried over is sealed. -/
  isSealed : ∀ i ∈ carried, i.Sealed setup.codec
  /-- Checkers keep intact disks intact. -/
  edits : ∀ change, setup.MayEdit change → ∀ d d' : Disk, d.Intact setup.codec →
    change d = .ok d' → d'.Intact setup.codec
  /-- No two of the interfaces that are carried over or on such a disk have one digest. -/
  injOn : ∀ d, p d → Set.InjOn Digest.ofBytes (Interface.allBytes setup.codec
    (carried ∪ { i | i.OnDisk compilerVersion setup.codec d }))

variable {setup : Setup} {carried : Set Interface} {p : Disk → Prop} {s t : LoadState}
  {target : Target}

/-- The artifact of a target on a disk, if there is one that can be read. -/
def storedOn (setup : Setup) (target : Target) (d : Disk) : Except StalenessReason Interface :=
  if d.exists? target.interfacePath then
    match setup.store.readInterface? setup.codec target.interfacePath d with
    | some i => .ok i
    | none => .error .undecodable
  else .error .noInterface

/-- The digest in the header of the artifact of a target. -/
def digestOn (setup : Setup) (target : Target) (d : Disk) : Option Digest :=
  (setup.headerAt target d).map Artifact.Header.fullHash

/-- **What is stored for a target, in a quiet world**: the decoded interface if it is current, and
otherwise what is on disk. -/
theorem run_stored_of_quiet (hquiet : s.world.outside = []) (target : Target) :
    (setup.stored target).run.run s = some (
      let found := s.caches.decoded.getCurrent? target.name (setup.digestOn target s.world.disk)
      (.ok (match found.1 with
        | some i => .ok i
        | none => setup.storedOn target s.world.disk), s.withDecoded found.2)) := by
  have haccess : ∀ decoded, (s.withDecoded decoded).access = s.withDecoded decoded :=
    fun decoded => access_of_quiet hquiet
  rw [run_stored, nextDisk_of_quiet hquiet, access_of_quiet hquiet]
  unfold digestOn storedOn nextDisk
  dsimp only
  cases s.caches.decoded.getCurrent? target.name
    ((setup.headerAt target s.world.disk).map Artifact.Header.fullHash) with
  | mk found decoded =>
    cases found with
    | some i => rfl
    | none =>
      have hdisk : (s.withDecoded decoded).world.disk = s.world.disk := rfl
      dsimp only
      rw [haccess, haccess, hdisk]
      split <;> rfl

/-- **A carried interface that is taken for the artifact is the artifact**: what is found is what is
on disk, if the disk is intact and no digests collide on it. -/
theorem run_stored_of_carries (hsafe : setup.CarriesSafely carried p)
    (hquiet : s.world.outside = []) (hintact : s.world.disk.Intact setup.codec)
    (hp : p s.world.disk) (hplaced : setup.Placed target)
    (hcarries : s.Carries carried target.name) :
    (setup.stored target).run.run s = some (.ok (setup.storedOn target s.world.disk),
      s.withDecoded (s.caches.decoded.getCurrent? target.name
        (setup.digestOn target s.world.disk)).2) := by
  rw [run_stored_of_quiet hquiet]
  dsimp only
  split
  · rename_i i hfound
    obtain ⟨hkept, honDisk⟩ := DecodedCache.fullHash_of_getCurrent? hfound
    obtain ⟨header, hheader, hhash⟩ := Option.map_eq_some_iff.1 honDisk
    obtain ⟨j, hread, hj, hhash'⟩ := hintact.exists_of_headerAt hplaced hheader
    have hmem : i ∈ carried := hcarries i hkept
    -- Both are sealed and have the digest in the header, so they are one interface.
    obtain rfl : i = j :=
      Interface.Sealed.eq_of_fullHash hsafe.faithful (hsafe.injOn _ hp) (hsafe.isSealed i hmem)
        (hintact.sealed_of_onDisk hj) (fun bytes hbytes => ⟨i, .inl hmem, hbytes⟩)
        (fun bytes hbytes => ⟨j, .inr hj, hbytes⟩) (hhash.symm.trans hhash'.symm)
    unfold storedOn
    rw [if_pos (ArtifactStore.exists?_of_readInterface? hread), hread]
  · rfl

/-- **The look at what is stored for a target comes to the same**, if the two states keep the same
for it or else no digests collide. -/
theorem mirrors_stored (hsafe : setup.CarriesSafely carried p)
    (h : Alike setup.codec carried s t) (hplaced : setup.Placed target)
    (hready : AgreeAt target.name s t ∨ p s.world.disk) :
    Mirrors setup.codec carried (setup.stored target) (setup.stored target) s t
      fun _ _ _ => True := by
  have halike := h.getCurrent? target.name (setup.digestOn target s.world.disk)
  by_cases hagree : AgreeAt target.name s t
  · obtain ⟨hsame, -⟩ := DecodedCache.getCurrent?_congr hagree
      (setup.digestOn target s.world.disk)
    refine .of_run (run_stored_of_quiet h.quiet target) ?_ halike fun _ _ => trivial
    rw [run_stored_of_quiet h.symm.quiet, h.world]
    dsimp only
    rw [hsame]
  · have hp : p s.world.disk := hready.resolve_left hagree
    obtain ⟨hs, ht⟩ := (h.decoded target.name).resolve_left hagree
    refine .of_run (run_stored_of_carries hsafe h.quiet h.intact hp hplaced hs) ?_ halike
      fun _ _ => trivial
    have hrun := run_stored_of_carries hsafe h.symm.quiet h.symm.intact (h.world ▸ hp) hplaced ht
    rw [h.world] at hrun
    exact hrun

/-! ## The other steps -/

/-- A module is located on the same disk. -/
theorem mirrors_locate (h : Alike setup.codec carried s t) (module : ModuleName) :
    Mirrors setup.codec carried (setup.locate module) (setup.locate module) s t
      fun target s' _ => setup.Placed target ∧ s'.world.disk = s.world.disk := by
  have hs := setup.run_locate s module
  have ht := setup.run_locate t module
  rw [h.nextDisk_left, h.access_left, h.nextDisk_left, h.access_left] at hs
  rw [h.nextDisk_right, h.access_right, h.nextDisk_right, h.access_right, h.sources] at ht
  cases hfound : setup.finder module s.world.disk with
  | error e =>
    rw [hfound] at hs ht
    exact .of_run hs ht h nofun
  | ok found =>
    rw [hfound] at hs ht
    dsimp only at hs ht
    cases hload : s.caches.sources.load s.world.disk found.source with
    | error fault =>
      rw [hload] at hs ht
      exact .of_run hs ht h nofun
    | ok r =>
      rw [hload] at hs ht
      refine .of_run hs ht (h.withSources r.2) fun target htarget => ⟨?_, rfl⟩
      rw [← Except.ok.inj htarget]
      exact setup.placed_targetAt hfound _

/-- The source of a target is read again on the same disk. -/
theorem mirrors_refresh (h : Alike setup.codec carried s t) (hplaced : setup.Placed target) :
    Mirrors setup.codec carried (refresh target) (refresh target) s t fun target' s' t' =>
      setup.Placed target' ∧ target'.name = target.name ∧ s'.world.disk = s.world.disk ∧
        (AgreeAt target.name s t → AgreeAt target.name s' t') := by
  have hs := run_refresh s target
  have ht := run_refresh t target
  rw [h.nextDisk_left, h.access_left] at hs
  rw [h.nextDisk_right, h.access_right, h.sources] at ht
  cases hload : s.caches.sources.reload s.world.disk target.source.path with
  | error fault =>
    rw [hload] at hs ht
    exact .of_run hs ht h nofun
  | ok r =>
    rw [hload] at hs ht
    refine .of_run hs ht (h.withSources r.2) fun target' htarget => ?_
    rw [← Except.ok.inj htarget]
    exact ⟨hplaced, rfl, rfl, id⟩

/-- An interface is kept in both states. -/
theorem mirrors_keep (h : Alike setup.codec carried s t) (module : ModuleName) (i : Interface) :
    Mirrors setup.codec carried (Load.keep module i) (Load.keep module i) s t
      fun _ s' t' => AgreeAt module s' t' :=
  .of_run rfl rfl (h.keep module i).1 fun _ _ => (h.keep module i).2

/-- An event is recorded in both states. -/
theorem mirrors_record (h : Alike setup.codec carried s t) (event : Event) :
    Mirrors setup.codec carried (Load.record event) (Load.record event) s t fun _ _ _ => True :=
  .of_run rfl rfl (h.record event) fun _ _ => trivial

/-- A module is settled in both states. -/
theorem mirrors_settle (h : Alike setup.codec carried s t) (module : ModuleName)
    (entry : VisitedEntry) :
    Mirrors setup.codec carried (Load.settle module entry) (Load.settle module entry) s t
      fun _ _ _ => True :=
  .of_run rfl rfl ((h.settle module entry).record (.settled module)) fun _ _ => trivial

/-- The same modules are settled. -/
theorem mirrors_visited? (h : Alike setup.codec carried s t) (module : ModuleName) :
    Mirrors setup.codec carried (Load.visited? module) (Load.visited? module) s t
      fun _ s' _ => s' = s := by
  have ht : (Load.visited? module).run.run t
      = some (.ok (s.caches.visited.get? module), t) := by
    rw [← h.visited]
    rfl
  exact .of_run rfl ht h fun _ _ => rfl

/-- A permitted change of the disk is made, or refused, in both states. -/
theorem mirrors_edit (hsafe : setup.CarriesSafely carried p) (h : Alike setup.codec carried s t)
    {change : Disk → Except DiskFault Disk} (hedit : setup.MayEdit change) :
    Mirrors setup.codec carried (Load.edit change) (Load.edit change) s t fun _ _ _ => True := by
  have hs := Load.run_edit s change
  have ht := Load.run_edit t change
  rw [h.nextDisk_left, h.access_left] at hs
  rw [h.nextDisk_right, h.access_right] at ht
  cases hchange : change s.world.disk with
  | error fault =>
    rw [hchange] at hs ht
    exact .of_run hs ht h fun _ _ => trivial
  | ok d =>
    rw [hchange] at hs ht
    exact .of_run hs ht (h.withDisk (hsafe.edits change hedit _ _ h.intact hchange))
      fun _ _ => trivial

/-- **A sealed interface is written in both states**, and kept. -/
theorem mirrors_persist (hsafe : setup.CarriesSafely carried p) (h : Alike setup.codec carried s t)
    {i : Interface} (hi : i.Sealed setup.codec) :
    Mirrors setup.codec carried (setup.persist target i) (setup.persist target i) s t
      fun _ s' t' => AgreeAt target.name s' t' := by
  have hs := setup.run_persist s target i
  have ht := setup.run_persist t target i
  rw [h.nextDisk_left, h.access_left] at hs
  rw [h.nextDisk_right, h.access_right] at ht
  have hwritten := h.withDisk (h.intact.write hsafe.faithful target.interfacePath hi)
  cases hwrite : setup.store.write setup.codec target.interfacePath i s.world.disk with
  | mk result d =>
    rw [hwrite] at hs ht hwritten
    cases result with
    | error e => exact .of_run hs ht hwritten nofun
    | ok durable =>
      exact .of_run hs ht (hwritten.keep target.name durable).1
        fun _ _ => (hwritten.keep target.name durable).2

/-! ## The functions of the loader -/

end Setup

/-- **One way of importing mirrors another one.** -/
def Importer.Mirrors (codec : Codec) (carried : Set Interface) (importer importer' : Importer) :
    Prop :=
  ∀ scope module s t, Alike codec carried s t →
    Load.Mirrors codec carried (importer scope module) (importer' scope module) s t
      fun _ _ _ => True

namespace Setup

section Importing

variable {setup : Setup} {carried : Set Interface} {p : Disk → Prop} {s t : LoadState}
  {target : Target} {importer importer' : Importer}
  (himporter : importer.Mirrors setup.codec carried importer')

include himporter

/-- Recorded imports are compared in both states. -/
theorem mirrors_changedImport? (scope : ImportedScope) (imports : List (ModuleName × Digest))
    (h : Alike setup.codec carried s t) :
    Mirrors setup.codec carried (Interface.changedImport? (currentHash importer scope) imports)
      (Interface.changedImport? (currentHash importer' scope) imports) s t fun _ _ _ => True := by
  induction imports generalizing s t with
  | nil => exact .pure h trivial
  | cons e rest ih =>
    unfold Interface.changedImport? currentHash
    refine ((himporter scope e.1 s t h).bind fun entry s₁ t₁ h₁ _ => .pure h₁ trivial).bind
      fun digest s₂ t₂ h₂ (_ : True) => ?_
    split
    · exact ih h₂
    · exact .pure h₂ trivial

/-- A module is imported into a context in both states. -/
theorem mirrors_importInto (h : Alike setup.codec carried s t) (context : CheckContext)
    (imported : ModuleName) :
    Mirrors setup.codec carried (setup.importInto importer context imported)
      (setup.importInto importer' context imported) s t fun _ _ _ => True := by
  rw [importInto_eq, importInto_eq]
  exact (himporter context.scope imported s t h).outcome.bind fun _ _ _ h₁ _ => .pure h₁ trivial

/-- A request is answered in both states: of the changes it may ask for. -/
theorem mirrors_answer (hsafe : setup.CarriesSafely carried p) (h : Alike setup.codec carried s t)
    (context : CheckContext) (request : Request)
    (hedits : ∀ change, request = .edit change → setup.MayEdit change) :
    Mirrors setup.codec carried (setup.answer importer context request)
      (setup.answer importer' context request) s t fun _ _ _ => True := by
  cases request with
  | resolve imported => exact mirrors_importInto himporter h context imported
  | context => exact .pure h trivial
  | setOptions options => exact .pure h trivial
  | warn warning => exact .pure h trivial
  | read path =>
    have hdisk : Mirrors setup.codec carried Load.disk Load.disk s t fun _ _ _ => True := by
      have ht := Load.run_disk t
      rw [h.nextDisk_right, h.access_right, ← h.nextDisk_left] at ht
      refine .of_run (Load.run_disk s) ht ?_ fun _ _ => trivial
      rw [h.access_left]
      exact h
    exact hdisk.bind fun _ _ _ h₁ _ => .pure h₁ trivial
  | edit change =>
    exact (mirrors_edit hsafe h (hedits change rfl)).bind fun _ _ _ h₁ _ => .pure h₁ trivial
  | note text => exact (mirrors_record h _).bind fun _ _ _ h₁ _ => .pure h₁ trivial

/-- **A check runs in the same way in both states**, by induction on its requests. -/
theorem mirrors_run (hsafe : setup.CarriesSafely carried p) {α : Type} (check : Check α)
    (hedits : ∀ change, check.Edits change → setup.MayEdit change) (context : CheckContext)
    (h : Alike setup.codec carried s t) :
    Mirrors setup.codec carried (setup.run importer context check)
      (setup.run importer' context check) s t fun _ _ _ => True := by
  induction check generalizing context s t with
  | done result => exact .pure h trivial
  | fail error => exact .throw h error
  | ask request next ih =>
    refine (mirrors_answer himporter hsafe h context request ?_).bind fun r s₁ t₁ h₁ _ => ?_
    · rintro change rfl
      exact hedits change .now
    · exact ih r.1 (fun change hchange => hedits change (.later r.1 hchange)) r.2 h₁

/-- **A target is validated in both states.** -/
theorem mirrors_validate (hsafe : setup.CarriesSafely carried p)
    (h : Alike setup.codec carried s t) (hplaced : setup.Placed target)
    (hready : AgreeAt target.name s t ∨ p s.world.disk) (scope : ImportedScope) :
    Mirrors setup.codec carried (setup.validate importer target scope)
      (setup.validate importer' target scope) s t fun _ _ _ => True := by
  unfold validate
  refine (mirrors_stored hsafe h hplaced hready).bind fun r s₁ t₁ h₁ _ => ?_
  cases r with
  | error reason => exact .pure h₁ trivial
  | ok i =>
    dsimp only
    split
    · exact .pure h₁ trivial
    · refine (mirrors_changedImport? himporter scope i.imports h₁).bind fun reason s₂ t₂ h₂ _ => ?_
      cases reason with
      | some reason => exact .pure h₂ trivial
      | none => exact (mirrors_keep h₂ target.name i).bind fun _ _ _ h₃ _ => .pure h₃ trivial

/-- **A target is checked in both states.** What was written is kept in both. -/
theorem mirrors_build (hsafe : setup.CarriesSafely carried p) (h : Alike setup.codec carried s t)
    (mode : CheckMode) (scope : ImportedScope) :
    Mirrors setup.codec carried (setup.build importer target mode scope)
      (setup.build importer' target mode scope) s t
      fun built s' t' => built.persisted = true → AgreeAt target.name s' t' := by
  unfold build
  refine (mirrors_record h _).bind fun _ s₁ t₁ h₁ _ => ?_
  refine (mirrors_run himporter hsafe _ ?_ _ h₁).bind fun r s₂ t₂ h₂ _ => ?_
  · exact fun change hchange => ⟨target.name, target.source, mode, hchange⟩
  obtain ⟨checked, context⟩ := r
  dsimp only
  split
  · refine (Mirrors.ofExcept h₂ _).bind fun i s₃ t₃ h₃ hi => ?_
    have hsealed : i.Sealed setup.codec := by
      cases hsealing : (setup.interfaceOf target checked context).sealed setup.codec with
      | error e =>
        rw [hsealing] at hi
        exact absurd hi.1 nofun
      | ok j =>
        rw [hsealing] at hi
        obtain rfl : j = i := Except.ok.inj hi.1
        exact Interface.sealBytes_of_sealed hsealing
    split
    · exact (mirrors_persist hsafe h₃ hsealed).bind fun durable s₄ t₄ h₄ hagree =>
        .pure h₄ fun _ => hagree
    · exact .pure h₃ nofun
  · exact .throw h₂ _

/-- **A target is checked again in both states**, until what was written is up to date. -/
theorem mirrors_rebuild (hsafe : setup.CarriesSafely carried p) (scope : ImportedScope)
    (left : Nat) (h : Alike setup.codec carried s t) (hplaced : setup.Placed target) :
    Mirrors setup.codec carried (setup.rebuild importer scope left target)
      (setup.rebuild importer' scope left target) s t fun _ _ _ => True := by
  induction left generalizing target s t with
  | zero => exact .throw h _
  | succ left ih =>
    unfold rebuild
    refine (mirrors_build himporter hsafe h .batch scope).bind fun built s₁ t₁ h₁ hbuilt => ?_
    split
    · rename_i hpersisted
      -- What was written is what both states keep for the target, so no digests need be compared.
      refine (mirrors_refresh h₁ hplaced).bind fun target' s₂ t₂ h₂ htarget => ?_
      obtain ⟨hplaced', hname, -, hagree⟩ := htarget
      have hready : AgreeAt target'.name s₂ t₂ := hname ▸ hagree (hbuilt hpersisted)
      refine (mirrors_validate himporter hsafe h₂ hplaced' (.inl hready) scope).bind
        fun r s₃ t₃ h₃ _ => ?_
      cases r with
      | ok i => exact .pure h₃ trivial
      | error reason => exact ih h₃ hplaced'
    · exact .pure h₁ trivial

/-- The interface of a target is decided on in both states. -/
theorem mirrors_obtain (hsafe : setup.CarriesSafely carried p) (h : Alike setup.codec carried s t)
    (hplaced : setup.Placed target) (hp : p s.world.disk) (scope : ImportedScope) :
    Mirrors setup.codec carried (setup.obtain importer scope target)
      (setup.obtain importer' scope target) s t fun _ _ _ => True := by
  unfold obtain
  refine (mirrors_validate himporter hsafe h hplaced (.inr hp) scope).bind fun r s₁ t₁ h₁ _ => ?_
  cases r with
  | ok i => exact .pure h₁ trivial
  | error reason =>
    exact (mirrors_rebuild himporter hsafe scope setup.attempts h₁ hplaced).bind
      fun _ _ _ h₂ _ => .pure h₂ trivial

/-- A module is settled on request in both states. -/
theorem mirrors_settleImport (hsafe : setup.CarriesSafely carried p)
    (h : Alike setup.codec carried s t) (hp : p s.world.disk) (scope : ImportedScope)
    (module : ModuleName) :
    Mirrors setup.codec carried (setup.settleImport importer scope module)
      (setup.settleImport importer' scope module) s t fun _ _ _ => True := by
  unfold settleImport
  refine (mirrors_visited? h module).bind fun known s₁ t₁ h₁ hs₁ => ?_
  cases known with
  | some entry => exact .pure h₁ trivial
  | none =>
    refine (mirrors_locate h₁ module).bind fun target s₂ t₂ h₂ htarget => ?_
    obtain ⟨hplaced, hdisk⟩ := htarget
    have hp₂ : p s₂.world.disk := by
      rw [hdisk, hs₁]
      exact hp
    refine (mirrors_obtain himporter hsafe h₂ hplaced hp₂ scope).bind fun entry s₃ t₃ h₃ _ => ?_
    exact (mirrors_settle h₃ module entry).bind fun _ _ _ h₄ _ => .pure h₄ trivial

/-! ### Entry modules -/

omit himporter in
/-- An entry module is settled in both states, if the mode settles it. -/
theorem mirrors_settleEntry (h : Alike setup.codec carried s t) (mode : CheckMode)
    (module : ModuleName) (entry : VisitedEntry) :
    Mirrors setup.codec carried (settleEntry mode module entry) (settleEntry mode module entry) s t
      fun _ _ _ => True := by
  unfold settleEntry
  split
  · exact mirrors_settle h module entry
  · exact .pure h trivial

omit himporter in
/-- The same is merged at the end of a load that reuses an interface. -/
theorem mirrors_reuse (h : Alike setup.codec carried s t) (scope : ImportedScope) (i : Interface)
    (warnings : List Diagnostic) :
    Mirrors setup.codec carried (reuse scope i warnings) (reuse scope i warnings) s t
      fun _ _ _ => True := by
  have hs := run_reuse s scope i warnings
  have ht := run_reuse t scope i warnings
  rw [h.visited] at ht
  cases hmerge : scope.mergeWithImports s.caches.visited i with
  | error e =>
    rw [hmerge] at hs ht
    exact .of_run hs ht h nofun
  | ok merged =>
    rw [hmerge] at hs ht
    exact .of_run hs ht h fun _ _ => trivial

omit himporter in
/-- The source of a target is read again in both states, if the mode asks for that. -/
theorem mirrors_refreshFor (h : Alike setup.codec carried s t) (hplaced : setup.Placed target)
    (mode : CheckMode) :
    Mirrors setup.codec carried (refreshFor mode target) (refreshFor mode target) s t
      fun target' s' _ => setup.Placed target' ∧ s'.world.disk = s.world.disk := by
  unfold refreshFor
  split
  · exact .pure h ⟨hplaced, rfl⟩
  · exact (mirrors_refresh h hplaced).mono fun _ _ _ _ ⟨hplaced', _, hdisk, _⟩ => ⟨hplaced', hdisk⟩

/-- An entry module is checked in place in both states. -/
theorem mirrors_buildEntry (hsafe : setup.CarriesSafely carried p)
    (h : Alike setup.codec carried s t) (mode : CheckMode) (scope : ImportedScope) :
    Mirrors setup.codec carried (setup.buildEntry importer target mode scope)
      (setup.buildEntry importer' target mode scope) s t fun _ _ _ => True := by
  unfold buildEntry
  refine (mirrors_build himporter hsafe h mode scope).bind fun built s₁ t₁ h₁ _ => ?_
  refine (mirrors_settleEntry h₁ mode target.name _).bind fun _ s₂ t₂ h₂ _ => ?_
  exact (Mirrors.ofExcept h₂ _).bind fun _ _ _ h₃ _ => .pure h₃ trivial

/-- An entry module is validated, or else checked in place, in both states. -/
theorem mirrors_validateEntry (hsafe : setup.CarriesSafely carried p)
    (h : Alike setup.codec carried s t) (hplaced : setup.Placed target) (hp : p s.world.disk)
    (mode : CheckMode) (scope : ImportedScope) :
    Mirrors setup.codec carried (setup.validateEntry importer target mode scope)
      (setup.validateEntry importer' target mode scope) s t fun _ _ _ => True := by
  unfold validateEntry
  refine (mirrors_validate himporter hsafe h hplaced (.inr hp) scope).bind fun r s₁ t₁ h₁ _ => ?_
  cases r with
  | ok i =>
    exact (mirrors_settleEntry h₁ mode target.name _).bind
      fun _ _ _ h₂ _ => mirrors_reuse h₂ scope i []
  | error reason => exact mirrors_buildEntry himporter hsafe h₁ mode scope

/-- **An entry module is loaded in both states**, on a disk on which no digests collide. -/
theorem mirrors_loadEntry (hsafe : setup.CarriesSafely carried p)
    (h : Alike setup.codec carried s t) (hp : p s.world.disk) (scope : ImportedScope)
    (module : ModuleName) (mode : CheckMode) :
    Mirrors setup.codec carried (setup.loadEntry importer scope module mode)
      (setup.loadEntry importer' scope module mode) s t fun _ _ _ => True := by
  unfold loadEntry
  refine (mirrors_visited? h module).bind fun known s₁ t₁ h₁ hs₁ => ?_
  split
  · exact mirrors_reuse h₁ _ _ _
  · unfold loadTarget
    refine (mirrors_locate h₁ module).bind fun located s₂ t₂ h₂ hlocated => ?_
    refine (mirrors_refreshFor h₂ hlocated.1 mode).bind fun target s₃ t₃ h₃ htarget => ?_
    have hp₃ : p s₃.world.disk := by
      rw [htarget.2, hlocated.2, hs₁]
      exact hp
    split
    · exact mirrors_buildEntry himporter hsafe h₃ mode scope
    · exact mirrors_validateEntry himporter hsafe h₃ htarget.1 hp₃ mode scope

end Importing

/-! ### Resolutions -/

/-- **Resolving an import does the same in both states**, as long as each resolution begins on a
disk on which no digests collide. Nothing is asked of the disks in the second state: they are the
same. -/
theorem mirrors_resolveIf {setup : Setup} {carried : Set Interface} {p p' : Disk → Prop}
    [DecidablePred p] [DecidablePred p'] (hsafe : setup.CarriesSafely carried p)
    (hp' : ∀ d, p d → p' d) (depth : Nat) (stack : ImportStack) :
    (setup.resolveIf (fun _ _ => p) depth stack).Mirrors setup.codec carried
      (setup.resolveIf (fun _ _ => p') depth stack) := by
  induction depth generalizing stack with
  | zero => exact fun _ _ _ _ _ _ _ hrun => nomatch hrun
  | succ depth ih =>
    intro scope module s t h r s' hrun
    obtain ⟨hp, hrun⟩ := of_run_onlyIf hrun
    have hstep : Mirrors setup.codec carried
        (setup.resolveStep (setup.resolveIf (fun _ _ => p) depth) stack scope module)
        (setup.resolveStep (setup.resolveIf (fun _ _ => p') depth) stack scope module) s t
        fun _ _ _ => True := by
      have hentering : Mirrors setup.codec carried
          (entering stack module fun stack => setup.settleImport
            (setup.resolveIf (fun _ _ => p) depth stack) scope module)
          (entering stack module fun stack => setup.settleImport
            (setup.resolveIf (fun _ _ => p') depth stack) scope module) s t fun _ _ _ => True := by
        unfold entering
        cases stack.push module with
        | error cycle => exact .throw h _
        | ok pushed => exact mirrors_settleImport (ih pushed) hsafe h hp scope module
      refine hentering.bind fun entry s₁ t₁ h₁ _ => ?_
      split
      · exact .pure h₁ trivial
      · exact .throw h₁ _
    obtain ⟨t', hrun', hafter⟩ := hstep r s' hrun
    refine ⟨t', ?_, hafter⟩
    rw [resolveIf_succ, run_onlyIf (hp' _ (h.world ▸ hp))]
    exact hrun'

end Setup

end ModuleLoader
