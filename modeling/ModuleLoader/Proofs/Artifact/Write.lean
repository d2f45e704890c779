import ModuleLoader.Artifact.Store
import ModuleLoader.Proofs.Artifact.Reading
import ModuleLoader.Proofs.Disk.Frame
import ModuleLoader.Proofs.Wire.RoundTrip

/-!
# What the store leaves on disk

An artifact is found again by its layout alone: the first four bytes say where the header ends, so
header and encoded interface are taken apart as they were put together. With a codec that can be
relied on, the layout of an interface therefore reads as that interface or as nothing
(`Artifact.eq_of_interface?_layout`).

A write of the store may fail at any step, and what it leaves behind then depends on the step. One
thing holds in every case, and it is all that the loader needs: a file on disk after the write was
there before it, or it is the layout of the interface at the place of its artifact
(`ArtifactStore.file_of_write`). So a write never puts an interface on disk other than the one that
it was given (`Interface.OnDisk.of_write`).
-/

namespace ModuleLoader

open Wire

namespace Artifact

/-- Whether a header is read back: its text fits, and it is not too long. -/
def Header.fits (h : Header) : Bool :=
  textFits h.compilerVersion && decide (h.write.length ≤ headerLimit)

/-- The length of a header depends on the version of the compiler only. -/
theorem Header.length_write (h : Header) :
    h.write.length = 4 + (writeUInt32 formatVersion).length + (writeText h.compilerVersion).length
      + 48 := by
  unfold Header.write writeDigest
  simp only [List.length_append, Digest.length_bytes]
  show 4 + _ + _ + 16 + 16 + 16 = _
  omega

/-- A header is read back. -/
theorem Header.reads_write {h : Header} (hfits : h.fits = true) : Reads Header.read h.write h := by
  unfold Header.fits at hfits
  rw [Bool.and_eq_true] at hfits
  unfold Header.read Header.write
  simp only [List.append_assoc]
  refine (reads_take mark).bind ((reads_writeUInt32 formatVersion).bind ?_)
  refine (reads_writeText hfits.1).bind ((reads_writeDigest _).bind ((reads_writeDigest _).bind ?_))
  refine (reads_writeDigest _).then_nothing ?_
  rw [if_pos ⟨rfl, rfl⟩]
  exact Reads.pure h

/-- **A layout is taken apart** as it was put together. -/
theorem split?_layout {h : Header} (hfits : h.fits = true) (payload : Bytes) :
    split? (layout h payload) = some (h.write, payload) := by
  unfold Header.fits at hfits
  rw [Bool.and_eq_true, decide_eq_true_iff] at hfits
  have hlength : h.write.length < 256 ^ 4 := by
    have := hfits.2
    unfold headerLimit at this
    omega
  have hsize := reads_take (Bytes.ofNatLE 4 h.write.length)
  rw [Bytes.length_ofNatLE] at hsize
  unfold split? layout
  rw [List.append_assoc, hsize]
  show (if Bytes.toNatLE (Bytes.ofNatLE 4 h.write.length) ≤ headerLimit
    then take (Bytes.toNatLE (Bytes.ofNatLE 4 h.write.length)) (h.write ++ payload) else none) = _
  rw [Bytes.toNatLE_ofNatLE hlength, if_pos hfits.2]
  exact reads_take h.write payload

/-- The header of a layout is read back by the compiler version that it names. -/
theorem headerOf?_write {h : Header} (hfits : h.fits = true) :
    headerOf? h.compilerVersion h.write = some h := by
  have := Header.reads_write hfits []
  rw [List.append_nil] at this
  unfold headerOf?
  rw [this]
  show (if h.compilerVersion = h.compilerVersion then some h else none) = _
  rw [if_pos rfl]

/-- The header of a layout. -/
theorem header?_layout {h : Header} (hfits : h.fits = true) (payload : Bytes) :
    header? h.compilerVersion (layout h payload) = some h := by
  unfold header?
  rw [split?_layout hfits]
  exact headerOf?_write hfits

/-- **The layout of an interface reads as that interface**, or as nothing. -/
theorem eq_of_interface?_layout {h : Header} (hfits : h.fits = true) {codec : Codec}
    (hcodec : codec.Faithful) {i j : Interface} {payload : Bytes}
    (hencode : codec.encode i = .ok payload)
    (hread : interface? h.compilerVersion codec (layout h payload) = some j) : j = i := by
  obtain ⟨head, found, header, hsplit, -, -, hdecode, -⟩ := interface?_eq_some_iff.1 hread
  rw [split?_layout hfits] at hsplit
  obtain ⟨rfl, rfl⟩ := Prod.mk.inj (Option.some.inj hsplit)
  exact hcodec.eq_of_decode hencode hdecode

end Artifact

namespace ArtifactStore

/-- Whether the headers that a store writes can be read: the version of the compiler is not too
long. -/
def Readable (s : ArtifactStore) : Prop :=
  ∀ i payload, (s.headerFor i payload).fits = true

/-- A store is readable if one header of it is. -/
theorem readable_of_lengths {s : ArtifactStore} (hversion : textFits s.compilerVersion = true)
    (hlength : 4 + (writeUInt32 Artifact.formatVersion).length +
      (writeText s.compilerVersion).length + 48 ≤ Artifact.headerLimit) : s.Readable := by
  intro i payload
  unfold Artifact.Header.fits
  rw [Artifact.Header.length_write, Bool.and_eq_true, decide_eq_true_iff]
  exact ⟨hversion, hlength⟩

/-- Making the directories above a path adds directories only. -/
theorem grows_prepare (path : Path) (d : Disk) : Disk.Grows d (prepare path d).2 := by
  unfold prepare
  split
  · exact Disk.Grows.refl d
  · exact Disk.grows_makeDirectories d _

/-- **What an attempt leaves on disk**: the directories above the path, and if the interface has an
encoded form, its layout may have been put there. A result means that this was done and read back. -/
theorem attempt_cases (s : ArtifactStore) (codec : Codec) (path : Path) (i : Interface) (d : Disk) :
    (∃ e, (s.attempt codec path i d).1 = .error e ∧
      (s.attempt codec path i d).2 = (prepare path d).2) ∨
    ∃ payload, codec.encode i = .ok payload ∧
      (prepare path d).2.write path (Artifact.layout (s.headerFor i payload) payload)
        = .ok (s.attempt codec path i d).2 ∧
      ∀ j, (s.attempt codec path i d).1 = .ok j →
        s.readInterface? codec path (s.attempt codec path i d).2 = some j := by
  unfold attempt
  split
  · rename_i e d₁ hprepare
    rw [hprepare]
    exact .inl ⟨e, rfl, rfl⟩
  · rename_i d₁ hprepare
    rw [hprepare]
    split
    · exact .inl ⟨_, rfl, rfl⟩
    · rename_i payload hencode
      split
      · exact .inl ⟨_, rfl, rfl⟩
      · rename_i d₂ hwrite
        refine .inr ⟨payload, hencode, ?_⟩
        split
        · rename_i durable hread
          refine ⟨hwrite, fun j hj => ?_⟩
          rw [← Except.ok.inj hj]
          exact hread
        · exact ⟨hwrite, nofun⟩

/-- A write is an attempt, and after one that fails the file is removed if that is possible. -/
theorem write_cases (s : ArtifactStore) (codec : Codec) (path : Path) (i : Interface) (d : Disk) :
    (∃ j, (s.attempt codec path i d).1 = .ok j ∧
      s.write codec path i d = (.ok j, (s.attempt codec path i d).2)) ∨
    ∃ e, (s.attempt codec path i d).1 = .error e ∧
      s.write codec path i d = (.error e, discard path (s.attempt codec path i d).2) := by
  unfold write
  split
  · rename_i j d₁ hattempt
    rw [hattempt]
    exact .inl ⟨j, rfl, rfl⟩
  · rename_i e d₁ hattempt
    rw [hattempt]
    exact .inr ⟨e, rfl, rfl⟩

/-- The result of a write is that of the attempt. -/
theorem fst_write (s : ArtifactStore) (codec : Codec) (path : Path) (i : Interface) (d : Disk) :
    (s.write codec path i d).1 = (s.attempt codec path i d).1 := by
  obtain ⟨j, hresult, hwrite⟩ | ⟨e, hresult, hwrite⟩ := s.write_cases codec path i d
  · rw [hwrite, hresult]
  · rw [hwrite, hresult]

/-- **An attempt that puts the artifact on disk** comes to what the artifact reads as. -/
theorem attempt_of_prepared {s : ArtifactStore} {codec : Codec} {path : Path} {i : Interface}
    {d d₁ d₂ : Disk} {payload : Bytes} (hprepare : prepare path d = (.ok (), d₁))
    (hencode : codec.encode i = .ok payload)
    (hwrite : d₁.write path (Artifact.layout (s.headerFor i payload) payload) = .ok d₂) :
    s.attempt codec path i d = (Artifact.interface? s.compilerVersion codec
      (Artifact.layout (s.headerFor i payload) payload)).elim (.error (.roundTrip path), d₂)
        fun durable => (.ok durable, d₂) := by
  have hread : s.readInterface? codec path d₂ = Artifact.interface? s.compilerVersion codec
      (Artifact.layout (s.headerFor i payload) payload) := by
    unfold readInterface?
    rw [Disk.read?_of_write hwrite, Option.bind_some]
  unfold attempt
  rw [hprepare]
  dsimp only
  rw [hencode]
  dsimp only
  rw [hwrite]
  dsimp only
  rw [hread]
  cases Artifact.interface? s.compilerVersion codec
      (Artifact.layout (s.headerFor i payload) payload) with
  | some durable => rfl
  | none => rfl

/-- After an attempt a file was there before it, or it is the layout of the interface at the place
of its artifact. -/
theorem file_of_attempt {s : ArtifactStore} {codec : Codec} {path : Path} {i : Interface} {d : Disk}
    {q : Place} {found : Bytes} (h : (s.attempt codec path i d).2.at? q = some (.file found)) :
    d.at? q = some (.file found) ∨
      ∃ payload, q = Disk.placeOf path ∧ codec.encode i = .ok payload ∧
        found = Artifact.layout (s.headerFor i payload) payload := by
  have hgrows := grows_prepare path d
  obtain ⟨e, -, hdisk⟩ | ⟨payload, hencode, hwrite, -⟩ := s.attempt_cases codec path i d
  · rw [hdisk] at h
    exact .inl (hgrows.file h)
  · obtain hbefore | ⟨hplace, hfound⟩ := Disk.file_of_write hwrite h
    · exact .inl (hgrows.file hbefore)
    · exact .inr ⟨payload, hplace, hencode, hfound⟩

/-- Discarding adds nothing. -/
theorem at?_of_discard {path : Path} {d : Disk} {q : Place} {e : Entry}
    (h : (discard path d).at? q = some e) : d.at? q = some e := by
  unfold discard at h
  split at h
  · rename_i hremove
    exact Disk.at?_of_removeFile hremove h
  · exact h

/-- **After a write a file was there before it, or it is the layout of the interface** at the place
of its artifact, whether the write succeeded or not. -/
theorem file_of_write {s : ArtifactStore} {codec : Codec} {path : Path} {i : Interface} {d : Disk}
    {q : Place} {found : Bytes} (h : (s.write codec path i d).2.at? q = some (.file found)) :
    d.at? q = some (.file found) ∨
      ∃ payload, q = Disk.placeOf path ∧ codec.encode i = .ok payload ∧
        found = Artifact.layout (s.headerFor i payload) payload := by
  unfold write at h
  split at h
  · rename_i hattempt
    refine file_of_attempt (s := s) ?_
    rwa [hattempt]
  · rename_i hattempt
    refine file_of_attempt (s := s) ?_
    rw [hattempt]
    exact at?_of_discard h

/-- A write that succeeds is an attempt that does. -/
theorem attempt_of_write {s : ArtifactStore} {codec : Codec} {path : Path} {i j : Interface}
    {d d' : Disk} (h : s.write codec path i d = (.ok j, d')) :
    s.attempt codec path i d = (.ok j, d') := by
  unfold write at h
  split at h
  · rename_i hattempt
    rw [hattempt, h]
  · exact absurd (congrArg Prod.fst h) nofun

/-- **What a successful write does**: it may add directories, and it puts a layout of the interface
at the path, which reads as what the write answers with. -/
theorem write_eq_ok {s : ArtifactStore} {codec : Codec} {path : Path} {i j : Interface}
    {d d' : Disk} (h : s.write codec path i d = (.ok j, d')) :
    ∃ d₁ payload, Disk.Grows d d₁ ∧ codec.encode i = .ok payload ∧
      d₁.write path (Artifact.layout (s.headerFor i payload) payload) = .ok d' ∧
      s.readInterface? codec path d' = some j := by
  have hattempt := attempt_of_write h
  obtain ⟨e, he, -⟩ | ⟨payload, hencode, hwrite, hread⟩ := s.attempt_cases codec path i d
  · rw [hattempt] at he
    contradiction
  · rw [hattempt] at hwrite hread
    exact ⟨_, payload, grows_prepare path d, hencode, hwrite, hread j rfl⟩

/-- **A successful write answers with the interface that it was given.** -/
theorem eq_of_write {s : ArtifactStore} (hs : s.Readable) {codec : Codec}
    (hcodec : codec.Faithful) {path : Path} {i j : Interface} {d d' : Disk}
    (h : s.write codec path i d = (.ok j, d')) : j = i := by
  obtain ⟨d₁, payload, -, hencode, hwrite, hread⟩ := write_eq_ok h
  unfold readInterface? at hread
  rw [Disk.read?_of_write hwrite] at hread
  exact Artifact.eq_of_interface?_layout (hs i payload) hcodec hencode hread

/-- Where an interface can be read there is something. -/
theorem exists?_of_readInterface? {s : ArtifactStore} {codec : Codec} {path : Path} {d : Disk}
    {i : Interface} (h : s.readInterface? codec path d = some i) : d.exists? path = true := by
  obtain ⟨content, hread, -⟩ := Option.bind_eq_some_iff.1 h
  obtain ⟨place, hlocate, hfile⟩ := Disk.read?_eq_some_iff.1 hread
  unfold Disk.exists?
  rw [Disk.entry_eq_ok_iff.2 ⟨place, hlocate, hfile⟩]
  rfl

/-- **What other paths read stays**, as long as they name other places. -/
theorem read?_of_write_of_ne {s : ArtifactStore} {codec : Codec} {path q : Path} {i j : Interface}
    {d d' : Disk} {found : Bytes} (h : s.write codec path i d = (.ok j, d'))
    (hne : Disk.placeOf q ≠ Disk.placeOf path) (hq : d.read? q = some found) :
    d'.read? q = some found := by
  obtain ⟨d₁, payload, hgrows, -, hwrite, -⟩ := write_eq_ok h
  refine Disk.read?_of_write_of_ne hwrite hne ?_
  obtain ⟨place, hlocate, hfile⟩ := Disk.read?_eq_some_iff.1 hq
  exact Disk.read?_eq_some_iff.2
    ⟨place, hgrows.keepsDirectories.locate hlocate, hgrows.kept hfile⟩

end ArtifactStore

/-! ## The interfaces on disk -/

/-- **An interface is on disk**: a file at the place of some artifact reads as it. -/
def Interface.OnDisk (i : Interface) (version : String) (codec : Codec) (d : Disk) : Prop :=
  ∃ directory root module content,
    d.at? (Disk.placeOf (ArtifactStore.interfacePath ⟨directory, version⟩ root module))
        = some (.file content) ∧
      Artifact.interface? version codec content = some i

namespace Interface.OnDisk

variable {codec : Codec} {i j : Interface} {d : Disk}

/-- What a store reads at the path of an artifact is on disk. -/
theorem of_readInterface? {s : ArtifactStore} {root : Path} {module : ModuleName}
    (h : s.readInterface? codec (s.interfacePath root module) d = some i) :
    i.OnDisk s.compilerVersion codec d := by
  unfold ArtifactStore.readInterface? at h
  obtain ⟨content, hread, hinterface⟩ := Option.bind_eq_some_iff.1 h
  obtain ⟨place, hlocate, hfile⟩ := Disk.read?_eq_some_iff.1 hread
  refine ⟨s.directory, root, module, content, ?_, hinterface⟩
  rw [Disk.placeOf_of_locate hlocate]
  exact hfile

/-- **A write puts no other interface on disk** than the one that it was given. -/
theorem of_write {s : ArtifactStore} (hs : s.Readable) (hcodec : codec.Faithful) {path : Path}
    (h : j.OnDisk s.compilerVersion codec (s.write codec path i d).2) :
    j.OnDisk s.compilerVersion codec d ∨ j = i := by
  obtain ⟨directory, root, module, content, hfile, hinterface⟩ := h
  obtain hbefore | ⟨payload, -, hencode, rfl⟩ := ArtifactStore.file_of_write hfile
  · exact .inl ⟨directory, root, module, content, hbefore, hinterface⟩
  · exact .inr (Artifact.eq_of_interface?_layout (hs i payload) hcodec hencode hinterface)

end Interface.OnDisk

end ModuleLoader
