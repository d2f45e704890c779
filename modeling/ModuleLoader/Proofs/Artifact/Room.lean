import ModuleLoader.Proofs.Disk.Tree

/-!
# Room for artifacts

A write of the store can fail in many ways. None of them is left if there is *room* for the artifact
– its directory is there, and nothing in the way – and if what the codec makes of the interface reads
as the interface (`ArtifactStore.write_of_room`).

A write where there is room makes no directory and removes none, whatever comes of it. So it takes
away no room, neither for this artifact nor for any other one (`ArtifactStore.room_of_write`).
-/

namespace ModuleLoader

namespace Disk

variable {d d' : Disk} {path : Path}

/-- **There is room for a file at a path.** -/
structure Room (d : Disk) (path : Path) : Prop where
  /-- The directory in which it lies is there. -/
  above : ∀ above ∈ path.parent?,
    above.text.isEmpty = true ∨ ¬ above.endsInSlash = true ∧ d.isDirectory above = true
  /-- The path asks for a file. -/
  file : ¬ path.endsInSlash = true
  /-- It leads to a place, and no directory is there. -/
  place : ∃ place ∈ (d.locate path).toOption, d.at? place ≠ some .directory

instance (d : Disk) (path : Path) : Decidable (d.Room path) :=
  decidable_of_iff ((∀ above ∈ path.parent?,
      above.text.isEmpty = true ∨ ¬ above.endsInSlash = true ∧ d.isDirectory above = true) ∧
    ¬ path.endsInSlash = true ∧ ∃ place ∈ (d.locate path).toOption, d.at? place ≠ some .directory)
    ⟨fun ⟨above, file, place⟩ => ⟨above, file, place⟩,
      fun h => ⟨h.above, h.file, h.place⟩⟩

theorem Room.locate (h : d.Room path) :
    ∃ place, d.locate path = .ok place ∧ d.at? place ≠ some .directory := by
  obtain ⟨place, hmem, hat⟩ := h.place
  refine ⟨place, ?_, hat⟩
  cases hlocate : d.locate path with
  | error fault => rw [hlocate] at hmem; exact absurd hmem nofun
  | ok q =>
    rw [hlocate] at hmem
    rw [show q = place from Option.some.inj hmem]

/-- There is a directory at a path if the path leads to one. -/
theorem isDirectory_iff :
    d.isDirectory path = true ↔ ∃ place, d.locate path = .ok place ∧
      d.at? place = some .directory := by
  rw [← entry_eq_ok_iff]
  unfold isDirectory
  split
  · rename_i hentry
    exact iff_of_true rfl hentry
  · rename_i hnone
    exact iff_of_false nofun hnone

/-- **Room is a matter of directories only.** -/
theorem Room.of_directories (h : d.Room path)
    (hsame : ∀ q, d'.at? q = some .directory ↔ d.at? q = some .directory) : d'.Room path := by
  have hkeeps : KeepsDirectories d d' := fun q => (hsame q).2
  refine ⟨fun above habove => ?_, h.file, ?_⟩
  · obtain hempty | ⟨hslash, hdirectory⟩ := h.above above habove
    · exact .inl hempty
    · obtain ⟨place, hlocate, hat⟩ := isDirectory_iff.1 hdirectory
      exact .inr ⟨hslash, isDirectory_iff.2 ⟨place, hkeeps.locate hlocate, hkeeps place hat⟩⟩
  · obtain ⟨place, hlocate, hat⟩ := h.locate
    refine ⟨place, ?_, fun hdirectory => hat ((hsame place).1 hdirectory)⟩
    rw [hkeeps.locate hlocate]
    rfl

/-- A path that does not end in a slash leads to its target. -/
theorem locateTarget_eq (h : ¬ path.endsInSlash = true) : d.locateTarget path = d.locate path := by
  unfold locateTarget
  rw [dropSlashes_of_not_endsInSlash h]
  split
  · rename_i husable
    unfold Disk.locate
    rw [if_pos husable]
  · rfl

/-- A directory that is there is not made again. -/
theorem ensureDirectory_eq_self (hslash : ¬ path.endsInSlash = true)
    (h : d.isDirectory path = true) : d.ensureDirectory path = .ok d := by
  obtain ⟨place, hlocate, hat⟩ := isDirectory_iff.1 h
  have hmade : d.makeDirectory path = .error .wrongKind := by
    unfold makeDirectory
    rw [locateTarget_eq hslash, hlocate]
    dsimp only [bind, Except.bind]
    rw [hat]
    rfl
  unfold ensureDirectory
  rw [hmade]
  dsimp only
  rw [if_pos h]

/-- The lineage of a path begins with it. -/
theorem exists_lineage_eq_cons (steps : Nat) (p : Path) :
    ∃ above, Path.lineage steps p = p :: above := by
  cases steps with
  | zero => exact ⟨[], rfl⟩
  | succ steps =>
    unfold Path.lineage
    split
    · exact ⟨_, rfl⟩
    · exact ⟨[], rfl⟩

/-- **Where there is room a file can be written.** -/
theorem write_of_room (h : d.Room path) (content : Bytes) :
    ∃ place, d.at? place ≠ some .directory ∧
      d.write path content = .ok (d.put place (.file content)) := by
  obtain ⟨place, hlocate, hat⟩ := h.locate
  refine ⟨place, hat, ?_⟩
  unfold write
  rw [locateTarget_eq h.file, hlocate]
  dsimp only [bind, Except.bind]
  split
  · rename_i hdirectory
    exact absurd hdirectory hat
  · rw [if_neg h.file]
    rfl

end Disk

/-- **The layout of an interface reads as that interface** if its encoded form does. -/
theorem Artifact.interface?_layout {h : Header} (hfits : h.fits = true) {codec : Codec}
    {i : Interface} {payload : Bytes} (hdecode : codec.decode? payload = some i)
    (hchecksum : h.checksum = Digest.ofBytes payload) (hfull : h.fullHash = i.fullHash)
    (hsource : h.sourceHash = i.sourceHash) :
    interface? h.compilerVersion codec (layout h payload) = some i :=
  interface?_eq_some_iff.2 ⟨h.write, payload, h, split?_layout hfits payload,
    headerOf?_write hfits, hchecksum.symm, hdecode, hfull.symm, hsource.symm⟩

namespace ArtifactStore

open Disk

variable {s : ArtifactStore} {codec : Codec} {path : Path} {i : Interface} {d : Disk}

/-- Where there is room no directory has to be made. -/
theorem prepare_of_room (h : d.Room path) : prepare path d = (.ok (), d) := by
  unfold prepare
  split
  · rfl
  · rename_i directory hparent
    have hmade : d.makeDirectories directory = (.ok (), d) := by
      obtain ⟨above, hlineage⟩ := exists_lineage_eq_cons directory.segments.length directory
      unfold makeDirectories Path.ancestors
      rw [hlineage]
      unfold ensureLineage
      obtain hempty | ⟨hslash, hdirectory⟩ := h.above directory hparent
      · rw [if_pos hempty]
      · rw [ensureDirectory_eq_self hslash hdirectory]
        split
        · rfl
        · rfl
    rw [hmade]
    rfl

/-- **Where there is room a write succeeds**, and it answers with the interface that it was given. -/
theorem write_of_room (hs : s.Readable) (h : d.Room path) {payload : Bytes}
    (hencode : codec.encode i = .ok payload) (hdecode : codec.decode? payload = some i) :
    ∃ d', s.write codec path i d = (.ok i, d') := by
  obtain ⟨place, -, hwrite⟩ := Disk.write_of_room h (Artifact.layout (s.headerFor i payload) payload)
  have hread := Artifact.interface?_layout (hs i payload) hdecode rfl rfl rfl
  have hattempt := attempt_of_prepared (prepare_of_room h) hencode hwrite
  rw [show s.compilerVersion = (s.headerFor i payload).compilerVersion from rfl, hread] at hattempt
  refine ⟨(s.write codec path i d).2, Prod.ext ?_ rfl⟩
  rw [fst_write, hattempt, Option.elim_some]

/-- **Where there is room a write leaves all directories as they are**, whatever comes of it. -/
theorem directory_write_iff (hd : d.Closed) (h : d.Room path) (q : Place) :
    (s.write codec path i d).2.at? q = some .directory ↔ d.at? q = some .directory := by
  obtain ⟨place, hlocate, hfree⟩ := h.locate
  have hplace := placeOf_of_locate hlocate
  have hattempt : (s.attempt codec path i d).2.Closed ∧
      ((s.attempt codec path i d).2.at? q = some .directory ↔ d.at? q = some .directory) := by
    obtain ⟨e, -, hdisk⟩ | ⟨payload, -, hwrite, -⟩ := s.attempt_cases codec path i d
    · rw [hdisk, prepare_of_room h]
      exact ⟨hd, Iff.rfl⟩
    · rw [prepare_of_room h] at hwrite
      refine ⟨hd.write hwrite, ?_⟩
      obtain ⟨place', hlocate', hdirectory, heq⟩ := Disk.write_eq_ok hwrite
      rw [heq]
      constructor
      · intro hq
        rw [at?_put d (ne_nil_of_at? hdirectory)] at hq
        split at hq
        · simp at hq
        · exact hq
      · exact keepsDirectories_put hdirectory _ q
  unfold write
  split
  · rename_i hresult
    rw [hresult] at hattempt
    exact hattempt.2
  · rename_i d₁ hresult
    rw [hresult] at hattempt
    obtain ⟨-, hother⟩ := closed_discard hattempt.1 path
    refine Iff.trans ?_ hattempt.2
    constructor
    · exact at?_of_discard
    · intro hq
      show (discard path d₁).at? q = some .directory
      rw [hother q]
      · exact hq
      · -- No directory is at the place of the artifact.
        rintro rfl
        exact hfree (hplace ▸ hattempt.2.1 hq)

/-- A write where there is room takes away no room. -/
theorem room_of_write (hd : d.Closed) (h : d.Room path) {p : Path} (hp : d.Room p) :
    (s.write codec path i d).2.Room p :=
  hp.of_directories fun q => directory_write_iff hd h q

end ArtifactStore

end ModuleLoader
