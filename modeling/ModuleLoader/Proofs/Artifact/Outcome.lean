import ModuleLoader.Proofs.Artifact.Room
import ModuleLoader.Proofs.Wire.Weight

/-!
# What comes of a write

A write of the store ends in one of two ways. Either the artifact is on disk and reads as what the
write answers with, or there is nothing to be read at the path, whatever was there before and
whichever step has failed; every other file is as it was (`ArtifactStore.Contract`). The second half
does not depend on the step that failed, because all that is left behind by then, an older artifact
or a part of the new one, is taken away in the same manner (`ArtifactStore.cleared_discard`).

With the standard codec and a disk that takes the file, one thing can still go wrong. A writer does
not ask how long a header is, but a reader refuses one above the limit, and the header holds the
version of the compiler in full. Then what was written does not read back
(`Artifact.interface?_layout_of_long`). It would not do so either if the length of the header did not
fit the four bytes in front of it, and what stands there were some smaller number: a header of the
length that the reader is told would be too short for the version.
-/

namespace ModuleLoader

open Wire

-- Powers are the ones that come with the numbers, whatever algebra is imported elsewhere.
attribute [local instance (high)] instPowNat

/-! ## Nothing to be read -/

/-- **A path is clear**: nothing can be read there, and if anything is there, it cannot be removed. -/
structure Disk.Clear (d : Disk) (path : Path) : Prop where
  /-- No file is read. -/
  read?_eq : d.read? path = none
  /-- What is there stays. -/
  removeFile_eq : d.exists? path = true → ∃ fault, d.removeFile path = .error fault

namespace Disk.Clear

variable {d : Disk} {path : Path}

/-- No store reads a header there. -/
theorem readHeader?_eq (h : d.Clear path) (s : ArtifactStore) : s.readHeader? path d = none := by
  unfold ArtifactStore.readHeader?
  rw [h.read?_eq]
  rfl

/-- No store reads an interface there. -/
theorem readInterface?_eq (h : d.Clear path) (s : ArtifactStore) (codec : Codec) :
    s.readInterface? codec path d = none := by
  unfold ArtifactStore.readInterface?
  rw [h.read?_eq]
  rfl

/-- A path that leads to nothing is clear. -/
theorem of_entry (h : ∀ e, d.entry path ≠ .ok e) : d.Clear path where
  read?_eq := by
    refine Option.eq_none_iff_forall_ne_some.2 fun content hread => ?_
    exact h _ (Disk.entry_eq_ok_iff.2 (Disk.read?_eq_some_iff.1 hread))
  removeFile_eq hexists := by
    unfold Disk.exists? at hexists
    cases hentry : d.entry path with
    | error fault =>
      rw [hentry] at hexists
      contradiction
    | ok e => exact absurd hentry (h e)

end Disk.Clear

/-- **After discarding, a path is clear**, whatever was there. -/
theorem ArtifactStore.cleared_discard (path : Path) (d : Disk) : (discard path d).Clear path := by
  unfold discard
  split
  · rename_i d' hremove
    obtain ⟨place, content, hlocate, hfile, rfl⟩ := Disk.removeFile_eq_ok hremove
    have hne : place ≠ [] := Disk.ne_nil_of_at? (d := d) (by simp [hfile])
    refine .of_entry fun e hentry => ?_
    obtain ⟨q, hlocate', hat⟩ := Disk.entry_eq_ok_iff.1 hentry
    -- Where the path still leads anywhere, it leads to the place that was emptied.
    obtain rfl : place = q := (Disk.placeOf_of_locate hlocate).symm.trans
      (Disk.placeOf_of_locate hlocate')
    rw [Disk.at?_erase hne, if_pos (List.isPrefixOf_iff_prefix.2 (List.prefix_refl place))] at hat
    contradiction
  · rename_i fault hremove
    refine ⟨Option.eq_none_iff_forall_ne_some.2 fun content hread => ?_, fun _ => ⟨fault, hremove⟩⟩
    obtain ⟨q, hlocate, hfile⟩ := Disk.read?_eq_some_iff.1 hread
    unfold Disk.removeFile at hremove
    rw [hlocate] at hremove
    dsimp only [bind, Except.bind] at hremove
    rw [hfile] at hremove
    contradiction

/-! ## Headers above the limit -/

/-- A number takes nine bytes at most. -/
theorem Wire.length_writeNat_le (n : Nat) : (writeNat n).length ≤ 9 := by
  unfold writeNat
  split
  · simp
  · split
    · simp
    · split <;> simp

namespace Artifact

/-- A header is longer than the version that it names, though not by much. -/
theorem Header.length_write_bounds (h : Header) :
    h.compilerVersion.utf8ByteSize ≤ h.write.length ∧
      h.write.length ≤ h.compilerVersion.utf8ByteSize + 70 := by
  have hversion := length_writeNat_le h.compilerVersion.utf8ByteSize
  have hformat := length_writeNat_le formatVersion.toNat
  have htext : (writeText h.compilerVersion).length
      = (writeNat h.compilerVersion.utf8ByteSize).length + h.compilerVersion.utf8ByteSize := by
    unfold writeText
    rw [List.length_append, length_ofText]
  rw [h.length_write, htext]
  unfold writeUInt32
  omega

/-- A header below the limit is read back: its length bounds that of the version. -/
theorem Header.fits_of_length {h : Header} (hlength : h.write.length ≤ headerLimit) :
    h.fits = true := by
  have hbounds := h.length_write_bounds.1
  unfold Header.fits textFits
  rw [Bool.and_eq_true, decide_eq_true_iff, decide_eq_true_iff]
  refine ⟨?_, hlength⟩
  unfold headerLimit at hlength
  omega

/-- The first four bytes of a file are the length of its header, which is within the limit. -/
theorem length_of_split? {file head payload : Bytes} (h : split? file = some (head, payload)) :
    head.length = Bytes.toNatLE (file.take 4) ∧ head.length ≤ headerLimit := by
  rw [← slices?_eq_split?] at h
  unfold slices? at h
  split at h
  · contradiction
  · dsimp only at h
    split at h
    · contradiction
    · obtain ⟨rfl, -⟩ := Prod.mk.inj (Option.some.inj h)
      rw [List.length_take, List.length_drop]
      omega

/-- **A layout whose header is above the limit does not read back**, with any codec. -/
theorem interface?_layout_of_long {h : Header} (hlong : headerLimit < h.write.length)
    (codec : Codec) (payload : Bytes) :
    interface? h.compilerVersion codec (layout h payload) = none := by
  refine Option.eq_none_iff_forall_ne_some.2 fun i hread => ?_
  obtain ⟨head, rest, header, hsplit, hheader, -⟩ := interface?_eq_some_iff.1 hread
  obtain ⟨hlength, hlimit⟩ := length_of_split? hsplit
  -- The reader has found the version in what it took for the header, so the version is short, and
  -- four bytes are enough for the length of the header.
  have hversion := utf8ByteSize_le_of_headerOf? hheader
  have hsize : h.write.length < 256 ^ 4 := by
    have := h.length_write_bounds.2
    unfold headerLimit at hlimit
    omega
  have hfront : (layout h payload).take 4 = Bytes.ofNatLE 4 h.write.length := by
    unfold layout
    dsimp only
    rw [List.append_assoc, List.take_append_of_le_length (by simp)]
    exact List.take_of_length_le (by simp)
  rw [hfront, Bytes.toNatLE_ofNatLE hsize] at hlength
  omega

end Artifact

/-! ## The contract of a write -/

namespace ArtifactStore

variable {s : ArtifactStore} {codec : Codec} {path : Path} {i : Interface} {d d₁ d₂ : Disk}

/-- **After a failure the path is clear**, whatever has failed. -/
theorem clear_of_write {e : CacheError} (h : (s.write codec path i d).1 = .error e) :
    (s.write codec path i d).2.Clear path := by
  obtain ⟨j, -, hwrite⟩ | ⟨e', -, hwrite⟩ := s.write_cases codec path i d
  · rw [hwrite] at h
    exact absurd h nofun
  · rw [hwrite]
    exact cleared_discard path _

/-- **A write leaves all files as they were, or the path leads to its place afterwards**: what it has
written or taken away is at the end of a way that is still there. -/
theorem untouched_or_locate_write (s : ArtifactStore) (codec : Codec) (path : Path) (i : Interface)
    (hd : d.Closed) :
    (∀ q content, (s.write codec path i d).2.at? q = some (.file content) ↔
      d.at? q = some (.file content)) ∨
    (s.write codec path i d).2.locate path = .ok (Disk.placeOf path) := by
  have hprepared := closed_prepare hd path
  have hgrows := grows_prepare path d
  obtain ⟨e, hresult, hdisk⟩ | ⟨payload, -, hwrite, -⟩ := s.attempt_cases codec path i d
  · obtain ⟨j, hok, -⟩ | ⟨e', -, heq⟩ := s.write_cases codec path i d
    · exact absurd (hresult.symm.trans hok) nofun
    · rw [heq, hdisk]
      dsimp only
      cases hremove : (prepare path d).2.removeFile path with
      | error fault =>
        left
        intro q content
        unfold discard
        rw [hremove]
        exact ⟨hgrows.file, hgrows.kept⟩
      | ok d' =>
        obtain ⟨place, -, hlocate, -⟩ := Disk.removeFile_eq_ok hremove
        rw [Disk.placeOf_of_locate hlocate]
        exact .inr ((keepsDirectories_discard hprepared path).locate hlocate)
  · obtain ⟨place, hlocate, hdirectory, heq⟩ := Disk.write_eq_ok hwrite
    have hkeeps : Disk.KeepsDirectories (prepare path d).2 (s.attempt codec path i d).2 := by
      rw [heq]
      exact Disk.keepsDirectories_put hdirectory _
    have hlocate' := hkeeps.locate hlocate
    rw [Disk.placeOf_of_locate hlocate]
    right
    obtain ⟨j, -, hresult⟩ | ⟨e', -, hresult⟩ := s.write_cases codec path i d
    · rw [hresult]
      exact hlocate'
    · rw [hresult]
      exact (keepsDirectories_discard (hprepared.write hwrite) path).locate hlocate'

/-- **Every file that the path does not lead to is as it was**, and none is new. -/
theorem file_write_iff_of_locate (hd : d.Closed) {q : Place}
    (hq : (s.write codec path i d).2.locate path ≠ .ok q) (content : Bytes) :
    (s.write codec path i d).2.at? q = some (.file content) ↔ d.at? q = some (.file content) := by
  obtain huntouched | hlocate := s.untouched_or_locate_write codec path i hd
  · exact huntouched q content
  · refine (s.file_write_iff codec path i hd).2 q ?_ content
    rintro rfl
    exact hq hlocate

/-- **What a caller can rely on after a write**, given its result and the disk that it leaves. -/
structure Contract (s : ArtifactStore) (codec : Codec) (path : Path) (i : Interface) (d : Disk)
    (result : Except CacheError Interface) (d' : Disk) : Prop where
  /-- What the write answers with is what the artifact reads as, and its header has the digests. -/
  durable {j : Interface} : result = .ok j → s.readInterface? codec path d' = some j ∧
    ∃ header, s.readHeader? path d' = some header ∧ header.fullHash = j.fullHash ∧
      header.sourceHash = j.sourceHash
  /-- After a failure no artifact is read at the path, by any store and with any codec. -/
  unreadable {e : CacheError} : result = .error e → ∀ (t : ArtifactStore) (other : Codec),
    t.readHeader? path d' = none ∧ t.readInterface? other path d' = none
  /-- Nor is anything else read there, and what is there after all could not be removed. -/
  clear {e : CacheError} : result = .error e → d'.Clear path
  /-- Every file that the path does not lead to is as it was, and none is new. -/
  others {q : Place} : d'.locate path ≠ .ok q → ∀ content,
    d'.at? q = some (.file content) ↔ d.at? q = some (.file content)
  /-- With the standard codec, and if the directories can be made and the file written, only the
  length of the header matters. -/
  standard {d₁ d₂ : Disk} : codec = .standard → i.fits = true → prepare path d = (.ok (), d₁) →
    d₁.write path (Artifact.layout (s.headerFor i i.encode) i.encode) = .ok d₂ →
    result = if (s.headerFor i i.encode).write.length ≤ Artifact.headerLimit then .ok i
      else .error (.roundTrip path)

/-- What the standard codec has encoded is read back unless the header is above the limit. -/
theorem interface?_layout_headerFor (s : ArtifactStore) (hfits : i.fits = true) :
    Artifact.interface? s.compilerVersion .standard
        (Artifact.layout (s.headerFor i i.encode) i.encode)
      = if (s.headerFor i i.encode).write.length ≤ Artifact.headerLimit then some i else none := by
  by_cases hlength : (s.headerFor i i.encode).write.length ≤ Artifact.headerLimit
  · have hlayout : (s.headerFor i i.encode).fits = true := Artifact.Header.fits_of_length hlength
    have hread := Artifact.interface?_layout hlayout
      (Codec.standard_decode?_of_fits hfits) rfl rfl rfl
    rw [if_pos hlength]
    exact hread
  · rw [if_neg hlength]
    exact Artifact.interface?_layout_of_long (Nat.lt_of_not_le hlength) .standard i.encode

/-- The result with the standard codec, where the file can be written. -/
theorem fst_write_standard (hfits : i.fits = true) (hprepare : prepare path d = (.ok (), d₁))
    (hwrite : d₁.write path (Artifact.layout (s.headerFor i i.encode) i.encode) = .ok d₂) :
    (s.write .standard path i d).1 =
      if (s.headerFor i i.encode).write.length ≤ Artifact.headerLimit then .ok i
      else .error (.roundTrip path) := by
  have hencode : Codec.standard.encode i = .ok i.encode := if_pos hfits
  rw [fst_write, attempt_of_prepared hprepare hencode hwrite, s.interface?_layout_headerFor hfits]
  by_cases hlength : (s.headerFor i i.encode).write.length ≤ Artifact.headerLimit
  · rw [if_pos hlength, if_pos hlength, Option.elim_some]
  · rw [if_neg hlength, if_neg hlength, Option.elim_none]

/-- **A write keeps its contract**, with every codec and whatever was at the path; and the path would
be clear as well if the attempt had broken off and left anything else on the disk. -/
theorem contract_write (s : ArtifactStore) (codec : Codec) (path : Path) (i : Interface) {d : Disk}
    (hd : d.Closed) :
    s.Contract codec path i d (s.write codec path i d).1 (s.write codec path i d).2 ∧
      ∀ left : Disk, (discard path left).Clear path := by
  refine And.intro ?_ (cleared_discard path)
  refine Contract.mk ?durable ?unreadable ?clear ?others ?standard
  case durable =>
    intro j hresult
    obtain ⟨j', -, hwrite⟩ | ⟨e, -, hwrite⟩ := s.write_cases codec path i d
    · obtain ⟨-, -, -, -, -, hread⟩ := write_eq_ok hwrite
      rw [hwrite] at hresult ⊢
      dsimp only at hread ⊢
      obtain rfl := Except.ok.inj hresult
      exact ⟨hread, readHeader?_of_readInterface? hread⟩
    · rw [hwrite] at hresult
      exact absurd hresult nofun
  case unreadable =>
    intro e hresult t other
    have hclear := clear_of_write hresult
    exact ⟨hclear.readHeader?_eq t, hclear.readInterface?_eq t other⟩
  case clear =>
    intro e hresult
    exact clear_of_write hresult
  case others =>
    intro q hq content
    exact file_write_iff_of_locate hd hq content
  case standard =>
    rintro d₁ d₂ rfl hfits hprepare hwrite
    exact fst_write_standard hfits hprepare hwrite

/-- A store for a version of the compiler with a name of a given length. -/
def versioned (n : Nat) : ArtifactStore := ⟨"_build", String.ofList (List.replicate n 'v')⟩

/-- The length of the headers of such a store. -/
theorem length_headerFor_versioned {n : Nat} (hlong : 250 < n) (hshort : n < 65536) (i : Interface)
    (payload : Bytes) : ((versioned n).headerFor i payload).write.length = n + 56 := by
  have hsize : (String.ofList (List.replicate n 'v')).utf8ByteSize = n := by
    have hletter : 'v'.utf8Size = 1 := by decide
    simp [String.utf8ByteSize, List.utf8Encode, List.length_flatMap, hletter]
  have hversion : (writeText (String.ofList (List.replicate n 'v'))).length = 3 + n := by
    unfold writeText writeNat
    rw [List.length_append, length_ofText, hsize, if_neg (by omega), if_pos (by omega)]
    rfl
  rw [Artifact.Header.length_write]
  show 4 + 1 + (writeText (String.ofList (List.replicate n 'v'))).length + 48 = n + 56
  rw [hversion]
  omega

/-- A directory with a script that has no artifact yet. -/
def unbuilt : Disk := ⟨[(["p"], .directory), (["p", "A.lm"], .file (Bytes.ofText "def a"))]⟩

/-- The header of 4096 bytes is written and read back, and one with a byte more is taken away. The
directory of the artifact has to be made first. -/
theorem contract_write_versioned :
    unbuilt.Closed ∧ unbuilt.at? ["p", "_build"] = none ∧
    ((versioned 4040).write .standard ⟨"p/_build/A.lmi"⟩ (Codec.multilingual 1) unbuilt).1
      = .ok (Codec.multilingual 1) ∧
    ((versioned 4041).write .standard ⟨"p/_build/A.lmi"⟩ (Codec.multilingual 1) unbuilt).1
      = .error (.roundTrip ⟨"p/_build/A.lmi"⟩) ∧
    ((versioned 4041).write .standard ⟨"p/_build/A.lmi"⟩ (Codec.multilingual 1) unbuilt).2.Clear
      ⟨"p/_build/A.lmi"⟩ := by
  let built := unbuilt.put ["p", "_build"] .directory
  have hclosed : unbuilt.Closed := Disk.closed_of_entries (by decide +kernel)
  have hfits := Codec.fits_multilingual (n := 1) (by decide)
  have hprepare : prepare ⟨"p/_build/A.lmi"⟩ unbuilt = (.ok (), built) := rfl
  have hwrite : ∀ content, built.write ⟨"p/_build/A.lmi"⟩ content
      = .ok (built.put ["p", "_build", "A.lmi"] (.file content)) := fun _ => rfl
  have hshort := (contract_write (versioned 4040) .standard ⟨"p/_build/A.lmi"⟩
    (Codec.multilingual 1) hclosed).1.standard rfl hfits hprepare (hwrite _)
  obtain ⟨hcontract, -⟩ := contract_write (versioned 4041) .standard ⟨"p/_build/A.lmi"⟩
    (Codec.multilingual 1) hclosed
  have hlong := hcontract.standard rfl hfits hprepare (hwrite _)
  rw [length_headerFor_versioned (by omega) (by omega)] at hshort hlong
  rw [if_pos (by decide)] at hshort
  rw [if_neg (by decide)] at hlong
  exact ⟨hclosed, rfl, hshort, hlong, hcontract.clear hlong⟩

end ArtifactStore

end ModuleLoader
