import ModuleLoader.Artifact.Store
import ModuleLoader.Proofs.Wire.Delimited

/-!
# Reading artifacts

An artifact is read in two ways. To see whether it is worth reading, the header alone is taken from
the front of the file; to have the interface, the whole file is read and cut up by positions. Both
have to find the same header in the same file, whatever the file holds, and they do because header
and payload lie where the one and the other look for them (`Artifact.slices?_eq_split?`). So an
interface is read just if the header is, and what follows the header has its checksum and holds an
interface with its digests (`Artifact.interface?_eq_some_iff`).

What follows the header must be used up by the interface. A file that was cut off, or that goes on
after its end, therefore has the same header but no interface, and it does not take the checksum to
see that (`Artifact.content?_eq_none_or`).
-/

namespace ModuleLoader

open Wire

namespace Artifact

/-! ## Header and interface -/

/-- **The positions of header and payload are where taking them one after the other arrives.** -/
theorem slices?_eq_split? (file : Bytes) : slices? file = split? file := by
  unfold slices? split? take
  by_cases hsize : 4 ≤ file.length
  · rw [if_neg (Nat.not_lt.2 hsize), if_pos hsize]
    show _ = if Bytes.toNatLE (file.take 4) ≤ headerLimit then _ else none
    dsimp only
    rw [List.length_drop, List.drop_drop]
    split
    · rename_i hrefused
      obtain hlong | hshort := hrefused
      · rw [if_neg (Nat.not_le.2 hlong)]
      · have hrest : ¬ Bytes.toNatLE (file.take 4) ≤ file.length - 4 := by omega
        rw [if_neg hrest, ite_self]
    · rename_i hfits
      rw [if_pos (by omega), if_pos (by omega)]
  · rw [if_pos (Nat.lt_of_not_le hsize), if_neg hsize]
    rfl

/-- **An interface is read** just if the header is, what follows the header has its checksum, and
the interface in it has the digests of the header. -/
theorem interface?_eq_some_iff {version : String} {codec : Codec} {file : Bytes} {i : Interface} :
    interface? version codec file = some i ↔ ∃ head payload header,
      split? file = some (head, payload) ∧ headerOf? version head = some header ∧
        Digest.ofBytes payload = header.checksum ∧ codec.decode? payload = some i ∧
        i.fullHash = header.fullHash ∧ i.sourceHash = header.sourceHash := by
  unfold interface?
  rw [slices?_eq_split?]
  constructor
  · intro h
    obtain ⟨⟨head, payload⟩, hsplit, h⟩ := Option.bind_eq_some_iff.1 h
    obtain ⟨header, hheader, h⟩ := Option.bind_eq_some_iff.1 h
    split at h
    · rename_i hchecksum
      obtain ⟨j, hdecode, h⟩ := Option.bind_eq_some_iff.1 h
      split at h
      · rename_i hdigests
        obtain rfl := Option.some.inj h
        exact ⟨head, payload, header, hsplit, hheader, hchecksum, hdecode, hdigests⟩
      · contradiction
    · contradiction
  · rintro ⟨head, payload, header, hsplit, hheader, hchecksum, hdecode, hdigests⟩
    refine Option.bind_eq_some_iff.2 ⟨(head, payload), hsplit, ?_⟩
    refine Option.bind_eq_some_iff.2 ⟨header, hheader, ?_⟩
    rw [if_pos hchecksum]
    exact Option.bind_eq_some_iff.2 ⟨i, hdecode, if_pos hdigests⟩

/-- The header of a file is that of its first part. -/
theorem header?_of_split? {version : String} {file head payload : Bytes}
    (h : split? file = some (head, payload)) : header? version file = headerOf? version head := by
  unfold header?
  rw [h]
  rfl

/-- What reads as an interface has a header with the digests of the interface. -/
theorem header?_of_interface? {version : String} {codec : Codec} {file : Bytes}
    {i : Interface} (h : interface? version codec file = some i) :
    ∃ header, header? version file = some header ∧ header.fullHash = i.fullHash ∧
      header.sourceHash = i.sourceHash := by
  obtain ⟨head, payload, header, hsplit, hheader, -, -, hfull, hsource⟩ :=
    interface?_eq_some_iff.1 h
  exact ⟨header, (header?_of_split? hsplit).trans hheader, hfull.symm, hsource.symm⟩

end Artifact

namespace ArtifactStore

variable {s : ArtifactStore} {codec : Codec} {path : Path} {d : Disk}

/-- Where there is an interface there is a header, with the digests of the interface. -/
theorem readHeader?_of_readInterface? {i : Interface}
    (h : s.readInterface? codec path d = some i) :
    ∃ header, s.readHeader? path d = some header ∧ header.fullHash = i.fullHash ∧
      header.sourceHash = i.sourceHash := by
  obtain ⟨file, hfile, hinterface⟩ := Option.bind_eq_some_iff.1 h
  obtain ⟨header, hheader, hdigests⟩ := Artifact.header?_of_interface? hinterface
  exact ⟨header, Option.bind_eq_some_iff.2 ⟨file, hfile, hheader⟩, hdigests⟩

/-- **Reading the header and reading the interface agree**, with every compiler version and codec and
whatever there is at the path: where there is an interface there is a header, with its digests, and
where there is no header there is no interface. -/
theorem readHeader?_agrees (s : ArtifactStore) (codec : Codec) (path : Path) (d : Disk) :
    (∀ i, s.readInterface? codec path d = some i →
      ∃ header, s.readHeader? path d = some header ∧ header.fullHash = i.fullHash ∧
        header.sourceHash = i.sourceHash) ∧
    (s.readHeader? path d = none → s.readInterface? codec path d = none) := by
  refine ⟨fun i => readHeader?_of_readInterface?, fun hnone => ?_⟩
  refine Option.eq_none_iff_forall_ne_some.2 fun i h => ?_
  obtain ⟨header, hheader, -⟩ := readHeader?_of_readInterface? h
  rw [hnone] at hheader
  contradiction

end ArtifactStore

/-! ## Files that were cut off or go on -/

namespace Artifact

/-- A file says where its header ends. -/
theorem delimited_split? : Delimited split? := by
  have hread : split? = (take 4 >>= fun size =>
      if Bytes.toNatLE size ≤ headerLimit then take (Bytes.toNatLE size) else refuse) := by
    funext file
    unfold split?
    refine congrArg (Option.bind (take 4 file)) (funext fun parts => ?_)
    dsimp only
    split <;> rfl
  rw [hread]
  refine (delimited_take 4).bind fun size => ?_
  split
  · exact delimited_take _
  · exact .refuse

/-- The interface that follows the header of a file, **whatever the header says**. -/
def content? (codec : Codec) (file : Bytes) : Option Interface := do
  let (_, payload) ← split? file
  codec.decode? payload

/-- What is read as an interface is what follows the header. -/
theorem content?_of_interface? {version : String} {codec : Codec} {file : Bytes} {i : Interface}
    (h : interface? version codec file = some i) : content? codec file = some i := by
  obtain ⟨head, payload, header, hsplit, -, -, hdecode, -⟩ := interface?_eq_some_iff.1 h
  exact Option.bind_eq_some_iff.2 ⟨(head, payload), hsplit, hdecode⟩

/-- **Of a file and a proper beginning of it at most one has an interface after its header**,
already for the reason that the interface must end where the file does. -/
theorem content?_eq_none_or {file file' : Bytes} (hbegins : file <+: file') (hne : file ≠ file') :
    content? .standard file = none ∨ content? .standard file' = none := by
  obtain ⟨more, rfl⟩ := hbegins
  cases hsplit : split? file with
  | none => exact .inl (Option.bind_eq_none_iff.2 fun parts h => nomatch hsplit.symm.trans h)
  | some parts =>
    obtain ⟨head, payload⟩ := parts
    obtain ⟨taken, rfl, hreads⟩ := delimited_split? file head payload hsplit
    -- The header is the same, and the bytes after it are cut off or go on like the file.
    have hsplit' : split? (taken ++ payload ++ more) = some (head, payload ++ more) := by
      rw [List.append_assoc]
      exact hreads (payload ++ more)
    have hpayload : payload ≠ payload ++ more := fun heq =>
      hne (by rw [List.append_assoc, ← heq])
    unfold content?
    rw [hsplit, hsplit']
    exact Interface.decode?_eq_none_or (List.prefix_append payload more) hpayload

end Artifact

/-- **What was cut off or goes on after its end is no artifact**: of two byte strings, one of which is
a proper beginning of the other, at most one encodes an interface, at most one has an interface
after its header whatever the header says, and so at most one of two files that hold them reads as
an interface, whatever the compiler version and wherever they are. -/
theorem ArtifactStore.torn_or_padded {bytes bytes' : Bytes} (hbegins : bytes <+: bytes')
    (hne : bytes ≠ bytes') :
    (Codec.standard.decode? bytes = none ∨ Codec.standard.decode? bytes' = none) ∧
    (Artifact.content? .standard bytes = none ∨ Artifact.content? .standard bytes' = none) ∧
    ∀ (s : ArtifactStore) (path path' : Path) (d d' : Disk),
      d.read? path = some bytes → d'.read? path' = some bytes' →
        s.readInterface? .standard path d = none ∨ s.readInterface? .standard path' d' = none := by
  have hcontent := Artifact.content?_eq_none_or hbegins hne
  have hnone : ∀ (s : ArtifactStore) (path : Path) (d : Disk) (file : Bytes),
      d.read? path = some file → Artifact.content? .standard file = none →
      s.readInterface? .standard path d = none := by
    intro s path d file hfile hcontent
    refine Option.eq_none_iff_forall_ne_some.2 fun i h => ?_
    obtain ⟨found, hfound, hinterface⟩ := Option.bind_eq_some_iff.1 h
    obtain rfl := Option.some.inj (hfile.symm.trans hfound)
    rw [Artifact.content?_of_interface? hinterface] at hcontent
    contradiction
  refine ⟨Interface.decode?_eq_none_or hbegins hne, hcontent, fun s path path' d d' h h' => ?_⟩
  exact hcontent.imp (hnone s path d bytes h) (hnone s path' d' bytes' h')

/-- The artifact of an interface with texts beyond ASCII. -/
def Artifact.multilingual : Bytes :=
  let i := Codec.multilingual 1
  layout (ArtifactStore.headerFor ⟨"_build", "0.1.0"⟩ i i.encode) i.encode

/-- A disk with nothing but one file. -/
def Disk.holding (content : Bytes) : Disk := Disk.empty.put ["A.lmi"] (.file content)

/-- It reads, and with a byte after its end it does not. -/
theorem ArtifactStore.torn_or_padded_multilingual :
    Artifact.multilingual <+: Artifact.multilingual ++ [0] ∧
    Artifact.multilingual ≠ Artifact.multilingual ++ [0] ∧
    (readInterface? ⟨"_build", "0.1.0"⟩ .standard ⟨"A.lmi"⟩
      (Disk.holding Artifact.multilingual)).isSome = true ∧
    readInterface? ⟨"_build", "0.1.0"⟩ .standard ⟨"A.lmi"⟩
      (Disk.holding (Artifact.multilingual ++ [0])) = none := by
  have hread : ∀ content, (Disk.holding content).read? ⟨"A.lmi"⟩ = some content := fun _ => rfl
  have hbegins : Artifact.multilingual <+: Artifact.multilingual ++ [0] := List.prefix_append _ [0]
  have hne : Artifact.multilingual ≠ Artifact.multilingual ++ [0] := by simp
  have hreads : (readInterface? ⟨"_build", "0.1.0"⟩ .standard ⟨"A.lmi"⟩
      (Disk.holding Artifact.multilingual)).isSome = true := by decide +kernel
  obtain ⟨-, -, htorn⟩ := torn_or_padded hbegins hne
  refine ⟨hbegins, hne, hreads, ?_⟩
  obtain hnone | hnone := htorn ⟨"_build", "0.1.0"⟩ ⟨"A.lmi"⟩ ⟨"A.lmi"⟩
    (Disk.holding Artifact.multilingual) (Disk.holding (Artifact.multilingual ++ [0]))
    (hread _) (hread _)
  · rw [hnone] at hreads
    exact absurd hreads Bool.false_ne_true
  · exact hnone

end ModuleLoader
