import ModuleLoader.Artifact
import ModuleLoader.Proofs.Artifact.Reading

/-!
# No value is larger than its bytes

A reader takes its values from the front of a byte string, and it makes nothing up: every member of
a list that it answers with has taken at least one byte. Artifacts may say of themselves that they
hold very long lists, but what can be read from them is bounded by their size.

What a reader answers with is measured by a *weight*, and `Wire.Takes` says that it has taken so
many bytes at least. This composes along the layouts, and it is used for the imports of an interface
(`Interface.length_imports_le`), of which there are no more than there are bytes in the file that it
was read from (`Artifact.length_imports_le`), and for the version of the compiler, which a header
holds in full (`Artifact.utf8ByteSize_le_of_headerOf?`).
-/

namespace ModuleLoader

namespace Wire

/-- **A reader takes as many bytes as its answer weighs**, or more. -/
def Takes {α : Type} (read : Reader α) (weight : α → Nat) : Prop :=
  ∀ bytes a rest, read bytes = some (a, rest) → rest.length + weight a ≤ bytes.length

namespace Takes

variable {α β : Type} {read : Reader α} {next : α → Reader β} {weight : α → Nat}
  {weight' : β → Nat}

/-- A reader that takes nothing may answer with what weighs nothing. -/
theorem pure {a : α} (h : weight a = 0) : Takes (Pure.pure a) weight := by
  intro bytes b rest hread
  obtain ⟨rfl, rfl⟩ := Prod.mk.inj (Option.some.inj hread)
  exact Nat.le_of_eq (by rw [h, Nat.add_zero])

/-- A reader that gives up has no answer. -/
theorem refuse : Takes Wire.refuse weight := nofun

/-- A lighter measure. -/
theorem mono (h : Takes read weight) {lighter : α → Nat} (hle : ∀ a, lighter a ≤ weight a) :
    Takes read lighter := fun bytes a rest hread =>
  Nat.le_trans (Nat.add_le_add_left (hle a) _) (h bytes a rest hread)

/-- **One reader after another** takes what the first answer weighs, and has to take the rest. -/
theorem bind (h : Takes read weight)
    (hnext : ∀ a, Takes (next a) fun b => weight' b - weight a) :
    Takes (read >>= next) weight' := by
  intro bytes b rest hread
  obtain ⟨⟨a, mid⟩, hfirst, hsecond⟩ := Option.bind_eq_some_iff.1 hread
  have hbefore := h bytes a mid hfirst
  have hafter := hnext a mid b rest hsecond
  dsimp only at hafter
  omega

/-- One reader after another that counts for nothing. -/
theorem after (h : Takes read fun _ => 0) (hnext : ∀ a, Takes (next a) weight') :
    Takes (read >>= next) weight' := h.bind hnext

end Takes

variable {α β : Type}

/-! ## Bytes, numbers and texts -/

theorem takes_byte : Takes byte fun _ => 1 := by
  intro bytes b rest hread
  cases bytes with
  | nil => contradiction
  | cons first others =>
    obtain ⟨-, rfl⟩ := Prod.mk.inj (Option.some.inj hread)
    exact Nat.le_refl _

/-- What is taken weighs its length. -/
theorem takes_take (count : Nat) : Takes (take count) List.length := by
  intro bytes a rest hread
  unfold take at hread
  split at hread
  · obtain ⟨rfl, rfl⟩ := Prod.mk.inj (Option.some.inj hread)
    exact Nat.le_of_eq (by rw [Nat.add_comm, ← List.length_append, List.take_append_drop])
  · contradiction

/-- A number takes its first byte at least. -/
theorem takes_readNat (widest : Nat) : Takes (readNat widest) fun _ => 1 := by
  unfold readNat
  refine takes_byte.bind fun first => ?_
  split
  · exact .pure rfl
  · split
    · split
      · exact ((takes_take _).mono fun _ => Nat.zero_le _).after fun _ => .pure rfl
      · exact .refuse
    · exact .refuse

theorem takes_readUInt16 : Takes readUInt16 fun _ => 0 :=
  ((takes_readNat 2).mono fun _ => Nat.zero_le 1).after fun _ => .pure rfl

theorem takes_readUInt32 : Takes readUInt32 fun _ => 0 :=
  ((takes_readNat 4).mono fun _ => Nat.zero_le 1).after fun _ => .pure rfl

theorem takes_readBool : Takes readBool fun _ => 0 := by
  unfold readBool
  refine (takes_byte.mono fun _ => Nat.zero_le 1).after fun b => ?_
  split
  · exact .pure rfl
  · split
    · exact .pure rfl
    · exact .refuse

theorem takes_readDigest : Takes readDigest fun _ => 0 := by
  unfold readDigest
  refine ((takes_take 16).mono fun _ => Nat.zero_le _).after fun bytes => ?_
  split
  · exact .pure rfl
  · exact .refuse

/-- **A text takes its own size**, and before it the first byte of its length at least. -/
theorem takes_readText : Takes readText fun text => text.utf8ByteSize + 1 := by
  unfold readText
  refine (takes_readNat 8).bind fun length => (takes_take length).bind fun bytes => ?_
  split
  · rename_i text htext
    refine .pure ?_
    rw [← Bytes.ofText_of_text? htext, length_ofText, Nat.add_sub_cancel, Nat.sub_self]
  · exact .refuse

/-! ## Several values -/

section

variable {read : Reader α} {weight : α → Nat} {each : Nat}

theorem takes_readOption (h : Takes read fun _ => 0) : Takes (readOption read) fun _ => 0 := by
  unfold readOption
  refine takes_readBool.after fun b => ?_
  split
  · exact h.after fun _ => .pure rfl
  · exact .pure rfl

/-- **One value after the other** weighs what each of them does, as often as there is one. -/
theorem takes_readMany (h : Takes read fun _ => each) (count : Nat) :
    Takes (readMany read count) fun list => list.length * each := by
  induction count with
  | zero => exact .pure (Nat.zero_mul each)
  | succ count ih =>
    refine h.bind fun a => ih.bind fun rest => .pure ?_
    rw [List.length_cons, Nat.succ_mul, Nat.add_sub_cancel, Nat.sub_self]

/-- So does a list. -/
theorem takes_readList (h : Takes read fun _ => each) :
    Takes (readList read) fun list => list.length * each :=
  ((takes_readNat 8).mono fun _ => Nat.zero_le 1).after (takes_readMany h)

/-- A list counts for nothing if its members do. -/
theorem takes_readList_zero (h : Takes read fun _ => 0) : Takes (readList read) fun _ => 0 :=
  (takes_readList h).mono fun _ => Nat.zero_le _

/-- A pair weighs what its first part does, if the second one counts for nothing. -/
theorem takes_readPair {readSecond : Reader β} (h : Takes read weight)
    (hsecond : Takes readSecond fun _ => 0) :
    Takes (readPair read readSecond) fun pair => weight pair.1 :=
  h.bind fun _ => hsecond.after fun _ => .pure (Nat.sub_self _)

end

end Wire

open Wire

/-! ## Interfaces -/

theorem ModuleName.takes_read : Takes ModuleName.read fun _ => 1 :=
  (takes_readText.mono fun _ => Nat.le_add_left 1 _).bind fun _ => .pure rfl

theorem NameSet.takes_read : Takes NameSet.read fun _ => 0 :=
  (takes_readList_zero (takes_readText.mono fun _ => Nat.zero_le _)).after fun _ => .pure rfl

theorem OrderedMap.takes_read {α : Type} {readValue : Reader α} (h : Takes readValue fun _ => 0) :
    Takes (OrderedMap.read readValue) fun _ => 0 :=
  (takes_readList_zero (takes_readPair (takes_readText.mono fun _ => Nat.zero_le _) h)).after
    fun _ => .pure rfl

theorem Options.takes_read : Takes Options.read fun _ => 0 :=
  ((takes_readMany takes_readBool Flag.all.length).mono fun _ => Nat.zero_le _).after
    fun _ => .pure rfl

theorem Diagnostic.takes_read : Takes Diagnostic.read fun _ => 0 := by
  have htext : Takes readText fun _ => 0 := takes_readText.mono fun _ => Nat.zero_le _
  have hname : Takes ModuleName.read fun _ => 0 := ModuleName.takes_read.mono fun _ => Nat.zero_le 1
  refine takes_readUInt16.after fun code => htext.after fun message => ?_
  exact (takes_readOption hname).after fun module =>
    (takes_readList_zero htext).after fun notes => .pure rfl

theorem Exports.takes_read : Takes Exports.read fun _ => 0 := by
  have htext : Takes readText fun _ => 0 := takes_readText.mono fun _ => Nat.zero_le _
  have htexts := OrderedMap.takes_read htext
  have hlists := OrderedMap.takes_read (takes_readList_zero htext)
  refine NameSet.takes_read.after fun scope => htexts.after fun signature => ?_
  refine htexts.after fun builtins => htexts.after fun patternSynonyms => ?_
  refine hlists.after fun displayForms => htexts.after fun userWarnings => ?_
  exact NameSet.takes_read.after fun partialDefinitions => .pure rfl

/-- **An interface weighs as much as it has imports.** -/
theorem Interface.takes_read : Takes Interface.read fun i => i.imports.length := by
  have htext : Takes readText fun _ => 0 := takes_readText.mono fun _ => Nat.zero_le _
  have hname : Takes ModuleName.read fun _ => 0 := ModuleName.takes_read.mono fun _ => Nat.zero_le 1
  have himports : Takes (readList (readPair ModuleName.read readDigest)) List.length := by
    refine (takes_readList (takes_readPair ModuleName.takes_read takes_readDigest)).mono fun l => ?_
    exact Nat.le_of_eq (Nat.mul_one l.length).symm
  refine hname.after fun name => takes_readDigest.after fun sourceHash => ?_
  refine takes_readDigest.after fun fullHash => himports.bind fun imports => ?_
  refine Options.takes_read.after fun options => takes_readDigest.after fun baseOptions => ?_
  refine Exports.takes_read.after fun exports => ?_
  refine (takes_readList_zero Diagnostic.takes_read).after fun warnings => ?_
  exact (takes_readOption htext).after fun importWarning => .pure (Nat.sub_self _)

/-- **An interface has no more imports than it takes bytes.** -/
theorem Interface.length_imports_le {bytes : Bytes} {i : Interface} (h : decode? bytes = some i) :
    i.imports.length ≤ bytes.length := by
  unfold decode? readAll at h
  split at h
  · rename_i j hread
    obtain rfl := Option.some.inj h
    have := Interface.takes_read _ _ _ hread
    rwa [List.length_nil, Nat.zero_add] at this
  · contradiction

namespace Codec

/-- **A compact codec** decodes no interface with more imports than there are bytes. -/
def Compact (codec : Codec) : Prop :=
  ∀ bytes i, codec.decode? bytes = some i → i.imports.length ≤ bytes.length

/-- The binary form is compact. -/
theorem standard_compact : standard.Compact := fun _ _ h => Interface.length_imports_le h

/-- So is a codec that refuses some of it. -/
theorem refusing_compact (encoding decoding : ModuleName → Bool) :
    (refusing encoding decoding).Compact := fun bytes i h =>
  standard_compact bytes i (Option.filter_eq_some_iff.1 h).1

end Codec

namespace Artifact

/-- A header takes the size of the version that it names. -/
theorem Header.takes_read : Takes Header.read fun h => h.compilerVersion.utf8ByteSize := by
  unfold Header.read
  refine ((takes_take _).mono fun _ => Nat.zero_le _).after fun found => ?_
  refine takes_readUInt32.after fun version => ?_
  refine (takes_readText.mono fun _ => Nat.le_add_right _ 1).bind fun compilerVersion => ?_
  refine takes_readDigest.after fun sourceHash => takes_readDigest.after fun fullHash => ?_
  refine takes_readDigest.after fun checksum => ?_
  split
  · exact .pure (Nat.sub_self _)
  · exact .refuse

/-- **The header of a compiler version is not shorter than the version.** -/
theorem utf8ByteSize_le_of_headerOf? {version : String} {head : Bytes} {header : Header}
    (h : headerOf? version head = some header) : version.utf8ByteSize ≤ head.length := by
  obtain ⟨⟨found, rest⟩, hread, h⟩ := Option.bind_eq_some_iff.1 h
  dsimp only at h
  split at h
  · rename_i hversion
    have := Header.takes_read head found rest hread
    dsimp only at this
    rw [hversion] at this
    omega
  · contradiction

end Artifact

/-- **The interface of an artifact has no more imports than the artifact has bytes.** -/
theorem Artifact.length_imports_le {version : String} {codec : Codec} (hcompact : codec.Compact)
    {file : Bytes} {i : Interface} (h : Artifact.interface? version codec file = some i) :
    i.imports.length ≤ file.length := by
  obtain ⟨head, payload, header, hsplit, -, -, hdecode, -⟩ := interface?_eq_some_iff.1 h
  obtain ⟨taken, rfl, -⟩ := delimited_split? file head payload hsplit
  have := hcompact payload i hdecode
  rw [List.length_append]
  omega

end ModuleLoader
