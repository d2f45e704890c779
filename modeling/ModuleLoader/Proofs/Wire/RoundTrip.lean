import ModuleLoader.Interface.Sealing

/-!
# Reading back what was written

A writer and a reader belong together if the reader, started in front of what the writer wrote,
answers with the value and leaves whatever follows. This is `Wire.Reads`, and it is closed under
everything that the layouts are made of: one value after another, optional values, lists.

Stating it with arbitrary bytes behind the value is what makes it compose, and it says more than a
round trip. If the bytes of two values begin one and the same byte string, the reader answers with
both, so they are one value: no layout is a proper beginning of another. This is
`Interface.eq_of_encode_append`, and it is why the bytes that a full digest covers, in which the
encoded interface is followed by other digests without a separator, determine the interface.

`Codec.standard_faithful` collects what the loader relies on in a codec.
-/

namespace ModuleLoader

-- Powers are the ones that come with the numbers, whatever algebra is imported elsewhere.
attribute [local instance (high)] instPowNat

namespace Wire

/-- **A reader answers with a value** in front of some bytes, and leaves what follows them. -/
def Reads {α : Type} (read : Reader α) (bytes : Bytes) (a : α) : Prop :=
  ∀ rest, read (bytes ++ rest) = some (a, rest)

namespace Reads

variable {α β : Type}

/-- A reader that takes nothing. -/
theorem pure (a : α) : Reads (Pure.pure a) [] a := fun _ => rfl

/-- One reader after another reads one value after another. -/
theorem bind {read : Reader α} {next : α → Reader β} {first second : Bytes} {a : α} {b : β}
    (h : Reads read first a) (hnext : Reads (next a) second b) :
    Reads (read >>= next) (first ++ second) b := by
  intro rest
  show (read (first ++ second ++ rest)).bind (fun r => next r.1 r.2) = _
  rw [List.append_assoc, h]
  exact hnext rest

/-- A reader that looks at the answer of another one and takes nothing more. -/
theorem then_nothing {read : Reader α} {next : α → Reader β} {bytes : Bytes} {a : α} {b : β}
    (h : Reads read bytes a) (hnext : Reads (next a) [] b) : Reads (read >>= next) bytes b := by
  have := h.bind hnext
  rwa [List.append_nil] at this

/-- A reader whose answer is changed afterwards. -/
theorem map {read : Reader α} {bytes : Bytes} {a : α} (h : Reads read bytes a) (f : α → β) :
    Reads (read >>= fun x => Pure.pure (f x)) bytes (f a) :=
  h.then_nothing (Reads.pure (f a))

/-- What one reader answers in front of two beginnings of one byte string is one value. -/
theorem unique {read : Reader α} {bytes bytes' rest rest' : Bytes} {a a' : α}
    (h : Reads read bytes a) (h' : Reads read bytes' a') (heq : bytes ++ rest = bytes' ++ rest') :
    a = a' := by
  have hread := h rest
  rw [heq, h' rest'] at hread
  exact (congrArg Prod.fst (Option.some.inj hread)).symm

end Reads

/-! ## Bytes and numbers -/

theorem reads_byte (b : UInt8) : Reads byte [b] b := fun _ => rfl

theorem reads_take (bytes : Bytes) : Reads (take bytes.length) bytes bytes := by
  intro rest
  unfold take
  rw [if_pos (by simp), List.take_left, List.drop_left]

/-- The marker of a number of `width` bytes, and its bytes. -/
theorem reads_marked {widest width n : Nat} {marker : UInt8} (hmarker : ¬ marker.toNat < 251)
    (hwidth : markerWidth? marker = some width) (hle : width ≤ widest) (hn : n < 256 ^ width) :
    Reads (readNat widest) (marker :: Bytes.ofNatLE width n) n := by
  have htake := reads_take (Bytes.ofNatLE width n)
  rw [Bytes.length_ofNatLE] at htake
  unfold readNat
  refine (reads_byte marker).bind ?_
  rw [if_neg hmarker, hwidth]
  dsimp only
  rw [if_pos hle]
  have := htake.map Bytes.toNatLE
  rwa [Bytes.toNatLE_ofNatLE hn] at this

/-- **A number is read back** by every reader that is wide enough for it. -/
theorem reads_writeNat {widest n : Nat} (hwidest : widest = 2 ∨ widest = 4 ∨ widest = 8)
    (hn : n < 256 ^ widest) : Reads (readNat widest) (writeNat n) n := by
  unfold writeNat
  split
  · rename_i h
    have hsmall : (UInt8.ofNat n).toNat = n := by simp; omega
    unfold readNat
    refine (reads_byte (UInt8.ofNat n)).bind ?_
    rw [hsmall, if_pos h]
    exact Reads.pure n
  · split
    · refine reads_marked (by decide) rfl ?_ (by omega)
      omega
    · split
      · refine reads_marked (by decide) rfl ?_ (by omega)
        rcases hwidest with rfl | rfl | rfl <;> omega
      · refine reads_marked (by decide) rfl ?_ ?_
        all_goals rcases hwidest with rfl | rfl | rfl <;> omega

theorem reads_length {n : Nat} (h : n < 2 ^ (64 : Nat)) : Reads readLength (writeNat n) n :=
  reads_writeNat (by decide) (by omega)

theorem reads_writeUInt16 (n : UInt16) : Reads readUInt16 (writeUInt16 n) n := by
  have hnat : Reads (readNat 2) (writeNat n.toNat) n.toNat :=
    reads_writeNat (by decide) n.toNat_lt
  have := hnat.map UInt16.ofNat
  rwa [UInt16.ofNat_toNat] at this

theorem reads_writeUInt32 (n : UInt32) : Reads readUInt32 (writeUInt32 n) n := by
  have hnat : Reads (readNat 4) (writeNat n.toNat) n.toNat :=
    reads_writeNat (by decide) n.toNat_lt
  have := hnat.map UInt32.ofNat
  rwa [UInt32.ofNat_toNat] at this

/-! ## Truth values, digests and texts -/

theorem reads_writeBool (b : Bool) : Reads readBool (writeBool b) b := by
  cases b <;> exact fun _ => rfl

theorem reads_writeDigest (d : Digest) : Reads readDigest (writeDigest d) d := by
  have htake := reads_take d.bytes
  rw [d.length_bytes] at htake
  unfold readDigest writeDigest
  refine htake.then_nothing ?_
  rw [Digest.ofRaw?_bytes]
  exact Reads.pure d

theorem length_ofText (text : String) : (Bytes.ofText text).length = text.utf8ByteSize := rfl

theorem reads_writeText {text : String} (h : textFits text = true) :
    Reads readText (writeText text) text := by
  have hlength : (Bytes.ofText text).length < 2 ^ (64 : Nat) := by
    rw [length_ofText]
    exact of_decide_eq_true h
  refine (reads_length hlength).bind ?_
  refine (reads_take (Bytes.ofText text)).then_nothing ?_
  rw [Bytes.text?_ofText]
  exact Reads.pure text

/-! ## Several values -/

variable {α β : Type}

theorem reads_writeOption {read : Reader α} {write : α → Bytes} {fits : α → Bool}
    (h : ∀ a, fits a = true → Reads read (write a) a) {value : Option α}
    (hfits : optionFits fits value = true) : Reads (readOption read) (writeOption write value) value := by
  cases value with
  | none => exact fun _ => rfl
  | some a =>
    have ha : fits a = true := hfits
    exact (reads_writeBool true).bind ((h a ha).map some)

theorem reads_many {read : Reader α} {write : α → Bytes} {list : List α}
    (h : ∀ a ∈ list, Reads read (write a) a) :
    Reads (readMany read list.length) (list.flatMap write) list := by
  induction list with
  | nil => exact fun _ => rfl
  | cons a list ih =>
    rw [List.flatMap_cons]
    refine (h a List.mem_cons_self).bind ?_
    exact (ih fun b hb => h b (List.mem_cons_of_mem _ hb)).map (a :: ·)

theorem reads_writeList {read : Reader α} {write : α → Bytes} {fits : α → Bool}
    (h : ∀ a, fits a = true → Reads read (write a) a) {list : List α}
    (hfits : listFits fits list = true) : Reads (readList read) (writeList write list) list := by
  obtain ⟨hlength, hall⟩ := Bool.and_eq_true_iff.1 hfits
  refine (reads_length (of_decide_eq_true hlength)).bind ?_
  exact reads_many fun a ha => h a (List.all_eq_true.1 hall a ha)

theorem reads_writePair {readFirst : Reader α} {readSecond : Reader β} {writeFirst : α → Bytes}
    {writeSecond : β → Bytes} {pair : α × β} (h : Reads readFirst (writeFirst pair.1) pair.1)
    (h' : Reads readSecond (writeSecond pair.2) pair.2) :
    Reads (readPair readFirst readSecond) (writePair writeFirst writeSecond pair) pair :=
  h.bind (h'.map (Prod.mk pair.1))

end Wire

open Wire

/-! ## The parts of an interface -/

theorem ModuleName.reads_write {m : ModuleName} (h : textFits m.text = true) :
    Reads ModuleName.read (ModuleName.write m) m :=
  (reads_writeText h).map ModuleName.mk

theorem OrderedMap.reads_write {α : Type} {readValue : Reader α} {writeValue : α → Bytes}
    {valueFits : α → Bool} (h : ∀ a, valueFits a = true → Reads readValue (writeValue a) a)
    {m : OrderedMap α} (hm : OrderedMap.fits valueFits m = true) :
    Reads (OrderedMap.read readValue) (OrderedMap.write writeValue m) m := by
  have hentries : Reads (readList (readPair readText readValue))
      (writeList (writePair writeText writeValue) m.entries) m.entries := by
    refine reads_writeList (fun e he => ?_) hm
    obtain ⟨hkey, hvalue⟩ := Bool.and_eq_true_iff.1 he
    exact reads_writePair (reads_writeText hkey) (h e.2 hvalue)
  have := hentries.map OrderedMap.ofList
  rwa [OrderedMap.ofList_entries] at this

/-- A set is the set of its members. -/
theorem NameSet.ofList_toList (s : NameSet) : NameSet.ofList s.toList = s := by
  have hentries : (s.toList.map fun n => (n, ())) = s.entries := by
    unfold NameSet.toList OrderedMap.keys
    rw [List.map_map]
    exact List.map_id _
  unfold NameSet.ofList
  rw [hentries, OrderedMap.ofList_entries]

theorem NameSet.reads_write {s : NameSet} (h : NameSet.fits s = true) :
    Reads NameSet.read (NameSet.write s) s := by
  have := (reads_writeList (fun _ => reads_writeText) h).map NameSet.ofList
  rwa [NameSet.ofList_toList] at this

theorem Options.reads_write (o : Options) : Reads Options.read (Options.write o) o := by
  have hbools : Reads (readMany readBool o.toBools.length) (o.toBools.flatMap writeBool) o.toBools :=
    reads_many fun b _ => reads_writeBool b
  have := hbools.map Options.ofBools
  rwa [Options.ofBools_toBools] at this

theorem Diagnostic.reads_write {d : Diagnostic} (h : d.fits = true) :
    Reads Diagnostic.read (Diagnostic.write d) d := by
  simp only [Diagnostic.fits, Bool.and_eq_true] at h
  obtain ⟨⟨hmessage, hmodule⟩, hnotes⟩ := h
  unfold Diagnostic.read Diagnostic.write
  rw [List.append_assoc, List.append_assoc]
  refine (reads_writeUInt16 _).bind ((reads_writeText hmessage).bind ?_)
  refine (reads_writeOption (fun _ => ModuleName.reads_write) hmodule).bind ?_
  exact (reads_writeList (fun _ => reads_writeText) hnotes).map fun notes => { d with notes }

theorem Exports.reads_write {e : Exports} (h : e.fits = true) :
    Reads Exports.read (Exports.write e) e := by
  simp only [Exports.fits, Bool.and_eq_true] at h
  obtain ⟨⟨⟨⟨⟨⟨hscope, hsignature⟩, hbuiltins⟩, hpatterns⟩, hforms⟩, hwarnings⟩, hpartial⟩ := h
  have htexts : ∀ text, textFits text = true → Reads readText (writeText text) text :=
    fun _ => reads_writeText
  unfold Exports.read Exports.write
  simp only [List.append_assoc]
  refine (NameSet.reads_write hscope).bind ((OrderedMap.reads_write htexts hsignature).bind ?_)
  refine (OrderedMap.reads_write htexts hbuiltins).bind ?_
  refine (OrderedMap.reads_write htexts hpatterns).bind ?_
  refine (OrderedMap.reads_write (fun _ => reads_writeList htexts) hforms).bind ?_
  refine (OrderedMap.reads_write htexts hwarnings).bind ?_
  exact (NameSet.reads_write hpartial).map fun partialDefinitions =>
    { e with partialDefinitions }

namespace Interface

/-- **An interface that fits is read back**, whatever follows its bytes. -/
theorem reads_encode {i : Interface} (h : i.fits = true) : Reads read i.encode i := by
  simp only [fits, Bool.and_eq_true] at h
  obtain ⟨⟨⟨⟨hname, himports⟩, hexports⟩, hwarnings⟩, hmessage⟩ := h
  have hpair : ∀ e : ModuleName × Digest, textFits e.1.text = true →
      Reads (readPair ModuleName.read readDigest) (writePair ModuleName.write writeDigest e) e :=
    fun e he => reads_writePair (ModuleName.reads_write he) (reads_writeDigest e.2)
  unfold read encode
  simp only [List.append_assoc]
  refine (ModuleName.reads_write hname).bind ((reads_writeDigest _).bind ?_)
  refine (reads_writeDigest _).bind ((reads_writeList hpair himports).bind ?_)
  refine (Options.reads_write _).bind ((reads_writeDigest _).bind ?_)
  refine (Exports.reads_write hexports).bind ?_
  refine (reads_writeList (fun _ => Diagnostic.reads_write) hwarnings).bind ?_
  exact (reads_writeOption (fun _ => reads_writeText) hmessage).map fun importWarning =>
    { i with importWarning }

/-- The bytes of an interface that fits decode to it. -/
theorem decode?_encode {i : Interface} (h : i.fits = true) : decode? i.encode = some i := by
  have := reads_encode h []
  rw [List.append_nil] at this
  unfold decode? readAll
  rw [this]

/-- **The bytes of an interface say where they end**: no two interfaces have bytes that begin one
byte string. -/
theorem eq_of_encode_append {i j : Interface} (hi : i.fits = true) (hj : j.fits = true)
    {rest rest' : Bytes} (h : i.encode ++ rest = j.encode ++ rest') : i = j :=
  (reads_encode hi).unique (reads_encode hj) h

end Interface

/-! ## What the loader relies on in a codec -/

/-- **A codec that the loader can rely on.** It may refuse to encode, and it may fail to decode what
it encoded, but what it decodes from the bytes of an interface is that interface, and the bytes of
one interface are no proper beginning of the bytes of another. -/
structure Codec.Faithful (codec : Codec) : Prop where
  /-- Encoded bytes decode to what was encoded, if to anything. -/
  eq_of_decode {i j : Interface} {bytes : Bytes} :
    codec.encode i = .ok bytes → codec.decode? bytes = some j → j = i
  /-- Encoded bytes say where they end. -/
  eq_of_append {i j : Interface} {bytes bytes' rest rest' : Bytes} :
    codec.encode i = .ok bytes → codec.encode j = .ok bytes' → bytes ++ rest = bytes' ++ rest' →
      i = j

namespace Codec

/-- What the standard codec encodes fits, and is laid out in the binary form. -/
theorem standard_encode_eq_ok {i : Interface} {bytes : Bytes} (h : standard.encode i = .ok bytes) :
    i.fits = true ∧ i.encode = bytes := by
  unfold standard at h
  dsimp only at h
  split at h
  · rename_i hfits
    exact ⟨hfits, Except.ok.inj h⟩
  · contradiction

/-- The standard codec reads back what it lays out in the binary form. -/
theorem standard_decode?_of_fits {i : Interface} (h : i.fits = true) :
    standard.decode? i.encode = some i := by
  rw [show standard.decode? = Interface.decode? from rfl]
  exact Interface.decode?_encode h

/-- **The standard codec can be relied on.** -/
theorem standard_faithful : standard.Faithful where
  eq_of_decode {i j bytes} hi hj := by
    obtain ⟨hfits, rfl⟩ := standard_encode_eq_ok hi
    rw [standard_decode?_of_fits hfits] at hj
    exact (Option.some.inj hj).symm
  eq_of_append {i j bytes bytes' rest rest'} hi hj h := by
    obtain ⟨hifits, rfl⟩ := standard_encode_eq_ok hi
    obtain ⟨hjfits, rfl⟩ := standard_encode_eq_ok hj
    exact Interface.eq_of_encode_append hifits hjfits h

/-- **Decoding inverts encoding, for every interface**: one whose lengths are numbers of eight bytes
is encoded, its bytes decode to it, and no other interface is encoded by the same bytes. -/
theorem standard_decode?_encode {i : Interface} (h : i.fits = true) :
    ∃ bytes, standard.encode i = .ok bytes ∧ standard.decode? bytes = some i ∧
      ∀ j, standard.encode j = .ok bytes → j = i := by
  have hencode : standard.encode i = .ok i.encode := if_pos h
  have hdecode := standard_decode?_of_fits h
  exact ⟨i.encode, hencode, hdecode, fun j hj => (standard_faithful.eq_of_decode hj hdecode).symm⟩

/-- An interface with a given number of imports, all of one module, and with texts beyond ASCII in
its name, its tables, its warnings and its message for importers. -/
def multilingual (n : Nat) : Interface where
  name := ⟨"Größe"⟩
  sourceHash := Digest.ofText "module Größe"
  fullHash := .zero
  imports := List.replicate n (⟨"Länge.Δ"⟩, .zero)
  options := default
  baseOptions := .zero
  exports := { Exports.empty with
    scope := NameSet.ofList ["β", "α", "β"]
    displayForms := OrderedMap.ofList [("𝔸", ["→", "⇒"]), ("", [])] }
  warnings := [⟨.infectiveImport, "naïve", some ⟨"Länge.Δ"⟩, ["—", ""]⟩,
    ⟨⟨65535⟩, "", none, []⟩]
  importWarning := some "日本語"

/-- The lengths in such an interface are in bounds as soon as the number of imports is. -/
theorem fits_multilingual {n : Nat} (h : n < 2 ^ (64 : Nat)) : (multilingual n).fits = true := by
  have himport : textFits "Länge.Δ" = true := by decide +kernel
  have himports : listFits (fun e : ModuleName × Digest => textFits e.1.text)
      (List.replicate n (⟨"Länge.Δ"⟩, .zero)) = true := by
    simp only [listFits, List.length_replicate, List.all_replicate, himport, h, decide_true,
      Bool.true_and, ite_self]
  have hrest : (multilingual 0).fits = true := by decide +kernel
  simp only [Interface.fits, Bool.and_eq_true] at hrest ⊢
  obtain ⟨⟨⟨⟨hname, -⟩, hexports⟩, hwarnings⟩, hmessage⟩ := hrest
  exact ⟨⟨⟨⟨hname, himports⟩, hexports⟩, hwarnings⟩, hmessage⟩

/-- It is read back with four billion repeated imports and more, and no interface with fewer of them
has its bytes. -/
theorem standard_decode?_encode_multilingual :
    (multilingual (2 ^ (32 : Nat))).fits = true ∧
    ∃ bytes, standard.encode (multilingual (2 ^ (32 : Nat))) = .ok bytes ∧
      standard.decode? bytes = some (multilingual (2 ^ (32 : Nat))) ∧
      ∀ j, standard.encode j = .ok bytes → j = multilingual (2 ^ (32 : Nat)) :=
  have hfits := fits_multilingual (by decide)
  ⟨hfits, standard_decode?_encode hfits⟩

/-- A codec that refuses some interfaces can be relied on as much as the standard one. -/
theorem refusing_faithful (encoding decoding : ModuleName → Bool) :
    (refusing encoding decoding).Faithful where
  eq_of_decode {i j bytes} hi hj := by
    unfold refusing at hi hj
    dsimp only at hi hj
    split at hi
    · contradiction
    · exact standard_faithful.eq_of_decode hi (Option.eq_some_of_filter_eq_some hj)
  eq_of_append {i j bytes bytes' rest rest'} hi hj h := by
    unfold refusing at hi hj
    dsimp only at hi hj
    split at hi
    · contradiction
    · split at hj
      · contradiction
      · exact standard_faithful.eq_of_append hi hj h

end Codec

end ModuleLoader
