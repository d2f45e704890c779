import ModuleLoader.Proofs.Wire.RoundTrip

/-!
# Where a value ends

A reader decides as it goes how many bytes it takes, and it cannot look ahead. So what it has taken
decides alone about its answer: whatever follows, the answer is the same, and what follows is what
is left. This is `Wire.Delimited`. It does not start from values that were written, as
`Wire.Reads` does, but from any bytes that can be read, also those that no writer leaves: numbers in
a longer form than they need, maps out of order or with repeated keys.

Being delimited is a property of the byte, of a number of bytes, and of giving up, and it is closed
under `bind`; everything else is put together from these. What it comes to is that of a byte string
and a proper beginning of it at most one is used up by a reader
(`Wire.Delimited.readAll_eq_none_or`), and so at most one of them encodes an interface.
-/

namespace ModuleLoader

namespace Wire

/-- **A reader whose values say where they end**: it answers with the same value in front of
anything else, and leaves that. -/
def Delimited {α : Type} (read : Reader α) : Prop :=
  ∀ bytes a rest, read bytes = some (a, rest) →
    ∃ taken, bytes = taken ++ rest ∧ Reads read taken a

/-- A whole byte string holds a value if the reader leaves nothing. -/
theorem readAll_eq_some_iff {α : Type} {read : Reader α} {bytes : Bytes} {a : α} :
    readAll read bytes = some a ↔ read bytes = some (a, []) := by
  unfold readAll
  split
  · rename_i b hread
    rw [hread]
    simp
  · rename_i hnot
    exact iff_of_false nofun (hnot a)

namespace Delimited

variable {α β : Type} {read : Reader α} {next : α → Reader β}

/-- A reader that takes nothing. -/
theorem pure (a : α) : Delimited (Pure.pure a) := by
  intro bytes b rest hread
  obtain ⟨rfl, rfl⟩ := Prod.mk.inj (Option.some.inj hread)
  exact ⟨[], rfl, Reads.pure a⟩

/-- A reader that gives up has no answer. -/
theorem refuse : Delimited (Wire.refuse : Reader α) := nofun

/-- **One reader after another**: what both have taken decides about the answer. -/
theorem bind (h : Delimited read) (hnext : ∀ a, Delimited (next a)) :
    Delimited (read >>= next) := by
  intro bytes b rest hread
  obtain ⟨⟨a, mid⟩, hfirst, hsecond⟩ := Option.bind_eq_some_iff.1 hread
  obtain ⟨first, rfl, hreads⟩ := h bytes a mid hfirst
  obtain ⟨second, rfl, hreads'⟩ := hnext a mid b rest hsecond
  exact ⟨first ++ second, (List.append_assoc first second rest).symm, hreads.bind hreads'⟩

/-- A reader whose answer is changed afterwards. -/
theorem map (h : Delimited read) (f : α → β) :
    Delimited (read >>= fun a => Pure.pure (f a)) := h.bind fun a => .pure (f a)

/-- What uses up a byte string leaves over whatever is put behind it. -/
theorem readAll_append (h : Delimited read) {bytes more : Bytes} {a : α}
    (hread : readAll read bytes = some a) (hmore : more ≠ []) :
    readAll read (bytes ++ more) = none := by
  obtain ⟨taken, heq, hreads⟩ := h bytes a [] (readAll_eq_some_iff.1 hread)
  obtain rfl : bytes = taken := heq.trans (List.append_nil taken)
  rw [Option.eq_none_iff_forall_ne_some]
  intro b hb
  have hrest := readAll_eq_some_iff.1 hb
  rw [hreads more] at hrest
  exact hmore (Prod.mk.inj (Option.some.inj hrest)).2

/-- **Of a byte string and a proper beginning of it at most one is used up.** -/
theorem readAll_eq_none_or (h : Delimited read) {bytes bytes' : Bytes} (hbegins : bytes <+: bytes')
    (hne : bytes ≠ bytes') : readAll read bytes = none ∨ readAll read bytes' = none := by
  obtain ⟨more, rfl⟩ := hbegins
  have hmore : more ≠ [] := by
    rintro rfl
    exact hne (List.append_nil bytes).symm
  cases hread : readAll read bytes with
  | none => exact .inl rfl
  | some a => exact .inr (h.readAll_append hread hmore)

end Delimited

variable {α β : Type}

/-! ## Bytes, numbers and texts -/

theorem delimited_byte : Delimited byte := by
  intro bytes b rest hread
  cases bytes with
  | nil => contradiction
  | cons first others =>
    obtain ⟨rfl, rfl⟩ := Prod.mk.inj (Option.some.inj hread)
    exact ⟨[first], rfl, reads_byte first⟩

theorem delimited_take (count : Nat) : Delimited (take count) := by
  intro bytes a rest hread
  unfold take at hread
  split at hread
  · rename_i hle
    obtain ⟨rfl, rfl⟩ := Prod.mk.inj (Option.some.inj hread)
    have hreads := reads_take (bytes.take count)
    rw [List.length_take, Nat.min_eq_left hle] at hreads
    exact ⟨bytes.take count, (List.take_append_drop count bytes).symm, hreads⟩
  · contradiction

/-- A number says where it ends in whichever form it is: the first byte gives the width. -/
theorem delimited_readNat (widest : Nat) : Delimited (readNat widest) := by
  unfold readNat
  refine delimited_byte.bind fun first => ?_
  split
  · exact .pure _
  · split
    · split
      · exact (delimited_take _).map Bytes.toNatLE
      · exact .refuse
    · exact .refuse

theorem delimited_readUInt16 : Delimited readUInt16 := (delimited_readNat 2).map UInt16.ofNat

theorem delimited_readBool : Delimited readBool := by
  unfold readBool
  refine delimited_byte.bind fun b => ?_
  split
  · exact .pure false
  · split
    · exact .pure true
    · exact .refuse

theorem delimited_readDigest : Delimited readDigest := by
  unfold readDigest
  refine (delimited_take 16).bind fun bytes => ?_
  split
  · exact .pure _
  · exact .refuse

theorem delimited_readText : Delimited readText := by
  unfold readText
  refine (delimited_readNat 8).bind fun length => (delimited_take length).bind fun bytes => ?_
  split
  · exact .pure _
  · exact .refuse

/-! ## Several values -/

section

variable {read : Reader α} {readSecond : Reader β}

theorem delimited_readOption (h : Delimited read) : Delimited (readOption read) := by
  unfold readOption
  refine delimited_readBool.bind fun b => ?_
  split
  · exact h.map some
  · exact .pure none

theorem delimited_readMany (h : Delimited read) (count : Nat) : Delimited (readMany read count) := by
  induction count with
  | zero => exact .pure []
  | succ count ih => exact h.bind fun a => ih.map (a :: ·)

theorem delimited_readList (h : Delimited read) : Delimited (readList read) :=
  (delimited_readNat 8).bind (delimited_readMany h)

theorem delimited_readPair (h : Delimited read) (hsecond : Delimited readSecond) :
    Delimited (readPair read readSecond) :=
  h.bind fun a => hsecond.map (Prod.mk a)

end

end Wire

open Wire

/-! ## Interfaces -/

theorem ModuleName.delimited_read : Delimited ModuleName.read := delimited_readText.map ModuleName.mk

theorem NameSet.delimited_read : Delimited NameSet.read :=
  (delimited_readList delimited_readText).map NameSet.ofList

theorem OrderedMap.delimited_read {α : Type} {readValue : Reader α} (h : Delimited readValue) :
    Delimited (OrderedMap.read readValue) :=
  (delimited_readList (delimited_readPair delimited_readText h)).map OrderedMap.ofList

theorem Options.delimited_read : Delimited Options.read :=
  (delimited_readMany delimited_readBool Flag.all.length).map Options.ofBools

theorem Diagnostic.delimited_read : Delimited Diagnostic.read := by
  refine delimited_readUInt16.bind fun code => delimited_readText.bind fun message => ?_
  refine (delimited_readOption ModuleName.delimited_read).bind fun module => ?_
  exact (delimited_readList delimited_readText).bind fun notes => .pure _

theorem Exports.delimited_read : Delimited Exports.read := by
  have htexts := OrderedMap.delimited_read delimited_readText
  have hlists := OrderedMap.delimited_read (delimited_readList delimited_readText)
  refine NameSet.delimited_read.bind fun scope => htexts.bind fun signature => ?_
  refine htexts.bind fun builtins => htexts.bind fun patternSynonyms => ?_
  refine hlists.bind fun displayForms => htexts.bind fun userWarnings => ?_
  exact NameSet.delimited_read.bind fun partialDefinitions => .pure _

namespace Interface

/-- **An interface says where it ends**, in whatever form its bytes are. -/
theorem delimited_read : Delimited read := by
  have himports := delimited_readList (delimited_readPair ModuleName.delimited_read
    delimited_readDigest)
  refine ModuleName.delimited_read.bind fun name => delimited_readDigest.bind fun sourceHash => ?_
  refine delimited_readDigest.bind fun fullHash => himports.bind fun imports => ?_
  refine Options.delimited_read.bind fun options => delimited_readDigest.bind fun baseOptions => ?_
  refine Exports.delimited_read.bind fun exports => ?_
  refine (delimited_readList Diagnostic.delimited_read).bind fun warnings => ?_
  exact (delimited_readOption delimited_readText).bind fun importWarning => .pure _

/-- Of a byte string and a proper beginning of it at most one encodes an interface. -/
theorem decode?_eq_none_or {bytes bytes' : Bytes} (hbegins : bytes <+: bytes')
    (hne : bytes ≠ bytes') : decode? bytes = none ∨ decode? bytes' = none :=
  delimited_read.readAll_eq_none_or hbegins hne

end Interface

end ModuleLoader
