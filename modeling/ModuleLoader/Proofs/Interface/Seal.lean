import Mathlib.Data.Set.Function
import ModuleLoader.Proofs.Wire.RoundTrip

/-!
# What a full digest covers

The full digest of an interface is the digest of one byte string: the encoded interface, with zeros
in the place of the digest, and after it the digests of the imports (`Interface.sealBytes`). Nothing
separates the one from the others, and both are as long as the interface wants them to be. That the
bytes still have one reading is due to the encoding, of which no proper beginning is an encoding too.
So two interfaces have the same bytes just if they have the same content, which is all of them but
the full digest itself (`Interface.sealBytes_eq_iff`).

Whether two interfaces with one full digest have the same content then is a matter of the digest
alone: either they have, or their bytes are two byte strings with one digest
(`Interface.computeHash_eq_iff`).
-/

namespace ModuleLoader

namespace Interface

variable {codec : Codec} {i j : Interface} {bytes bytes' : Bytes}

/-! ## The bytes of a seal -/

/-- **The bytes of which the full digest is the digest**: the encoded interface and the digests of
its imports. -/
def sealBytes (codec : Codec) (i : Interface) : Except CacheError Bytes := do
  let body ← codec.encode { i with fullHash := .zero }
  return body ++ (i.imports.map (·.2)).flatMap Digest.bytes

/-- There are such bytes just if the interface can be encoded, and what is encoded comes first. -/
theorem sealBytes_eq_ok_iff : i.sealBytes codec = .ok bytes ↔ ∃ body,
    codec.encode { i with fullHash := .zero } = .ok body ∧
      bytes = body ++ (i.imports.map (·.2)).flatMap Digest.bytes := by
  unfold sealBytes
  cases codec.encode { i with fullHash := .zero } with
  | error e => exact iff_of_false nofun fun ⟨_, h, _⟩ => nomatch h
  | ok body =>
    constructor
    · intro h
      exact ⟨body, rfl, (Except.ok.inj h).symm⟩
    · rintro ⟨found, hfound, rfl⟩
      rw [Except.ok.inj hfound]
      rfl

/-- An interface that fits has bytes in the binary form. -/
theorem exists_sealBytes (h : i.fits = true) : ∃ bytes, i.sealBytes .standard = .ok bytes := by
  have hencode : Codec.standard.encode { i with fullHash := .zero }
      = .ok ({ i with fullHash := .zero } : Interface).encode := if_pos h
  exact ⟨_, sealBytes_eq_ok_iff.2 ⟨_, hencode, rfl⟩⟩

/-- **The full digest is the digest of these bytes.** -/
theorem computeHash_eq (codec : Codec) (i : Interface) :
    i.computeHash codec = (i.sealBytes codec).map Digest.ofBytes := by
  unfold computeHash sealBytes
  cases codec.encode { i with fullHash := .zero } with
  | error e => rfl
  | ok body => rfl

/-- The full digest of a sealed interface is that of its bytes. -/
theorem sealBytes_of_sealed (h : i.sealed codec = .ok j) :
    ∃ bytes, j.sealBytes codec = .ok bytes ∧ j.fullHash = Digest.ofBytes bytes := by
  obtain ⟨body, hencode, rfl⟩ := sealed_eq_ok h
  exact ⟨_, sealBytes_eq_ok_iff.2 ⟨body, hencode, rfl⟩, rfl⟩

/-- **What has been sealed holds its own digest.** -/
theorem computeHash_of_sealed (h : i.sealed codec = .ok j) :
    j.computeHash codec = .ok j.fullHash := by
  obtain ⟨bytes, hbytes, hhash⟩ := sealBytes_of_sealed h
  rw [computeHash_eq, hbytes, hhash]
  rfl

/-- **What has been sealed is sealed**: sealing it again changes nothing. -/
theorem sealed_of_sealed (h : i.sealed codec = .ok j) : j.sealed codec = .ok j := by
  unfold Interface.sealed
  rw [computeHash_of_sealed h]
  rfl

/-- The digest that an interface holds before does not matter. -/
theorem sealed_withHash (codec : Codec) (i : Interface) (digest : Digest) :
    ({ i with fullHash := digest } : Interface).sealed codec = i.sealed codec := rfl

/-! ## What the bytes determine -/

/-- **The bytes and the full digest determine the interface.** -/
theorem eq_of_sealBytes (hcodec : codec.Faithful) (hi : i.sealBytes codec = .ok bytes)
    (hj : j.sealBytes codec = .ok bytes) (hhash : i.fullHash = j.fullHash) : i = j := by
  obtain ⟨body, hencode, rfl⟩ := sealBytes_eq_ok_iff.1 hi
  obtain ⟨body', hencode', heq⟩ := sealBytes_eq_ok_iff.1 hj
  have hsame : ({ i with fullHash := .zero } : Interface) = { j with fullHash := .zero } :=
    hcodec.eq_of_append hencode hencode' heq
  calc i = { ({ i with fullHash := .zero } : Interface) with fullHash := i.fullHash } := rfl
    _ = { ({ j with fullHash := .zero } : Interface) with fullHash := j.fullHash } := by
      rw [hsame, hhash]
    _ = j := rfl

/-- **Two interfaces have the same content** if they agree on everything but the full digest. -/
def SameContent (i j : Interface) : Prop := { i with fullHash := j.fullHash } = j

instance (i j : Interface) : Decidable (i.SameContent j) :=
  inferInstanceAs (Decidable ({ i with fullHash := j.fullHash } = j))

/-- **Sealing fills in the full digest and nothing else.** -/
theorem sealed_eq_ok_iff :
    i.sealed codec = .ok j ↔ i.computeHash codec = .ok j.fullHash ∧ i.SameContent j := by
  unfold Interface.sealed SameContent
  cases i.computeHash codec with
  | error e => exact iff_of_false nofun fun h => nomatch h.1
  | ok digest =>
    constructor
    · intro h
      rw [← Except.ok.inj h]
      exact ⟨rfl, rfl⟩
    · rintro ⟨hhash, hsame⟩
      rw [← hsame, ← Except.ok.inj hhash]
      rfl

/-- **The bytes of two interfaces are the same just if their content is.** -/
theorem sealBytes_eq_iff (hcodec : codec.Faithful) (hi : i.sealBytes codec = .ok bytes)
    (hj : j.sealBytes codec = .ok bytes') : bytes = bytes' ↔ i.SameContent j := by
  -- The bytes of an interface do not depend on the full digest, which may be that of the other one.
  have hi' : ({ i with fullHash := j.fullHash } : Interface).sealBytes codec = .ok bytes := hi
  constructor
  · rintro rfl
    exact eq_of_sealBytes hcodec hi' hj rfl
  · intro h
    rw [h, hj] at hi'
    exact (Except.ok.inj hi').symm

/-- **Two interfaces collide**: other bytes have the same digest. -/
def Collides (codec : Codec) (i j : Interface) : Prop :=
  ∃ bytes bytes', i.sealBytes codec = .ok bytes ∧ j.sealBytes codec = .ok bytes' ∧
    bytes ≠ bytes' ∧ Digest.ofBytes bytes = Digest.ofBytes bytes'

instance (codec : Codec) (i j : Interface) : Decidable (i.Collides codec j) :=
  match h : i.sealBytes codec, h' : j.sealBytes codec with
  | .ok bytes, .ok bytes' =>
    decidable_of_iff (bytes ≠ bytes' ∧ Digest.ofBytes bytes = Digest.ofBytes bytes')
      ⟨fun hcollide => ⟨bytes, bytes', h, h', hcollide⟩, fun ⟨_, _, hi, hj, hcollide⟩ => by
        obtain rfl := Except.ok.inj (h.symm.trans hi)
        obtain rfl := Except.ok.inj (h'.symm.trans hj)
        exact hcollide⟩
  | .error _, _ => isFalse fun ⟨_, _, hi, _⟩ => nomatch h.symm.trans hi
  | .ok _, .error _ => isFalse fun ⟨_, _, _, hj, _⟩ => nomatch h'.symm.trans hj

/-- **Two interfaces with one full digest have the same content or collide.** -/
theorem computeHash_eq_iff (hcodec : codec.Faithful) (hi : i.sealBytes codec = .ok bytes)
    (hj : j.sealBytes codec = .ok bytes') :
    i.computeHash codec = j.computeHash codec ↔ i.SameContent j ∨ i.Collides codec j := by
  rw [computeHash_eq, computeHash_eq, hi, hj, ← sealBytes_eq_iff hcodec hi hj]
  constructor
  · intro h
    have hhash : Digest.ofBytes bytes = Digest.ofBytes bytes' := Except.ok.inj h
    by_cases hsame : bytes = bytes'
    · exact .inl hsame
    · exact .inr ⟨bytes, bytes', hi, hj, hsame, hhash⟩
  · rintro (rfl | ⟨found, found', hfound, hfound', -, hhash⟩)
    · rfl
    · obtain rfl := Except.ok.inj (hi.symm.trans hfound)
      obtain rfl := Except.ok.inj (hj.symm.trans hfound')
      exact congrArg Except.ok hhash

/-- **The full digest covers the whole interface.** In the binary form two interfaces are hashed as
the same bytes just if they agree on everything but the full digest, so unless they collide they have
one full digest just if they do. An interface can be sealed. With every codec, what is sealed holds
the digest of the bytes and is as it was otherwise; a second seal changes nothing, nor does the
digest that was there before the first. -/
theorem computeHash_covers (hi : i.fits = true) (hj : j.fits = true) :
    (∃ bytes bytes', i.sealBytes .standard = .ok bytes ∧ j.sealBytes .standard = .ok bytes' ∧
      i.computeHash .standard = .ok (Digest.ofBytes bytes) ∧
      j.computeHash .standard = .ok (Digest.ofBytes bytes') ∧
      (bytes = bytes' ↔ i.SameContent j)) ∧
    (¬ i.Collides .standard j →
      (i.computeHash .standard = j.computeHash .standard ↔ i.SameContent j)) ∧
    (∃ k, i.sealed .standard = .ok k) ∧
    ∀ codec : Codec, (∀ k, i.sealed codec = .ok k ↔
        i.computeHash codec = .ok k.fullHash ∧ i.SameContent k) ∧
      (∀ k, i.sealed codec = .ok k → k.sealed codec = .ok k) ∧
      ∀ digest, ({ i with fullHash := digest } : Interface).sealed codec = i.sealed codec := by
  obtain ⟨bytes, hbytes⟩ := exists_sealBytes hi
  obtain ⟨bytes', hbytes'⟩ := exists_sealBytes hj
  have hhash : i.computeHash .standard = .ok (Digest.ofBytes bytes) := by
    rw [computeHash_eq, hbytes]
    rfl
  have hhash' : j.computeHash .standard = .ok (Digest.ofBytes bytes') := by
    rw [computeHash_eq, hbytes']
    rfl
  refine ⟨⟨bytes, bytes', hbytes, hbytes', hhash, hhash', ?_⟩, fun hfree => ?_, ?_, fun codec => ?_⟩
  · exact sealBytes_eq_iff Codec.standard_faithful hbytes hbytes'
  · rw [computeHash_eq_iff Codec.standard_faithful hbytes hbytes', or_iff_left hfree]
  · refine ⟨{ i with fullHash := Digest.ofBytes bytes }, ?_⟩
    unfold Interface.sealed
    rw [hhash]
    rfl
  · exact ⟨fun k => sealed_eq_ok_iff, fun k => sealed_of_sealed, i.sealed_withHash codec⟩

/-- An import that is listed once and one that is listed twice are hashed as different bytes. -/
theorem computeHash_covers_multilingual :
    (Codec.multilingual 1).fits = true ∧ (Codec.multilingual 2).fits = true ∧
    ∃ bytes bytes', (Codec.multilingual 1).sealBytes .standard = .ok bytes ∧
      (Codec.multilingual 2).sealBytes .standard = .ok bytes' ∧ bytes ≠ bytes' := by
  have hone := Codec.fits_multilingual (n := 1) (by decide)
  have htwo := Codec.fits_multilingual (n := 2) (by decide)
  obtain ⟨⟨bytes, bytes', hbytes, hbytes', -, -, hiff⟩, -⟩ := computeHash_covers hone htwo
  have hother : ¬ (Codec.multilingual 1).SameContent (Codec.multilingual 2) := by decide +kernel
  exact ⟨hone, htwo, bytes, bytes', hbytes, hbytes', fun h => hother (hiff.1 h)⟩

/-! ## Sealed interfaces -/

/-- **A sealed interface**: its full digest is that of its bytes. -/
def Sealed (codec : Codec) (i : Interface) : Prop :=
  ∃ bytes, i.sealBytes codec = .ok bytes ∧ i.fullHash = Digest.ofBytes bytes

/-- Whether an interface is sealed can be decided. -/
instance (codec : Codec) (i : Interface) : Decidable (i.Sealed codec) :=
  match h : i.sealBytes codec with
  | .ok bytes =>
    decidable_of_iff (i.fullHash = Digest.ofBytes bytes)
      ⟨fun hhash => ⟨bytes, h, hhash⟩, fun ⟨_, hbytes, hhash⟩ =>
        Except.ok.inj (h.symm.trans hbytes) ▸ hhash⟩
  | .error _ => isFalse fun ⟨_, hbytes, _⟩ => nomatch h.symm.trans hbytes

/-- The bytes of some interfaces. -/
def allBytes (codec : Codec) (interfaces : Set Interface) : Set Bytes :=
  { bytes | ∃ i ∈ interfaces, i.sealBytes codec = .ok bytes }

/-- **The full digest determines a sealed interface**, as long as no two byte strings that were hashed
have one digest. -/
theorem Sealed.eq_of_fullHash (hcodec : codec.Faithful) {hashed : Set Bytes}
    (hinj : Set.InjOn Digest.ofBytes hashed) (hi : i.Sealed codec) (hj : j.Sealed codec)
    (himem : ∀ bytes, i.sealBytes codec = .ok bytes → bytes ∈ hashed)
    (hjmem : ∀ bytes, j.sealBytes codec = .ok bytes → bytes ∈ hashed)
    (hhash : i.fullHash = j.fullHash) : i = j := by
  obtain ⟨bytes, hbytes, hofBytes⟩ := hi
  obtain ⟨bytes', hbytes', hofBytes'⟩ := hj
  obtain rfl : bytes = bytes' := by
    refine hinj (himem bytes hbytes) (hjmem bytes' hbytes') ?_
    rw [← hofBytes, ← hofBytes', hhash]
  exact eq_of_sealBytes hcodec hbytes hbytes' hhash

end Interface

end ModuleLoader
