import Mathlib.Data.Set.Function
import Mathlib.Logic.Relation
import ModuleLoader.Load.Resolve
import ModuleLoader.Proofs.Check.Recipe
import ModuleLoader.Proofs.Interface.Seal

/-!
# What a project comes to

What the interface of a module should be does not depend on how the modules are loaded. It is
derived from the sources: a module has the interface that its recipe comes to when its imports have
the interfaces that are derived for them (`Toolchain.Derives`). A derivation is a finite tree, so
modules that import themselves through others have none, and there is at most one interface for a
module (`Toolchain.Derives.unique`).

Sources and base options change from one *edition* of a project to the next; recipes, codec and what
is built in stay. An interface of one edition may be the right one in another. It is if the digests
that the interface records – of the source, of the base options, and of the imports – are those of
the other edition, as long as no two byte strings that were hashed have one digest
(`Toolchain.Derives.transfer`). That is the whole reason why a stored interface may be reused.
-/

namespace ModuleLoader

/-! ## Fingerprints -/

namespace Options

/-- The bytes of which the fingerprint is the digest. -/
def bytes (o : Options) : Bytes := o.toBools.map fun b => if b then 1 else 0

theorem fingerprint_eq (o : Options) : o.fingerprint = Digest.ofBytes o.bytes := rfl

/-- The bytes determine the options. -/
theorem bytes_injective {o p : Options} (h : o.bytes = p.bytes) : o = p := by
  have hbit : ∀ b c : Bool, (if b then (1 : UInt8) else 0) = (if c then 1 else 0) → b = c := by
    decide
  have hbools : o.toBools = p.toBools := (List.map_inj_right hbit).1 h
  rw [← ofBools_toBools o, hbools, ofBools_toBools]

end Options

/-! ## Derivations -/

/-- **What stays the same from one edition of a project to the next.** -/
structure Toolchain where
  /-- The comparison of options across imports. -/
  compatibility : Compatibility
  /-- Whether a module is built in. -/
  isPrimitive : ModuleName → Bool
  /-- How interfaces become bytes and back. -/
  codec : Codec
  /-- How a module with a given source is checked. -/
  recipe : ModuleName → String → Recipe CheckedModule
  /-- The names of the modules that the project consists of. -/
  modules : Set ModuleName

/-- **An edition of a project**: what may change between two sessions. -/
structure Edition where
  /-- The base options. -/
  options : Options
  /-- The source text of each module that there is. -/
  text? : ModuleName → Option String

namespace Toolchain

/-- The interface, not yet sealed, that a recipe has led to. -/
def interfaceOf (edition : Edition) (text : String) (checked : CheckedModule) (ledger : Ledger) :
    Interface where
  name := checked.name
  sourceHash := Digest.ofText text
  fullHash := .zero
  imports := ledger.imports
  options := ledger.options
  baseOptions := edition.options.fingerprint
  exports := checked.exports
  warnings := ledger.warnings
  importWarning := checked.importWarning

/-- **The entry that is derived for a module**: its recipe comes to it when what is known of the
imports is derived for them, and they are importable. -/
inductive Derives (t : Toolchain) (edition : Edition) : ModuleName → VisitedEntry → Prop where
  /-- From the source and from what is derived for the imports. -/
  | intro {module : ModuleName} {text : String} {known : ModuleName → VisitedEntry → Prop}
      {checked : CheckedModule} {ledger : Ledger} {i : Interface} :
      module ∈ t.modules → edition.text? module = some text →
      (∀ x e, known x e → Derives t edition x e) → (∀ x e, known x e → e.importable = true) →
      (t.recipe module text).Comes t.compatibility known (.start edition.options) checked ledger →
      checked.name = module → (interfaceOf edition text checked ledger).sealed t.codec = .ok i →
      Derives t edition module ⟨i, i.hasWarnings, t.isPrimitive module⟩

namespace Derives

variable {t : Toolchain} {edition edition' : Edition} {module : ModuleName}
  {entry entry' : VisitedEntry}

/-- **At most one entry is derived for a module.** -/
theorem unique (h : t.Derives edition module entry) (h' : t.Derives edition module entry') :
    entry = entry' := by
  induction h generalizing entry' with
  | @intro module text known checked ledger i _ htext _ _ hcomes hname hsealed ih =>
    obtain @⟨_, text', known', checked', ledger', i', -, htext', hknown', -, hcomes', -,
      hsealed'⟩ := h'
    obtain rfl := Option.some.inj (htext.symm.trans htext')
    obtain ⟨rfl, rfl⟩ := hcomes.unique (fun x e e' he he' => ih x e he (hknown' x e' he')) hcomes'
    obtain rfl := Except.ok.inj (hsealed.symm.trans hsealed')
    rfl

/-- What a derivation says of the source and the options. -/
theorem local_eq (h : t.Derives edition module entry) :
    ∃ text, edition.text? module = some text ∧ entry.interface.name = module ∧
      entry.interface.sourceHash = Digest.ofText text ∧
      entry.interface.baseOptions = edition.options.fingerprint := by
  obtain @⟨_, text, known, checked, ledger, i, -, htext, -, -, -, hname, hsealed⟩ := h
  obtain ⟨body, -, rfl⟩ := Interface.sealed_eq_ok hsealed
  exact ⟨text, htext, hname, rfl, rfl⟩

/-- A derived interface has the name of its module. -/
theorem name (h : t.Derives edition module entry) : entry.interface.name = module := by
  obtain ⟨-, -, hname, -⟩ := h.local_eq
  exact hname

/-- **Names tell derived interfaces apart.** -/
theorem eq_of_name (h : t.Derives edition module entry) {module' : ModuleName}
    (h' : t.Derives edition module' entry')
    (hname : entry.interface.name = entry'.interface.name) : entry = entry' := by
  obtain rfl : module = module' := by rw [← h.name, ← h'.name, hname]
  exact h.unique h'

/-- What else an entry says is known from its interface and from the module. -/
theorem entry_eq (h : t.Derives edition module entry) :
    entry = ⟨entry.interface, entry.interface.hasWarnings, t.isPrimitive module⟩ := by
  obtain @⟨_, text, known, checked, ledger, i, -, -, -, -, -, -, -⟩ := h
  rfl

/-- What is derived is a module of the project. -/
theorem mem (h : t.Derives edition module entry) : module ∈ t.modules := by
  obtain @⟨_, text, known, checked, ledger, i, hmem, -, -, -, -, -, -⟩ := h
  exact hmem

/-- **Each recorded import is derived and importable**, and has the digest recorded for it. -/
theorem imports (h : t.Derives edition module entry) {e : ModuleName × Digest}
    (he : e ∈ entry.interface.imports) :
    ∃ imported, t.Derives edition e.1 imported ∧ imported.importable = true ∧
      imported.interface.fullHash = e.2 := by
  obtain @⟨_, text, known, checked, ledger, i, -, -, hknown, himportable, hcomes, -, hsealed⟩ := h
  obtain ⟨body, -, rfl⟩ := Interface.sealed_eq_ok hsealed
  obtain hstart | ⟨imported, hmem, hhash⟩ := hcomes.known_of_mem_imports he
  · exact absurd hstart List.not_mem_nil
  · exact ⟨imported, hknown _ _ hmem, himportable _ _ hmem, hhash⟩

/-- The full digest of a derived interface is that of its bytes. -/
theorem sealBytes (h : t.Derives edition module entry) :
    ∃ bytes, entry.interface.sealBytes t.codec = .ok bytes ∧
      entry.interface.fullHash = Digest.ofBytes bytes := by
  obtain @⟨_, text, known, checked, ledger, i, -, -, -, -, -, -, hsealed⟩ := h
  exact Interface.sealBytes_of_sealed hsealed

/-- **A derivation with only the recorded imports.** -/
theorem restrict (h : t.Derives edition module entry) :
    ∃ text checked ledger, edition.text? module = some text ∧
      (t.recipe module text).Comes t.compatibility
        (fun x e => t.Derives edition x e ∧ e.importable = true ∧
          ∃ hash, (x, hash) ∈ entry.interface.imports)
        (.start edition.options) checked ledger ∧
      checked.name = module ∧
      (interfaceOf edition text checked ledger).sealed t.codec = .ok entry.interface := by
  obtain @⟨_, text, known, checked, ledger, i, -, htext, hknown, himportable, hcomes, hname,
    hsealed⟩ := h
  refine ⟨text, checked, ledger, htext, hcomes.restrict.mono ?_, hname, hsealed⟩
  obtain ⟨body, -, rfl⟩ := Interface.sealed_eq_ok hsealed
  exact fun x e ⟨hmem, hlisted⟩ => ⟨hknown x e hmem, himportable x e hmem, hlisted⟩

end Derives

/-! ## One edition and another -/

/-- **What is hashed for an edition**: base options, source texts, and the bytes of interfaces. -/
def Hashed (t : Toolchain) (edition : Edition) : Set Bytes :=
  { bytes | bytes = edition.options.bytes ∨
    (∃ module ∈ t.modules, ∃ text, edition.text? module = some text ∧
      bytes = Bytes.ofText text) ∨
    ∃ module entry, t.Derives edition module entry ∧
      entry.interface.sealBytes t.codec = .ok bytes }

/-- **An interface is genuine** if it was derived in one of some editions, free of warnings. -/
def Genuine (t : Toolchain) (editions : Set Edition) (i : Interface) : Prop :=
  ∃ edition ∈ editions, t.Derives edition i.name ⟨i, false, t.isPrimitive i.name⟩

/-- A genuine interface has no warnings. -/
theorem Genuine.hasWarnings_eq_false {t : Toolchain} {editions : Set Edition} {i : Interface}
    (h : t.Genuine editions i) : i.hasWarnings = false := by
  obtain ⟨edition, -, hderives⟩ := h
  exact (congrArg VisitedEntry.hasWarnings hderives.entry_eq).symm

/-- **No two byte strings that were hashed for some editions have one digest.** -/
def CollisionFree (t : Toolchain) (editions : Set Edition) : Prop :=
  Set.InjOn Digest.ofBytes { bytes | ∃ edition ∈ editions, bytes ∈ t.Hashed edition }

namespace Derives

variable {t : Toolchain} {edition edition' : Edition} {hashed : Set Bytes}
  {module module' : ModuleName} {entry entry' : VisitedEntry}

/-- **The full digest determines the interface**, whatever modules, editions and tools it comes from,
as long as it was encoded in the same way. -/
theorem interface_eq_of_codec_eq {t' : Toolchain} (hcodec : t.codec.Faithful)
    (hsame : t'.codec = t.codec) (hinj : Set.InjOn Digest.ofBytes hashed)
    (hsub : t.Hashed edition ⊆ hashed) (hsub' : t'.Hashed edition' ⊆ hashed)
    (h : t.Derives edition module entry) (h' : t'.Derives edition' module' entry')
    (hhash : entry.interface.fullHash = entry'.interface.fullHash) :
    entry.interface = entry'.interface := by
  have hsealed' : entry'.interface.Sealed t.codec := hsame ▸ h'.sealBytes
  refine Interface.Sealed.eq_of_fullHash hcodec hinj h.sealBytes hsealed' ?_ ?_ hhash
  · exact fun bytes hbytes => hsub (.inr (.inr ⟨_, _, h, hbytes⟩))
  · exact fun bytes hbytes => hsub' (.inr (.inr ⟨_, _, h', hsame.symm ▸ hbytes⟩))

/-- The full digest determines the interface, whatever modules and editions it comes from. -/
theorem interface_eq (hcodec : t.codec.Faithful) (hinj : Set.InjOn Digest.ofBytes hashed)
    (hsub : t.Hashed edition ⊆ hashed) (hsub' : t.Hashed edition' ⊆ hashed)
    (h : t.Derives edition module entry) (h' : t.Derives edition' module' entry')
    (hhash : entry.interface.fullHash = entry'.interface.fullHash) :
    entry.interface = entry'.interface :=
  h.interface_eq_of_codec_eq hcodec rfl hinj hsub hsub' h' hhash

/-- The full digest determines the entry of a module. -/
theorem eq_of_fullHash (hcodec : t.codec.Faithful) (hinj : Set.InjOn Digest.ofBytes hashed)
    (hsub : t.Hashed edition ⊆ hashed) (hsub' : t.Hashed edition' ⊆ hashed)
    (h : t.Derives edition module entry) (h' : t.Derives edition' module entry')
    (hhash : entry.interface.fullHash = entry'.interface.fullHash) : entry = entry' := by
  rw [h.entry_eq, h'.entry_eq, h.interface_eq hcodec hinj hsub hsub' h' hhash]

/-- **Two digests settle that source and base options are the same** in another edition. -/
theorem source_eq (hinj : Set.InjOn Digest.ofBytes hashed) (hsub : t.Hashed edition ⊆ hashed)
    (hsub' : t.Hashed edition' ⊆ hashed) (h : t.Derives edition module entry) {text : String}
    (htext : edition'.text? module = some text)
    (hsource : entry.interface.sourceHash = Digest.ofText text)
    (hoptions : entry.interface.baseOptions = edition'.options.fingerprint) :
    edition.text? module = some text ∧ edition.options = edition'.options := by
  obtain ⟨text₀, htext₀, -, hsource₀, hoptions₀⟩ := h.local_eq
  have hsame : text₀ = text := by
    refine Bytes.ofText_injective (hinj (hsub (.inr (.inl ⟨_, h.mem, _, htext₀, rfl⟩)))
      (hsub' (.inr (.inl ⟨_, h.mem, _, htext, rfl⟩))) ?_)
    show Digest.ofText text₀ = Digest.ofText text
    rw [← hsource₀, hsource]
  refine ⟨hsame ▸ htext₀, Options.bytes_injective (hinj (hsub (.inl rfl)) (hsub' (.inl rfl)) ?_)⟩
  rw [← Options.fingerprint_eq, ← Options.fingerprint_eq, ← hoptions₀, hoptions]

/-- **An entry of one edition is that of another one** in which the digests are the same that its
interface records. -/
theorem transfer (hcodec : t.codec.Faithful) (hinj : Set.InjOn Digest.ofBytes hashed)
    (hsub : t.Hashed edition ⊆ hashed) (hsub' : t.Hashed edition' ⊆ hashed)
    (h : t.Derives edition module entry) {text : String} (htext : edition'.text? module = some text)
    (hsource : entry.interface.sourceHash = Digest.ofText text)
    (hoptions : entry.interface.baseOptions = edition'.options.fingerprint)
    (himports : ∀ e ∈ entry.interface.imports, ∃ imported, t.Derives edition' e.1 imported ∧
      imported.interface.fullHash = e.2) :
    t.Derives edition' module entry := by
  obtain ⟨text₀, checked, ledger, htext₀, hcomes, hname, hsealed⟩ := h.restrict
  obtain ⟨hsame, hbase⟩ := h.source_eq hinj hsub hsub' htext hsource hoptions
  obtain rfl := Option.some.inj (htext₀.symm.trans hsame)
  -- The recorded digests settle the same for the imports.
  have hknown : ∀ x e, t.Derives edition x e ∧ e.importable = true ∧
      (∃ hash, (x, hash) ∈ entry.interface.imports) →
      t.Derives edition' x e ∧ e.importable = true := by
    rintro x e ⟨hderives, himportable, hash, hmem⟩
    obtain ⟨imported, himported, hhash⟩ := himports _ hmem
    obtain ⟨recorded, hrecorded, -, hhash'⟩ := h.imports hmem
    obtain rfl := hrecorded.unique hderives
    have heq : recorded = imported := by
      refine hrecorded.eq_of_fullHash hcodec hinj hsub hsub' himported ?_
      rw [hhash', hhash]
    exact ⟨heq ▸ himported, himportable⟩
  rw [h.entry_eq]
  have hcomes' := hcomes.mono hknown
  have hinterface : interfaceOf edition text₀ checked ledger
      = interfaceOf edition' text₀ checked ledger := by
    unfold interfaceOf
    rw [hbase]
  rw [hbase] at hcomes'
  rw [hinterface] at hsealed
  exact .intro h.mem htext (fun x e hx => hx.1) (fun x e hx => hx.2) hcomes' hname hsealed

end Derives

end Toolchain

end ModuleLoader
