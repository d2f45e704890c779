import Mathlib.Order.WellFounded
import ModuleLoader.Proofs.Project.Derivation

/-!
# Which modules matter to a module

In an edition of a project a module imports the modules that its derived interface lists. Since
derivations are finite, going from module to module along imports ends, and no module imports itself
through others.

An interface depends on the sources of the modules that are reached in this way, and on no others
(`Toolchain.Derives.of_agree`). It also depends on each of them: through the digests of its imports
an interface fixes the sources of everything that it reaches, so it is the same in two editions with
the same base options just if all these sources are (`Toolchain.Derives.interface_eq_iff`).
-/

namespace ModuleLoader

/-- **An interface lists a module** among its imports. -/
def Interface.Lists (i : Interface) (module : ModuleName) : Prop :=
  ∃ hash, (module, hash) ∈ i.imports

namespace Toolchain

open Relation

variable {t : Toolchain} {edition edition' : Edition}

/-- **A module imports another one** in an edition of a project. -/
def Imports (t : Toolchain) (edition : Edition) (module imported : ModuleName) : Prop :=
  ∃ entry, t.Derives edition module entry ∧ entry.interface.Lists imported

namespace Derives

variable {module x : ModuleName} {entry : VisitedEntry}

/-- The imports of a module are those that its interface lists. -/
theorem imports_iff (h : t.Derives edition module entry) :
    t.Imports edition module x ↔ entry.interface.Lists x := by
  refine ⟨fun ⟨entry', h', hlists⟩ => ?_, fun hlists => ⟨entry, h, hlists⟩⟩
  rw [h.unique h']
  exact hlists

/-- **What is imported is derived**, and importable. -/
theorem of_imports (h : t.Imports edition module x) :
    ∃ imported, t.Derives edition x imported ∧ imported.importable = true := by
  obtain ⟨entry, hderives, hash, hmem⟩ := h
  obtain ⟨imported, himported, himportable, -⟩ := hderives.imports hmem
  exact ⟨imported, himported, himportable⟩

end Derives

/-! ## Imports end -/

/-- Going along imports ends. -/
theorem wellFounded_imports (t : Toolchain) (edition : Edition) :
    WellFounded fun imported module => t.Imports edition module imported := by
  refine ⟨fun module => ?_⟩
  by_cases hderives : ∃ entry, t.Derives edition module entry
  · obtain ⟨entry, hderives⟩ := hderives
    induction hderives with
    | @intro module text known checked ledger i hmem htext hknown himportable hcomes hname hsealed
        ih =>
      refine ⟨_, fun x himports => ?_⟩
      have hlists := (Derives.intro hmem htext hknown himportable hcomes hname
        hsealed).imports_iff.1 himports
      obtain ⟨hash, hmem⟩ := hlists
      obtain ⟨body, -, rfl⟩ := Interface.sealed_eq_ok hsealed
      obtain hstart | ⟨imported, himported, -⟩ := hcomes.known_of_mem_imports hmem
      · exact absurd hstart List.not_mem_nil
      · exact ih x imported himported
  · exact ⟨_, fun x ⟨entry, hentry, _⟩ => absurd ⟨entry, hentry⟩ hderives⟩

/-- **No module imports itself**, not even through others. -/
theorem not_transGen_imports (module : ModuleName) :
    ¬ TransGen (t.Imports edition) module module := by
  intro hcycle
  have hswap : TransGen (fun imported module => t.Imports edition module imported) module module :=
    transGen_swap.2 hcycle
  exact (wellFounded_imports t edition).transGen.irrefl.irrefl module hswap

/-! ## One edition and another -/

namespace Derives

variable {hashed : Set Bytes} {module : ModuleName} {entry entry' : VisitedEntry}

/-- **Only the sources that are reached matter.** -/
theorem of_agree (h : t.Derives edition module entry) (hoptions : edition.options = edition'.options)
    (hagree : ∀ x, ReflTransGen (t.Imports edition) module x → edition.text? x = edition'.text? x) :
    t.Derives edition' module entry := by
  induction module using (wellFounded_imports t edition).induction generalizing entry with
  | _ module ih =>
    obtain ⟨text, checked, ledger, htext, hcomes, hname, hsealed⟩ := h.restrict
    have hknown : ∀ x e, t.Derives edition x e ∧ e.importable = true ∧
        (∃ hash, (x, hash) ∈ entry.interface.imports) →
        t.Derives edition' x e ∧ e.importable = true := by
      rintro x e ⟨hderives, himportable, hlists⟩
      have himports := h.imports_iff.2 hlists
      exact ⟨ih x himports hderives fun y hy => hagree y (.head himports hy), himportable⟩
    have hcomes' := hcomes.mono hknown
    rw [hagree module .refl] at htext
    rw [h.entry_eq]
    unfold interfaceOf at hsealed
    rw [hoptions] at hcomes' hsealed
    exact .intro h.mem htext (fun x e hx => hx.1) (fun x e hx => hx.2) hcomes' hname hsealed

/-- **A module has the same interface in two editions just if all sources that it reaches are the
same**, if the base options are and no two byte strings that were hashed have one digest. -/
theorem interface_eq_iff (hcodec : t.codec.Faithful) (hinj : Set.InjOn Digest.ofBytes hashed)
    (hsub : t.Hashed edition ⊆ hashed) (hsub' : t.Hashed edition' ⊆ hashed)
    (hoptions : edition.options = edition'.options)
    (h : t.Derives edition module entry) (h' : t.Derives edition' module entry') :
    entry.interface = entry'.interface ↔
      ∀ x, ReflTransGen (t.Imports edition') module x → edition.text? x = edition'.text? x := by
  constructor
  · intro heq x hreaches
    induction hreaches using ReflTransGen.head_induction_on generalizing entry entry' with
    | refl =>
      obtain ⟨text, htext, -, hsource, -⟩ := h.local_eq
      obtain ⟨text', htext', -, hsource', -⟩ := h'.local_eq
      have hsame : text = text' := by
        refine Bytes.ofText_injective (hinj (hsub (.inr (.inl ⟨_, h.mem, _, htext, rfl⟩)))
          (hsub' (.inr (.inl ⟨_, h'.mem, _, htext', rfl⟩))) ?_)
        show Digest.ofText text = Digest.ofText text'
        rw [← hsource, ← hsource', heq]
      rw [htext, htext', hsame]
    | head himports _ ih =>
      -- Both interfaces list the import with one digest, and that is the digest of its interface.
      obtain ⟨hash, hmem⟩ := h'.imports_iff.1 himports
      obtain ⟨imported', himported', -, hhash'⟩ := h'.imports hmem
      rw [← heq] at hmem
      obtain ⟨imported, himported, -, hhash⟩ := h.imports hmem
      exact ih himported himported' (himported.interface_eq hcodec hinj hsub hsub' himported'
        (hhash.trans hhash'.symm))
  · intro hagree
    have hback : t.Derives edition module entry' :=
      h'.of_agree hoptions.symm fun x hx => (hagree x hx).symm
    rw [h.unique hback]

/-- **The imports of an older interface that are looked at are still imports.** If source and base
options are those for which the interface was derived, and some of the imports that it lists first
have the digests listed, then these and the next one are imports of the module now. -/
theorem imports_of_current (hcodec : t.codec.Faithful) (hinj : Set.InjOn Digest.ofBytes hashed)
    (hsub : t.Hashed edition ⊆ hashed) (hsub' : t.Hashed edition' ⊆ hashed)
    (h : t.Derives edition module entry) (h' : t.Derives edition' module entry') {text : String}
    (htext : edition'.text? module = some text)
    (hsource : entry.interface.sourceHash = Digest.ofText text)
    (hoptions : entry.interface.baseOptions = edition'.options.fingerprint)
    {before after : List (ModuleName × Digest)} {e : ModuleName × Digest}
    (hlist : entry.interface.imports = before ++ e :: after)
    (hcurrent : ∀ b ∈ before, ∃ imported, t.Derives edition' b.1 imported ∧
      imported.interface.fullHash = b.2) :
    ∀ b ∈ before ++ [e], t.Imports edition' module b.1 := by
  obtain ⟨text₀, checked, ledger, htext₀, hcomes, -, hsealed⟩ := h.restrict
  obtain ⟨text₁, checked', ledger', htext₁, hcomes', -, hsealed'⟩ := h'.restrict
  obtain rfl := Option.some.inj (htext₁.symm.trans htext)
  obtain ⟨hsame, hbase⟩ := h.source_eq hinj hsub hsub' htext hsource hoptions
  obtain rfl := Option.some.inj (htext₀.symm.trans hsame)
  rw [hbase] at hcomes
  obtain ⟨body, -, hseal⟩ := Interface.sealed_eq_ok hsealed
  obtain ⟨body', -, hseal'⟩ := Interface.sealed_eq_ok hsealed'
  have himports : entry.interface.imports = ledger.imports := by rw [hseal]; rfl
  have himports' : entry'.interface.imports = ledger'.imports := by rw [hseal']; rfl
  intro b hb
  refine h'.imports_iff.2 ?_
  unfold Interface.Lists
  rw [himports']
  refine hcomes.listed_of_agree hcomes' (himports ▸ hlist) ?_ b hb
  rintro x e e' ⟨hash, hmem⟩ hknown hknown'
  obtain ⟨imported, himported, hhash⟩ := hcurrent _ hmem
  obtain ⟨recorded, hrecorded, -, hhash'⟩ := h.imports (hlist ▸ List.mem_append_left _ hmem)
  obtain rfl := hknown.1.unique hrecorded
  obtain rfl := hknown'.1.unique himported
  exact hknown.1.eq_of_fullHash hcodec hinj hsub hsub' hknown'.1 (hhash'.trans hhash.symm)

end Derives

end Toolchain

end ModuleLoader
