import ModuleLoader.Proofs.Project.Imports

/-!
# Interfaces under other settings

The settings of a session decide how options are compared across imports and which modules are built
in. Of a module they decide one thing only: which warnings it has. So two configurations derive the
same interface for a module that has no warnings in either, and whose imports have none
(`Toolchain.Derives.interface_eq_of_warningFree`). Conversely, an interface that is derived in both
has the warnings that it has, and by the digests of its imports so have these
(`Toolchain.Derives.warningFree_of_interface_eq`).
-/

namespace ModuleLoader

open Relation

namespace Toolchain

/-- **The same tools with other settings**: another comparison of options, and other modules that are
built in. -/
def reconfigure (t : Toolchain) (compatibility : Compatibility) (isPrimitive : ModuleName → Bool) :
    Toolchain :=
  { t with compatibility, isPrimitive }

/-- **A module is free of warnings** if nothing that it reaches has any. -/
def WarningFree (t : Toolchain) (edition : Edition) (module : ModuleName) : Prop :=
  ∀ x e, ReflTransGen (t.Imports edition) module x → t.Derives edition x e → e.hasWarnings = false

variable {t : Toolchain} {edition : Edition} {module : ModuleName} {entry entry' : VisitedEntry}

/-- What a module imports is free of warnings if the module is. -/
theorem WarningFree.imports (h : t.WarningFree edition module) {x : ModuleName}
    (himports : t.Imports edition module x) : t.WarningFree edition x :=
  fun y e hreaches he => h y e (hreaches.head himports) he

namespace Derives

variable {compatibility : Compatibility} {isPrimitive : ModuleName → Bool}

/-- **Without warnings the settings make no difference** to an interface. -/
theorem interface_eq_of_warningFree (h : t.Derives edition module entry)
    (h' : (t.reconfigure compatibility isPrimitive).Derives edition module entry')
    (hfree : t.WarningFree edition module)
    (hfree' : (t.reconfigure compatibility isPrimitive).WarningFree edition module) :
    entry.interface = entry'.interface := by
  induction module using (wellFounded_imports t edition).induction generalizing entry entry' with
  | _ module ih =>
    have hnone := hfree module entry .refl h
    have hnone' := hfree' module entry' .refl h'
    rw [h.entry_eq] at hnone
    rw [h'.entry_eq] at hnone'
    obtain ⟨text, checked, ledger, htext, hcomes, -, hsealed⟩ := h.restrict
    obtain ⟨text', checked', ledger', htext', hcomes', -, hsealed'⟩ := h'.restrict
    obtain rfl := Option.some.inj (htext.symm.trans htext')
    have hledger : entry.interface.warnings = ledger.warnings := by
      obtain ⟨body, -, heq⟩ := Interface.sealed_eq_ok hsealed
      rw [heq]
      rfl
    have hledger' : entry'.interface.warnings = ledger'.warnings := by
      obtain ⟨body, -, heq⟩ := Interface.sealed_eq_ok hsealed'
      rw [heq]
      rfl
    have hsame : checked = checked' ∧ ledger = ledger' := by
      refine Recipe.Comes.eq_of_unwarned ?_ hcomes hcomes' ?_ ?_
      · rintro x e e' ⟨he, -, hlists⟩ ⟨he', -, hlists'⟩
        have himports := h.imports_iff.2 hlists
        exact ih x himports he he' (hfree.imports himports) (hfree'.imports (h'.imports_iff.2 hlists'))
      · rw [← hledger]
        exact Interface.hasWarnings_eq_false_iff.1 hnone
      · rw [← hledger']
        exact Interface.hasWarnings_eq_false_iff.1 hnone'
    obtain ⟨rfl, rfl⟩ := hsame
    exact Except.ok.inj (hsealed.symm.trans hsealed')

/-- **What a module reaches has the same interfaces if the module has**, since it records their
digests. -/
theorem exists_of_interface_eq {hashed : Set Bytes} (hcodec : t.codec.Faithful)
    (hinj : Set.InjOn Digest.ofBytes hashed) (hsub : t.Hashed edition ⊆ hashed)
    (hsub' : (t.reconfigure compatibility isPrimitive).Hashed edition ⊆ hashed)
    (h : t.Derives edition module entry)
    (h' : (t.reconfigure compatibility isPrimitive).Derives edition module entry')
    (heq : entry.interface = entry'.interface) {x : ModuleName}
    (hreaches : ReflTransGen ((t.reconfigure compatibility isPrimitive).Imports edition) module x)
    {e' : VisitedEntry} (he' : (t.reconfigure compatibility isPrimitive).Derives edition x e') :
    ReflTransGen (t.Imports edition) module x ∧
      ∃ e, t.Derives edition x e ∧ e.interface = e'.interface := by
  induction hreaches generalizing e' with
  | refl => exact ⟨.refl, entry, h, by rw [heq, h'.unique he']⟩
  | @tail x y hreaches himports ih =>
    obtain ⟨importing, himporting, hash, hmem⟩ := himports
    obtain ⟨hback, e, he, hsame⟩ := ih himporting
    obtain ⟨imported', himported', -, hhash'⟩ := himporting.imports hmem
    rw [← hsame] at hmem
    obtain ⟨imported, himported, -, hhash⟩ := he.imports hmem
    obtain rfl := himported'.unique he'
    refine ⟨hback.tail (he.imports_iff.2 ⟨hash, hmem⟩), imported, himported, ?_⟩
    have hwritten : (t.reconfigure compatibility isPrimitive).codec = t.codec := rfl
    exact himported.interface_eq_of_codec_eq hcodec hwritten hinj hsub hsub' himported'
      (hhash.trans hhash'.symm)

/-- **A module with the same interface under both settings is free of warnings under both** if it is
under one. -/
theorem warningFree_of_interface_eq {hashed : Set Bytes} (hcodec : t.codec.Faithful)
    (hinj : Set.InjOn Digest.ofBytes hashed) (hsub : t.Hashed edition ⊆ hashed)
    (hsub' : (t.reconfigure compatibility isPrimitive).Hashed edition ⊆ hashed)
    (h : t.Derives edition module entry) (hfree : t.WarningFree edition module)
    (h' : (t.reconfigure compatibility isPrimitive).Derives edition module entry')
    (heq : entry.interface = entry'.interface) :
    (t.reconfigure compatibility isPrimitive).WarningFree edition module := by
  intro x e' hreaches he'
  obtain ⟨hback, e, he, hsame⟩ :=
    h.exists_of_interface_eq hcodec hinj hsub hsub' h' heq hreaches he'
  have hnone := hfree x e hback he
  rw [he.entry_eq] at hnone
  rw [he'.entry_eq, ← hsame]
  exact hnone

end Derives

end Toolchain

end ModuleLoader
