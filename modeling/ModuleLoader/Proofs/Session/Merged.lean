import ModuleLoader.Proofs.Check.Merging
import ModuleLoader.Proofs.Scope.Tables
import ModuleLoader.Proofs.Session.Independence

/-!
# What a load leaves merged

A load merges its module and what the module imports into the scope of the session. There are two
ways to do that. A module that is checked merges what it imports itself, import by import
(`Season.Fresh.merged_of_checked`). A module that is reused is merged with all that it reaches
through others (`Season.Fresh.merged_of_reused`).

So the scope after a load tells how its module was settled. Where there are no artifacts, a load
leaves the module and its imports; where the load itself has left the artifacts, the next one leaves
all that the module reaches. Both show the same just if the module imports all of that itself, or if
it is checked once more because it has warnings (`History.sameState_iff_reflGen`).
-/

namespace ModuleLoader

open Relation

namespace Season

/-- **A scope holds the interfaces of some modules**, as they are derived, and nothing else. -/
structure Merged (season : Season) (modules : Set ModuleName) (scope : ImportedScope) : Prop where
  /-- No two of them bind a builtin differently. -/
  coherent : scope.Coherent
  /-- These are the contributions. -/
  mem_iff : ∀ i, i ∈ scope.contributions ↔
    ∃ x ∈ modules, ∃ e, season.toolchain.Derives season.edition x e ∧ e.interface = i

variable {season : Season}

/-- **Two such scopes show the same state just if they hold the same modules**, as long as these have
interfaces. -/
theorem Merged.sameState_iff {modules modules' : Set ModuleName} {scope scope' : ImportedScope}
    (h : season.Merged modules scope) (h' : season.Merged modules' scope')
    (hderives : ∀ x ∈ modules ∪ modules', ∃ e, season.toolchain.Derives season.edition x e) :
    scope.SameState scope' ↔ modules = modules' := by
  have hunique : ∀ i ∈ scope.contributions, ∀ j ∈ scope'.contributions, i.name = j.name → i = j := by
    intro i hi j hj hname
    obtain ⟨x, -, e, he, rfl⟩ := (h.mem_iff i).1 hi
    obtain ⟨y, -, e', he', rfl⟩ := (h'.mem_iff j).1 hj
    rw [he.eq_of_name he' hname]
  rw [ImportedScope.sameState_iff h.coherent h'.coherent hunique]
  simp only [h.mem_iff, h'.mem_iff]
  refine ⟨fun hsame => Set.ext fun x => ?_, fun hsame i => by rw [hsame]⟩
  -- A module is told by the interface that is derived for it.
  have hmem : ∀ {p : Set ModuleName} {e : VisitedEntry}, season.toolchain.Derives season.edition x e →
      ((∃ y ∈ p, ∃ e', season.toolchain.Derives season.edition y e' ∧ e'.interface = e.interface) ↔
        x ∈ p) := by
    intro p e he
    refine ⟨fun ⟨y, hy, e', he', heq⟩ => ?_, fun hx => ⟨x, hx, e, he, rfl⟩⟩
    rwa [← he.name, ← heq, he'.name]
  constructor
  · intro hx
    obtain ⟨e, he⟩ := hderives x (.inl hx)
    exact (hmem he).1 ((hsame e.interface).1 ((hmem he).2 hx))
  · intro hx
    obtain ⟨e, he⟩ := hderives x (.inr hx)
    exact (hmem he).1 ((hsame e.interface).2 ((hmem he).2 hx))

namespace Fresh

variable {editions : Set Edition} {d : Disk} {module : ModuleName} {loaded : Loaded} {s : Session}
  {w : World} (h : season.Fresh editions d module loaded s w)

include h

/-- **A module that was reused is merged with all that it reaches.** -/
theorem merged_of_reused (hnot : module ∉ w.checks) :
    season.Merged {x | ReflTransGen (season.toolchain.Imports season.edition) module x} s.scope := by
  have hmerge := h.concluded.merged hnot
  obtain ⟨hcoherent, -⟩ := ImportedScope.foldlM_merge_eq_ok ImportedScope.coherent_empty hmerge
  refine ⟨hcoherent, fun i => ?_⟩
  rw [ImportedScope.mem_mergeWithImports_iff (fun _ _ hj hk => h.eq_of_leadsTo hj hk) hmerge,
    h.leadsTo_iff]
  simp only [Set.mem_ofPred_eq, exists_and_left]

/-- **A module that was checked is merged with what it imports itself.** -/
theorem merged_of_checked (hchecked : module ∈ w.checks) :
    season.Merged {x | ReflGen (season.toolchain.Imports season.edition) module x} s.scope := by
  obtain ⟨target, built, htarget, ⟨checked, context, hwent, -, hsealed, hscope⟩, hinterface, hmerge⟩ :=
    h.concluded.built hchecked
  obtain ⟨entry, hget, hloaded⟩ := h.settled
  have hderives := h.derives hget
  rw [hinterface, ← hloaded] at hmerge
  have himports : entry.interface.imports = context.imports := by
    obtain ⟨body, -, heq⟩ := Interface.sealed_eq_ok hsealed
    rw [hloaded, ← hinterface, heq]
    rfl
  obtain ⟨hcoherent, hadded⟩ := hwent.mem_contributions ImportedScope.coherent_empty
  rw [hscope] at hcoherent hadded
  have hderived : ∀ i ∈ s.scope.contributions,
      ∃ x, ReflGen (season.toolchain.Imports season.edition) module x ∧
        ∃ e, season.toolchain.Derives season.edition x e ∧ e.interface = i := by
    intro i hi
    obtain hi | rfl := ImportedScope.mem_of_merge hmerge hi
    · obtain hstart | ⟨e, he, known, hknown, rfl⟩ := hadded i hi
      · exact absurd hstart List.not_mem_nil
      · exact ⟨e.1, .single (hderives.imports_iff.2 ⟨e.2, himports ▸ he⟩), known,
          h.derives hknown.1, rfl⟩
    · exact ⟨module, .refl, entry, hderives, rfl⟩
  refine ⟨hcoherent.merge hmerge, fun i => ⟨hderived i, ?_⟩⟩
  rintro ⟨x, hx, e, he, rfl⟩
  cases hx with
  | refl =>
    obtain rfl := hderives.unique he
    -- Something of this name contributes, and it is derived.
    obtain ⟨j, hj, hname⟩ := ImportedScope.exists_of_merge hmerge
    obtain ⟨y, -, e', he', rfl⟩ := hderived j hj
    rwa [← he'.eq_of_name he hname]
  | single himported =>
    obtain ⟨hash, hlisted⟩ := hderives.imports_iff.1 himported
    rw [himports] at hlisted
    have hnamed : ∀ y e', (LoadState.mk s.caches w).Knows y e' → e'.interface.name = y :=
      fun y e' hy => (h.derives hy.1).name
    obtain hstart | ⟨known, hknown, -, hcontribution⟩ := hwent.contribution?_of_import hnamed
      (fun _ _ _ => LoadState.Knows.unique) hlisted
    · exact absurd hstart List.not_mem_nil
    · obtain rfl := (h.derives hknown.1).unique he
      rw [hscope] at hcontribution
      exact ImportedScope.mem_merge hmerge (ImportedScope.mem_of_contribution? hcontribution).1

end Fresh

end Season

namespace History

variable {t : Toolchain} {season : Season} {d : Disk} {module : ModuleName}
  {loaded loaded' : Loaded} {s s' : Session} {w w' : World}

/-- **The state after a load depends on whether the module was reused.** Where there are no artifacts,
a load leaves the module merged with its imports. The next session finds the artifacts of that load.
If it reuses the module, it leaves it merged with everything that it reaches, and otherwise with its
imports again. So the two show the same state just if the module was not reused, or reaches nothing
but what it imports. If interfaces are written, the module is reused just if it has no warnings. -/
theorem sameState_iff_reflGen (hlasts : t.Lasts {season}) (hhandsOff : season.HandsOff)
    (hapart : season.Apart) (hmem : module ∈ t.modules) (hd : d ∈ season.disks)
    (hnone : ∀ i : Interface, ¬ i.OnDisk Setup.compilerVersion season.setup.codec d)
    (hload : season.Loads d module loaded s w)
    (hload' : season.Loads w.disk module loaded' s' w') :
    season.Merged {x | ReflGen (t.Imports season.edition) module x} s.scope ∧
    (module ∈ w'.checks →
      season.Merged {x | ReflGen (t.Imports season.edition) module x} s'.scope) ∧
    (module ∉ w'.checks →
      season.Merged {x | ReflTransGen (t.Imports season.edition) module x} s'.scope) ∧
    (s.scope.SameState s'.scope ↔ (module ∉ w'.checks →
      ∀ x, ReflTransGen (t.Imports season.edition) module x →
        ReflGen (t.Imports season.edition) module x)) ∧
    (season.setup.settings.build.writeInterfaces = true →
      (module ∉ w'.checks ↔ loaded.interface.hasWarnings = false)) := by
  obtain rfl := hlasts.toolchain_eq season rfl
  have horderly := hlasts.orderly rfl hhandsOff hapart
  have hfirst : History {season} season (.start season.setup) d := .first rfl hd hnone
  have hfresh := horderly.fresh hmem (hfirst.sound_start hlasts) hload
  have hfresh' := horderly.fresh hmem
    ((hfirst.loads hlasts hmem hload).sound_start hlasts) hload'
  -- There was nothing to be reused at first.
  have hchecked : module ∈ w.checks := by
    by_contra hnot
    obtain ⟨found, -, hread⟩ := hfresh.concluded.held hnot rfl
    exact hnone _ (.of_readInterface? hread)
  have hmerged := hfresh.merged_of_checked hchecked
  refine ⟨hmerged, hfresh'.merged_of_checked, hfresh'.merged_of_reused, ?_,
    hfresh.not_mem_checks_iff hfresh'⟩
  have hderives : ∀ x, ReflTransGen (season.toolchain.Imports season.edition) module x →
      ∃ e, season.toolchain.Derives season.edition x e := by
    intro x hx
    obtain ⟨entry, hget⟩ := hfresh.settled_iff.2 hx
    exact ⟨entry, hfresh.derives hget⟩
  by_cases hagain : module ∈ w'.checks
  · have hsame := (hmerged.sameState_iff (hfresh'.merged_of_checked hagain)
      fun x hx => hderives x (ReflGen.to_reflTransGen (or_self_iff.1 hx))).2 rfl
    exact iff_of_true hsame fun hnot => absurd hagain hnot
  · rw [hmerged.sameState_iff (hfresh'.merged_of_reused hagain)
      fun x hx => hderives x (hx.elim ReflGen.to_reflTransGen id)]
    refine ⟨fun hsame _ x hx => ?_, fun hall => Set.ext fun x => ?_⟩
    · exact (Set.ext_iff.1 hsame x).2 hx
    · exact ⟨ReflGen.to_reflTransGen, hall hagain x⟩

end History

/-! ## Three scripts in a row -/

namespace ScriptProject

set_option maxRecDepth 100000 in
/-- Three scripts, one importing the next, of which the last one has something to show. -/
def row : Roomy where
  settings := {}
  roots := [⟨"row"⟩]
  modules := [⟨"A"⟩, ⟨"B"⟩, ⟨"C"⟩]
  disk := ⟨[(["row"], .directory), (["row", "_build"], .directory),
    (["row", "A.lm"], .file (Bytes.ofText "import B")),
    (["row", "B.lm"], .file (Bytes.ofText "import C")),
    (["row", "C.lm"], .file (Bytes.ofText "def c\nbuiltin N n"))]⟩
  closed := Disk.closed_of_entries (by decide +kernel)
  plain := by decide +kernel
  direct := by decide +kernel
  apart := by decide +kernel
  room := by decide +kernel

set_option maxRecDepth 100000 in
/-- All that is hashed for the three has digests of its own. -/
theorem lasts_row : row.season.toolchain.Lasts {row.season} :=
  row.lasts 3 (by decide +kernel) (by decide +kernel)

/-- **What the three scripts come to**: what they import and which builtins they bind. -/
theorem exists_derives_row : ∀ x ∈ row.modules, ∃ e,
    row.season.toolchain.Derives row.season.edition x e ∧
    e.interface.imports.map (·.1)
      = (if x = ⟨"A"⟩ then [⟨"B"⟩] else if x = ⟨"B"⟩ then [⟨"C"⟩] else []) ∧
    e.interface.exports.builtins.entries = if x = ⟨"C"⟩ then [("N", "n")] else [] := by
  have hcompute : ∀ x ∈ row.modules,
      ((row.season.toolchain.derive? row.season.edition 3 x).map fun e =>
        (e.interface.imports.map (·.1), e.interface.exports.builtins.entries))
      = some (if x = ⟨"A"⟩ then [⟨"B"⟩] else if x = ⟨"B"⟩ then [⟨"C"⟩] else [],
          if x = ⟨"C"⟩ then [("N", "n")] else []) := by
    decide +kernel
  intro x hx
  obtain ⟨e, he, heq⟩ := Toolchain.exists_derives_of_map_derive? (hcompute x hx)
  exact ⟨e, he, Prod.mk.inj heq⟩

/-- One script binds builtins, so there is no conflict. -/
theorem conflictFree_row :
    row.season.toolchain.ConflictFree row.season.edition ⟨"A"⟩ := by
  have hbinds : ∀ x e, row.season.toolchain.Derives row.season.edition x e → ∀ builtin bound,
      e.interface.exports.builtins.get? builtin = some bound → bound = "n" := by
    intro x e he builtin bound hbound
    obtain ⟨e', he', -, hentries⟩ := exists_derives_row x he.mem
    obtain rfl := he.unique he'
    have hmem := OrderedMap.mem_of_get? hbound
    rw [hentries] at hmem
    split at hmem
    · exact (Prod.mk.inj (List.mem_singleton.1 hmem)).2
    · exact absurd hmem List.not_mem_nil
  intro x y e e' _ _ he he' builtin a b ha hb
  rw [hbinds x e he builtin a ha, hbinds y e' he' builtin b hb]

/-- What a script of the row imports. -/
theorem imports_row_iff {x y : ModuleName} (hx : x ∈ row.modules) :
    row.season.toolchain.Imports row.season.edition x y ↔
      y ∈ (if x = ⟨"A"⟩ then [⟨"B"⟩] else if x = ⟨"B"⟩ then [⟨"C"⟩] else [] : List ModuleName) := by
  obtain ⟨e, he, himports, -⟩ := exists_derives_row x hx
  rw [he.imports_iff, ← himports, List.mem_map]
  exact ⟨fun ⟨hash, hmem⟩ => ⟨_, hmem, rfl⟩, fun ⟨e, hmem, heq⟩ => ⟨e.2, heq ▸ hmem⟩⟩

end ScriptProject

namespace History

open ScriptProject

set_option maxRecDepth 100000 in
/-- The first script is loaded twice, by one session and then by another. The builtin is bound only
after the second load. -/
theorem not_sameState_row : ∃ (loaded loaded' : Loaded) (s s' : Session) (w w' : World),
    row.season.Loads row.disk ⟨"A"⟩ loaded s w ∧ row.season.Loads w.disk ⟨"A"⟩ loaded' s' w' ∧
    s.scope.builtins.get? "N" = none ∧ s'.scope.builtins.get? "N" = some "n" ∧
    ¬ s.scope.SameState s'.scope := by
  have hrun : (((Session.start row.season.setup).loadWithin 4 ⟨"A"⟩ .batch (.quiet row.disk)).bind
      fun r => r.1.toOption.map fun loaded =>
        (loaded.interface.hasWarnings, r.2.1.scope.builtins.get? "N")) = some (false, none) := by
    decide +kernel
  obtain ⟨loaded, s, w, hloads, heq⟩ := Season.exists_loads_of_compute hrun
  obtain ⟨hwarnings, hunbound⟩ := Prod.mk.inj heq
  have hnone : ∀ i : Interface, ¬ i.OnDisk Setup.compilerVersion row.season.setup.codec row.disk :=
    Disk.not_onDisk_of_entries (by decide +kernel)
  have hapart : row.season.Apart := row.apart_season (apart_season (by decide +kernel))
  have hmem : (⟨"A"⟩ : ModuleName) ∈ row.season.toolchain.modules := List.mem_cons_self
  -- The second load succeeds, because there is no conflict.
  have hfirst : History {row.season} row.season (.start row.season.setup) row.disk :=
    .first rfl row.disk_mem hnone
  have hagain : row.season.LoadsOn w.disk ⟨"A"⟩ :=
    ((independent_iff_conflictFree lasts_row row.handsOff hapart row.writable hmem).2 hfirst hloads
      rfl hwarnings).1.2 conflictFree_row
  obtain ⟨loaded', s', w', hloads'⟩ := hagain
  obtain ⟨-, -, hreused, hsame, hiff⟩ := sameState_iff_reflGen lasts_row row.handsOff hapart hmem
    row.disk_mem hnone hloads hloads'
  have hnot := (hiff rfl).2 hwarnings
  have hreaches : ReflTransGen (row.season.toolchain.Imports row.season.edition) ⟨"A"⟩ ⟨"C"⟩ :=
    .tail (.single ((imports_row_iff (x := ⟨"A"⟩) (y := ⟨"B"⟩) (by decide)).2 (by decide)))
      ((imports_row_iff (x := ⟨"B"⟩) (by decide)).2 (by decide))
  have hbound : s'.scope.builtins.get? "N" = some "n" := by
    obtain ⟨e, he, -, hentries⟩ := exists_derives_row ⟨"C"⟩ (by decide)
    refine (hreused hnot).coherent.get?_builtins
      (((hreused hnot).mem_iff e.interface).2 ⟨_, hreaches, e, he, rfl⟩) ?_
    exact OrderedMap.get?_of_mem (e := ("N", "n")) (hentries ▸ List.mem_cons_self)
  refine ⟨loaded, loaded', s, s', w, w', hloads, hloads', hunbound, hbound, fun h => ?_⟩
  rw [h.builtins, hbound] at hunbound
  exact absurd hunbound nofun

end History

end ModuleLoader
