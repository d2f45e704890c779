import ModuleLoader.Proofs.Project.Imports
import ModuleLoader.Proofs.Session.Fresh

/-!
# What is checked again after an edit

A session loads a module, everything that it settles is free of warnings, and so all of it is on
disk. Some of the sources are edited. The next session then checks those modules that were edited,
and those that reach an edited one along imports, each of them once, and no others
(`History.mem_checks_iff_edited`).

The two halves of that have one reason. A module is left unchecked just if its artifact is the
interface that is derived now. The artifact is what was derived before the edit, and by the digests
of its imports an interface depends on every source that the module reaches, and on no other one.
-/

namespace ModuleLoader

open Relation

/-- **Settled sources were edited** between two seasons: sessions run with the same, the artifacts
of settled modules were left alone and none was forged, and what settled modules import now had been
settled too. -/
structure Season.Edited (before after : Season) (s : Session) (d d' : Disk) : Prop where
  /-- Settings, finder, checker and codec are the same. -/
  setup_eq : after.setup = before.setup
  /-- The next season has begun. -/
  mem : d' ∈ after.disks
  /-- Nobody but the loader makes artifacts. -/
  forgesNothing : d.ForgesNothing after.setup.codec d'
  /-- The artifacts of settled modules are still there. -/
  kept : ∀ x entry, s.caches.visited.get? x = some entry → ∀ i, before.setup.Holds d x i →
    after.setup.Holds d' x i
  /-- Imports stay among the settled modules. -/
  closed : ∀ x entry, s.caches.visited.get? x = some entry → ∀ imported,
    after.toolchain.Imports after.edition x imported →
    ∃ known, s.caches.visited.get? imported = some known

namespace Season.Edited

variable {before after : Season} {editions : Set Edition} {s s' : Session} {d d' : Disk}
  {module : ModuleName} {loaded loaded' : Loaded} {w w' : World}
  (h : before.Edited after s w.disk d') (hfresh : before.Fresh editions d module loaded s w)

include h hfresh

/-- What a module reaches now was settled before the edit. -/
theorem settled_of_reaches {x : ModuleName}
    (hreaches : ReflTransGen (after.toolchain.Imports after.edition) module x) :
    ∃ entry, s.caches.visited.get? x = some entry := by
  induction hreaches with
  | refl =>
    obtain ⟨entry, hget, -⟩ := hfresh.settled
    exact ⟨entry, hget⟩
  | tail _ himports ih =>
    obtain ⟨entry, hget⟩ := ih
    exact h.closed _ entry hget _ himports

variable (horderly : before.Orderly editions) (horderly' : after.Orderly editions)
  (htools : before.toolchain = after.toolchain)
  (hwrites : before.setup.settings.build.writeInterfaces = true)
  (hwarnings : ∀ x entry, s.caches.visited.get? x = some entry → entry.hasWarnings = false)
  (hfresh' : after.Fresh editions d' module loaded' s' w')

include horderly horderly' htools hwrites hwarnings hfresh'

/-- **A settled module keeps its interface just if all sources that it reaches are the same.** What
it was settled with before the edit is on disk. -/
theorem interface_eq_iff {x : ModuleName} {entry' : VisitedEntry}
    (hget' : s'.caches.visited.get? x = some entry') :
    ∃ entry, s.caches.visited.get? x = some entry ∧ after.setup.Holds d' x entry.interface ∧
      (entry.interface = entry'.interface ↔
        ∀ y, ReflTransGen (after.toolchain.Imports after.edition) x y →
          before.edition.text? y = after.edition.text? y) := by
  obtain ⟨entry, hget⟩ := h.settled_of_reaches hfresh (hfresh'.settled_iff.1 ⟨entry', hget'⟩)
  have hholds := h.kept x entry hget _ (hfresh.holds hwrites hget (hwarnings x entry hget))
  have hderives := hfresh.derives hget
  rw [htools] at hderives
  have hoptions : before.edition.options = after.edition.options := by
    rw [before.options_eq, after.options_eq, h.setup_eq]
  exact ⟨entry, hget, hholds, hderives.interface_eq_iff horderly'.faithful horderly'.collisionFree
    (fun b hb => ⟨_, horderly.mem, hb⟩) (fun b hb => ⟨_, horderly'.mem, hb⟩) hoptions
    (hfresh'.derives hget')⟩

/-- **A module is checked after the edit just if it is reached, and reaches an edited one.** -/
theorem mem_checks_iff {x : ModuleName} : x ∈ w'.checks ↔
    ReflTransGen (after.toolchain.Imports after.edition) module x ∧
    ∃ y, ReflTransGen (after.toolchain.Imports after.edition) x y ∧
      before.edition.text? y ≠ after.edition.text? y := by
  have hiff : ∀ entry', s'.caches.visited.get? x = some entry' → (x ∈ w'.checks ↔
      ∃ y, ReflTransGen (after.toolchain.Imports after.edition) x y ∧
        before.edition.text? y ≠ after.edition.text? y) := by
    intro entry' hget'
    obtain ⟨entry, -, hholds, hsame⟩ :=
      h.interface_eq_iff hfresh horderly horderly' htools hwrites hwarnings hfresh' hget'
    rw [hfresh'.mem_checks_iff hget' hholds, Ne, hsame]
    simp only [not_forall, exists_prop]
  constructor
  · intro hchecked
    obtain ⟨entry', hget'⟩ := hfresh'.settled_of_mem_checks hchecked
    exact ⟨hfresh'.settled_iff.1 ⟨entry', hget'⟩, (hiff entry' hget').1 hchecked⟩
  · rintro ⟨hreaches, hreason⟩
    obtain ⟨entry', hget'⟩ := hfresh'.settled_iff.2 hreaches
    exact (hiff entry' hget').2 hreason

/-- **If nothing was edited, nothing is checked**, and the interface is the same. -/
theorem eq_of_unedited (hnone : ∀ x entry, s.caches.visited.get? x = some entry →
      before.edition.text? x = after.edition.text? x) :
    w'.checks = [] ∧ loaded'.interface = loaded.interface := by
  constructor
  · -- Whatever would have to be checked reaches an edited module.
    refine List.eq_nil_iff_forall_not_mem.2 fun x hx => ?_
    obtain ⟨hreaches, y, hy, hne⟩ :=
      (h.mem_checks_iff hfresh horderly horderly' htools hwrites hwarnings hfresh').1 hx
    obtain ⟨entry, hget⟩ := h.settled_of_reaches hfresh (hreaches.trans hy)
    exact hne (hnone y entry hget)
  · obtain ⟨entry', hget', hloaded'⟩ := hfresh'.settled
    obtain ⟨entry, hget, hloaded⟩ := hfresh.settled
    obtain ⟨known, hknown, -, hsame⟩ :=
      h.interface_eq_iff hfresh horderly horderly' htools hwrites hwarnings hfresh' hget'
    obtain rfl := Option.some.inj (hknown.symm.trans hget)
    rw [← hloaded', ← hloaded]
    refine (hsame.2 fun y hy => ?_).symm
    obtain ⟨entry, hget⟩ := h.settled_of_reaches hfresh hy
    exact hnone y entry hget

end Season.Edited

namespace History

variable {t : Toolchain} {seasons : Set Season} {before after : Season} {s₀ s s' : Session}
  {d d' : Disk} {module : ModuleName} {loaded loaded' : Loaded} {w w' : World}

/-- A session from scratch can trust what it finds after any history of the project. -/
theorem sound_start (hlasts : t.Lasts seasons) (h : History seasons before s₀ d) :
    before.Sound (Season.edition '' seasons) ⟨Caches.empty, .quiet d⟩ := by
  obtain ⟨-, -, -, hsound⟩ := h.sound hlasts
  exact .fresh (Season.calm_quiet hsound.calm.disk) hsound.onDisk nofun

/-- A session from scratch loads a module after some history, and the history goes on. -/
theorem loads (hlasts : t.Lasts seasons) (h : History seasons before s₀ d)
    (hmem : module ∈ before.modules) (hload : before.Loads d module loaded s w) :
    History seasons before s w.disk := by
  obtain ⟨hseason, -, -, hsound⟩ := h.sound hlasts
  obtain ⟨depth, hload⟩ := hload
  have hstart : History seasons before (.start before.setup) d :=
    h.start hseason hsound.calm.disk fun _ hi => hi
  exact hstart.load hmem (Season.calm_quiet hsound.calm.disk) hload

/-- **Exactly the edited modules are checked again, and those that import one of them**, directly or
through others, each of them once. Let a session from scratch load a module, after any history of the
project, and write the interfaces of all modules that it settles, none of which has warnings. Let
the sources of some of these be edited, and let another session from scratch load the module. If
nothing was edited, no module is checked, and the interface is the same. -/
theorem mem_checks_iff_edited (hlasts : t.Lasts seasons) (h : History seasons before s₀ d)
    (hafter : after ∈ seasons) (hhandsOff : before.HandsOff) (hhandsOff' : after.HandsOff)
    (hapart : before.Apart) (hapart' : after.Apart)
    (hwrites : before.setup.settings.build.writeInterfaces = true) (hmem : module ∈ t.modules)
    (hload : before.Loads d module loaded s w)
    (hwarnings : ∀ x entry, s.caches.visited.get? x = some entry → entry.hasWarnings = false)
    (hedited : before.Edited after s w.disk d') (hload' : after.Loads d' module loaded' s' w') :
    (w'.checks.Nodup ∧ ∀ x, x ∈ w'.checks ↔
      ReflTransGen (t.Imports after.edition) module x ∧
      ∃ y, ReflTransGen (t.Imports after.edition) x y ∧
        before.edition.text? y ≠ after.edition.text? y) ∧
    ((∀ x entry, s.caches.visited.get? x = some entry →
      before.edition.text? x = after.edition.text? x) →
        w'.checks = [] ∧ loaded'.interface = loaded.interface) := by
  obtain ⟨hseason, -, -, -⟩ := h.sound hlasts
  obtain rfl := hlasts.toolchain_eq after hafter
  have htools := hlasts.toolchain_eq before hseason
  have hmem₁ : module ∈ before.modules := by rwa [← htools] at hmem
  have horderly := hlasts.orderly hseason hhandsOff hapart
  have horderly' := hlasts.orderly hafter hhandsOff' hapart'
  have hfresh := horderly.fresh hmem₁ (h.sound_start hlasts) hload
  have hnext : History seasons after (.start after.setup) d' :=
    (h.loads hlasts hmem₁ hload).start hafter hedited.mem hedited.forgesNothing
  have hfresh' := horderly'.fresh hmem (hnext.sound_start hlasts) hload'
  refine ⟨⟨hfresh'.trail.nodup, fun x => ?_⟩, fun hnone => ?_⟩
  · exact hedited.mem_checks_iff hfresh horderly horderly' htools hwrites hwarnings hfresh'
  · exact hedited.eq_of_unedited hfresh horderly horderly' htools hwrites hwarnings hfresh' hnone

end History

/-! ## A project of two scripts -/

namespace ScriptProject

/-- The artifacts of the two scripts lie apart. -/
theorem apart_pair : pair.season.Apart := apart_season (by decide +kernel)

theorem apart_editedPair : editedPair.season.Apart := apart_season (by decide +kernel)

/-- Both scripts are settled without warnings, and nothing else is. -/
structure PairSettled (s : Session) : Prop where
  /-- They are settled. -/
  settled : ∀ x ∈ pair.modules, ∃ entry, s.caches.visited.get? x = some entry
  /-- Nothing else is, and there are no warnings. -/
  clean : ∀ x entry, s.caches.visited.get? x = some entry →
    x ∈ pair.modules ∧ entry.hasWarnings = false

theorem pairSettled_of_entries {s : Session}
    (h : (s.caches.visited.entries.map fun e => (e.1, e.2.hasWarnings))
      = [(⟨"B"⟩, false), (⟨"A"⟩, false)]) : PairSettled s where
  settled x hx := by
    have hmem : (x, false) ∈ s.caches.visited.entries.map fun e => (e.1, e.2.hasWarnings) := by
      rw [h]
      obtain rfl | hx := List.mem_cons.1 hx
      · exact List.mem_cons_of_mem _ List.mem_cons_self
      · obtain rfl := List.mem_singleton.1 hx
        exact List.mem_cons_self
    obtain ⟨e, he, heq⟩ := List.mem_map.1 hmem
    obtain ⟨rfl, -⟩ := Prod.mk.inj heq
    exact VisitedCache.exists_get?_of_mem he
  clean x entry hget := by
    have hmem : (x, entry.hasWarnings) ∈ s.caches.visited.entries.map fun e =>
        (e.1, e.2.hasWarnings) := List.mem_map_of_mem (VisitedCache.mem_of_get? hget)
    rw [h] at hmem
    obtain heq | hmem := List.mem_cons.1 hmem
    · obtain ⟨rfl, hfalse⟩ := Prod.mk.inj heq
      exact ⟨List.mem_cons_of_mem _ List.mem_cons_self, hfalse⟩
    · obtain ⟨rfl, hfalse⟩ := Prod.mk.inj (List.mem_singleton.1 hmem)
      exact ⟨List.mem_cons_self, hfalse⟩

set_option maxRecDepth 100000 in
/-- **The edit is one of settled sources** once both scripts are settled. -/
theorem edited_pair {s : Session} {d : Disk} (hd : d ∈ pair.disks) (h : PairSettled s) :
    pair.season.Edited editedPair.season s d (edit d) where
  setup_eq := rfl
  mem := edit_mem_disks hd
  forgesNothing := Disk.forgesNothing_put (by decide) (by decide +kernel)
  kept x entry hget _ hholds := by
    have hold : pair.disk.at? ["p", "A.lm"] = some (.file (Bytes.ofText "import B")) := by
      decide +kernel
    exact holds_put (p := pair) (f := ⟨⟨"p"⟩, ⟨"p/A.lm"⟩⟩) List.mem_cons_self (by decide +kernel)
      (by decide +kernel) hold hd (h.clean x entry hget).1 hholds
  closed _ _ _ imported himports := by
    obtain ⟨known, hknown, -⟩ := Toolchain.Derives.of_imports himports
    exact h.settled imported hknown.mem

end ScriptProject

namespace History

open ScriptProject

set_option maxRecDepth 100000 in
/-- After the edit of the script that imports, this one is checked again, and the other one is not. -/
theorem mem_checks_iff_edited_pair : ∃ (s s' : Session) (loaded loaded' : Loaded) (w w' : World),
    pair.season.Loads pair.disk ⟨"A"⟩ loaded s w ∧
    editedPair.season.Loads (edit w.disk) ⟨"A"⟩ loaded' s' w' ∧
    w'.checks = [⟨"A"⟩] ∧
    ∃ y, ReflTransGen (pair.season.toolchain.Imports editedPair.season.edition) ⟨"A"⟩ y ∧
      pair.season.edition.text? y ≠ editedPair.season.edition.text? y := by
  have hrun : (((Session.start pair.season.setup).loadWithin 3 ⟨"A"⟩ .batch
      (.quiet pair.disk)).bind fun r => r.1.toOption.bind fun _ =>
        ((Session.start editedPair.season.setup).loadWithin 3 ⟨"A"⟩ .batch
          (.quiet (edit r.2.2.disk))).bind fun r' => r'.1.toOption.map fun _ =>
            (r.2.1.caches.visited.entries.map fun e => (e.1, e.2.hasWarnings), r'.2.2.checks))
      = some ([(⟨"B"⟩, false), (⟨"A"⟩, false)], [⟨"A"⟩]) := by
    decide +kernel
  obtain ⟨⟨result, s, w⟩, hload, hrun⟩ := Option.bind_eq_some_iff.1 hrun
  obtain ⟨first, hok, hrun⟩ := Option.bind_eq_some_iff.1 hrun
  obtain ⟨⟨result', s', w'⟩, hload', hrun⟩ := Option.bind_eq_some_iff.1 hrun
  obtain ⟨second, hok', hrun⟩ := Option.map_eq_some_iff.1 hrun
  obtain ⟨hvisited, hchecks⟩ := Prod.mk.inj hrun
  have hloads := Season.Loads.of_toOption hload hok
  have hloads' := Season.Loads.of_toOption hload' hok'
  have hsettled := pairSettled_of_entries hvisited
  have hfirst : History {pair.season, editedPair.season} pair.season (.start pair.season.setup)
      pair.disk :=
    .first (.inl rfl) pair.disk_mem (Disk.not_onDisk_of_entries (by decide +kernel))
  have hsound := (hfirst.loads lasts_pair List.mem_cons_self hloads).sound lasts_pair
  have hdisk := hsound.2.2.2.calm.disk
  obtain ⟨⟨-, hexact⟩, -⟩ := mem_checks_iff_edited lasts_pair hfirst (.inr rfl) pair.handsOff
    editedPair.handsOff apart_pair apart_editedPair rfl List.mem_cons_self hloads
    (fun x entry hget => (hsettled.clean x entry hget).2) (edited_pair hdisk hsettled) hloads'
  refine ⟨s, s', first, second, w, w', hloads, hloads', hchecks, ((hexact ⟨"A"⟩).1 ?_).2⟩
  rw [show w'.checks = [⟨"A"⟩] from hchecks]
  exact List.mem_singleton_self _

end History

end ModuleLoader
