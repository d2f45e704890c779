import ModuleLoader.Proofs.Script.Room
import ModuleLoader.Proofs.Session.Recheck

/-!
# Whether a load depends on the artifacts

While the sources stay the same, should it matter for the success of a load which artifacts earlier
loads have left? It does, because of builtins. A module that is checked is merged with what it
imports itself, a module that is reused with all that it reaches. If two modules bind a builtin
differently and no check has seen both, a load that succeeded once may fail ever after.

That is the only reason. A module that is free of conflicts loads with any artifacts or with none
(`Season.Orderly.exists_loads`), and one that is not cannot be reused (`Season.Fresh.conflictFree`).
So once a module has been loaded and written, the artifacts do not matter just if it is free of
conflicts (`History.independent_iff_conflictFree`).
-/

namespace ModuleLoader

open Relation

namespace Season

variable {season : Season} {d : Disk} {module : ModuleName} {loaded : Loaded} {s : Session}
  {w : World}

/-- **The artifacts do not matter** for a module: whatever earlier loads of the same sources have
left, it can be loaded or it cannot. -/
def Independent (season : Season) (module : ModuleName) : Prop :=
  ∀ s s' d d', History {season} season s d → History {season} season s' d' →
    (season.LoadsOn d module ↔ season.LoadsOn d' module)

variable {editions : Set Edition}

/-- **The interface of a loaded module leads to those of all modules that it reaches**, and to no
others. -/
theorem Fresh.leadsTo_iff (h : season.Fresh editions d module loaded s w) {i : Interface} :
    ImportedScope.LeadsTo s.caches.visited loaded.interface i ↔
      ∃ x e, ReflTransGen (season.toolchain.Imports season.edition) module x ∧
        season.toolchain.Derives season.edition x e ∧ e.interface = i := by
  obtain ⟨entry, hget, hloaded⟩ := h.settled
  rw [← hloaded]
  refine ⟨fun hleads => Orderly.reaches_of_leadsTo h.sound (h.derives hget) hleads, ?_⟩
  rintro ⟨x, e, hreaches, he, rfl⟩
  induction hreaches generalizing e with
  | refl =>
    obtain rfl := (h.derives hget).unique he
    exact .refl
  | @tail y x hreaches himports ih =>
    obtain ⟨importing, himporting⟩ := h.settled_iff.2 hreaches
    obtain ⟨known, hknown⟩ := h.settled_iff.2 (hreaches.tail himports)
    have hderives := h.derives himporting
    obtain ⟨hash, hmem⟩ := hderives.imports_iff.1 himports
    obtain rfl := (h.derives hknown).unique he
    exact (ih importing hderives).tail
      (ImportedScope.mem_settledImports.2 ⟨_, hmem, known, hknown, rfl⟩)

/-- Names tell the interfaces apart that a loaded one leads to. -/
theorem Fresh.eq_of_leadsTo (h : season.Fresh editions d module loaded s w) {i j : Interface}
    (hi : ImportedScope.LeadsTo s.caches.visited loaded.interface i)
    (hj : ImportedScope.LeadsTo s.caches.visited loaded.interface j) (hname : i.name = j.name) :
    i = j := by
  obtain ⟨x, e, -, he, rfl⟩ := h.leadsTo_iff.1 hi
  obtain ⟨y, e', -, he', rfl⟩ := h.leadsTo_iff.1 hj
  rw [he.eq_of_name he' hname]

/-- **A module that was reused is free of conflicts.** -/
theorem Fresh.conflictFree (h : season.Fresh editions d module loaded s w)
    (hnot : module ∉ w.checks) : season.toolchain.ConflictFree season.edition module := by
  intro x y e e' hx hy he he'
  exact ImportedScope.agrees_of_mergeWithImports (fun _ _ hj hk => h.eq_of_leadsTo hj hk)
    (h.concluded.merged hnot) (h.leadsTo_iff.2 ⟨x, e, hx, he, rfl⟩)
    (h.leadsTo_iff.2 ⟨y, e', hy, he', rfl⟩)

end Season

namespace History

variable {t : Toolchain} {season : Season}

/-- **The artifacts matter for a module just if it is not free of conflicts.** If it is, they do not
matter. If it has been loaded and its interface written, then the next load of it succeeds just if it
is, and the artifacts do not matter just if it is. -/
theorem independent_iff_conflictFree (hlasts : t.Lasts {season}) (hhandsOff : season.HandsOff)
    (hapart : season.Apart) (hwritable : season.Writable) {module : ModuleName}
    (hmem : module ∈ t.modules) :
    (t.ConflictFree season.edition module → season.Independent module) ∧
    ∀ {s₀ : Session} {d : Disk} {loaded : Loaded} {s : Session} {w : World},
      History {season} season s₀ d → season.Loads d module loaded s w →
      season.setup.settings.build.writeInterfaces = true → loaded.interface.hasWarnings = false →
      (season.LoadsOn w.disk module ↔ t.ConflictFree season.edition module) ∧
      (season.Independent module ↔ t.ConflictFree season.edition module) := by
  obtain rfl := hlasts.toolchain_eq season rfl
  have horderly := hlasts.orderly rfl hhandsOff hapart
  rw [Set.image_singleton] at horderly
  have hsound : ∀ {s₀ : Session} {d : Disk}, History {season} season s₀ d →
      season.Sound {season.edition} ⟨Caches.empty, .quiet d⟩ := by
    intro s₀ d h
    rw [← Set.image_singleton]
    exact h.sound_start hlasts
  have hfree : season.toolchain.ConflictFree season.edition module → ∀ s s' d d',
      History {season} season s d → History {season} season s' d' →
      season.LoadsOn d module → season.LoadsOn d' module := by
    rintro hfree s s' d d' h h' ⟨loaded, s₁, w, hload⟩
    have hfresh := horderly.fresh hmem (hsound h) hload
    obtain ⟨entry, hget, -⟩ := hfresh.settled
    exact horderly.exists_loads hwritable (hfresh.derives hget) hfree (hsound h')
  have hindependent : season.toolchain.ConflictFree season.edition module →
      season.Independent module := fun hconflict s s' d d' h h' =>
    ⟨hfree hconflict s s' d d' h h', hfree hconflict s' s d' d h' h⟩
  refine ⟨hindependent, fun {s₀ d loaded s w} h hload hwrites hwarnings => ?_⟩
  have hnext := h.loads hlasts hmem hload
  have hfresh := horderly.fresh hmem (hsound h) hload
  have hagain : season.LoadsOn w.disk module →
      season.toolchain.ConflictFree season.edition module := by
    rintro ⟨loaded', s', w', hload'⟩
    have hfresh' := horderly.fresh hmem (hsound hnext) hload'
    exact hfresh'.conflictFree ((hfresh.not_mem_checks_iff hfresh' hwrites).2 hwarnings)
  exact ⟨⟨hagain, fun hconflict => hfree hconflict _ _ _ _ h hnext ⟨_, _, _, hload⟩⟩,
    fun hall => hagain ((hall _ _ _ _ h hnext).1 ⟨_, _, _, hload⟩), hindependent⟩

end History

/-! ## Three scripts with a conflict -/

namespace ScriptProject

set_option maxRecDepth 100000 in
/-- Three scripts, one importing the next. The last two bind a builtin differently, which the first
one does not see when it is checked. -/
def chain : Roomy where
  settings := {}
  roots := [⟨"p"⟩]
  modules := [⟨"A"⟩, ⟨"B"⟩, ⟨"C"⟩]
  disk := ⟨[(["p"], .directory), (["p", "_build"], .directory),
    (["p", "A.lm"], .file (Bytes.ofText "import B")),
    (["p", "B.lm"], .file (Bytes.ofText "import C\nbuiltin N b")),
    (["p", "C.lm"], .file (Bytes.ofText "builtin N c"))]⟩
  closed := Disk.closed_of_entries (by decide +kernel)
  plain := by decide +kernel
  direct := by decide +kernel
  apart := by decide +kernel
  room := by decide +kernel

set_option maxRecDepth 100000 in
/-- All that is hashed for the three has digests of its own. -/
theorem lasts_chain : chain.season.toolchain.Lasts {chain.season} :=
  chain.lasts 3 (by decide +kernel) (by decide +kernel)

/-- What can be computed of the three: what a script imports and how it binds the builtin. -/
theorem exists_derives_chain (x : ModuleName) (imported : List ModuleName) (bound : Option String)
    (h : ((chain.season.toolchain.derive? chain.season.edition 3 x).map fun e =>
      (e.interface.imports.map (·.1), e.interface.exports.builtins.get? "N"))
        = some (imported, bound)) :
    ∃ entry, chain.season.toolchain.Derives chain.season.edition x entry ∧
      (∀ y ∈ imported, chain.season.toolchain.Imports chain.season.edition x y) ∧
      entry.interface.exports.builtins.get? "N" = bound := by
  obtain ⟨entry, hderives, heq⟩ := Toolchain.exists_derives_of_map_derive? h
  obtain ⟨rfl, rfl⟩ := Prod.mk.inj heq
  refine ⟨entry, hderives, fun y hy => ?_, rfl⟩
  obtain ⟨⟨name, hash⟩, hmem, rfl⟩ := List.mem_map.1 hy
  exact ⟨entry, hderives, hash, hmem⟩

set_option maxRecDepth 100000 in
/-- **The first script reaches a conflict.** -/
theorem not_conflictFree_chain :
    ¬ chain.season.toolchain.ConflictFree chain.season.edition ⟨"A"⟩ := by
  intro hfree
  obtain ⟨-, -, hfirst, -⟩ := exists_derives_chain ⟨"A"⟩ [⟨"B"⟩] none (by decide +kernel)
  obtain ⟨second, hsecond, himports, hb⟩ :=
    exists_derives_chain ⟨"B"⟩ [⟨"C"⟩] (some "b") (by decide +kernel)
  obtain ⟨third, hthird, -, hc⟩ := exists_derives_chain ⟨"C"⟩ [] (some "c") (by decide +kernel)
  have hreaches := ReflTransGen.single (hfirst _ List.mem_cons_self)
  have hsame : "b" = "c" := hfree _ _ second third hreaches
    (hreaches.tail (himports _ List.mem_cons_self)) hsecond hthird "N" "b" "c" hb hc
  exact absurd hsame (by decide)

end ScriptProject

namespace History

open ScriptProject

set_option maxRecDepth 100000 in
/-- The first script loads where there are no artifacts, and never again with those that are left. -/
theorem not_independent_chain : ∃ (loaded : Loaded) (s : Session) (w : World),
    chain.season.Loads chain.disk ⟨"A"⟩ loaded s w ∧
    ¬ chain.season.LoadsOn w.disk ⟨"A"⟩ ∧ ¬ chain.season.Independent ⟨"A"⟩ := by
  have hrun : (((Session.start chain.season.setup).loadWithin 4 ⟨"A"⟩ .batch
      (.quiet chain.disk)).bind fun r => r.1.toOption.map fun loaded =>
        loaded.interface.hasWarnings) = some false := by
    decide +kernel
  obtain ⟨⟨result, s, w⟩, hload, hrun⟩ := Option.bind_eq_some_iff.1 hrun
  obtain ⟨loaded, hok, hwarnings⟩ := Option.map_eq_some_iff.1 hrun
  have hloads := Season.Loads.of_toOption hload hok
  have hfirst : History {chain.season} chain.season (.start chain.season.setup) chain.disk :=
    .first rfl chain.disk_mem (Disk.not_onDisk_of_entries (by decide +kernel))
  have hapart : chain.season.Apart := chain.apart_season (apart_season (by decide +kernel))
  obtain ⟨hagain, hindependent⟩ := (independent_iff_conflictFree lasts_chain chain.handsOff hapart
    chain.writable List.mem_cons_self).2 hfirst hloads rfl hwarnings
  exact ⟨loaded, s, w, hloads, fun h => not_conflictFree_chain (hagain.1 h),
    fun h => not_conflictFree_chain (hindependent.1 h)⟩

end History

end ModuleLoader
