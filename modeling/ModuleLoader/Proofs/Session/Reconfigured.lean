import ModuleLoader.Proofs.Project.Reconfigured
import ModuleLoader.Proofs.Session.Independence
import ModuleLoader.Proofs.Session.Stock

/-!
# A session with other settings

The settings say whether options are compared across imports, and which modules are built in. Both
decide about warnings, and an interface with warnings is kept from importers and from the disk. An
artifact, however, does not record under which of these settings it was written. A later session that
compares options finds the artifacts of one that did not, and takes them as they are.

So reuse hides what a clean build would report. What a module without warnings reaches is a stock under
any settings (`Season.stock_reached`, `Season.Stock.reconfigure`), and a load gives the interface of
the old ones, without a warning. This is what a clean build under the new settings gives just if under
these, too, nothing that the module reaches has a warning (`History.eq_clean_iff_warningFree`).
-/

namespace ModuleLoader

open Relation

/-- **The interfaces of a module and of all that it reaches.** -/
def Toolchain.Reached (t : Toolchain) (edition : Edition) (module : ModuleName) : Holdings :=
  fun x i => ReflTransGen (t.Imports edition) module x ∧ ∃ e, t.Derives edition x e ∧ e.interface = i

namespace Season

variable {season : Season} {module : ModuleName} {checks : Settings.Checks}
  {primitives : Settings.Primitives}

/-- **A season in which sessions run with other settings**, as far as these decide about
warnings. -/
def reconfigure (season : Season) (checks : Settings.Checks) (primitives : Settings.Primitives) :
    Season :=
  { season with
    setup := { season.setup with
      settings := { season.setup.settings with checks, primitives } } }

/-- The checkers stay the same. -/
@[simp] theorem checker_reconfigure : (season.reconfigure checks primitives).setup.checker
    = season.setup.checker := rfl

/-- **What a module reaches is a stock** if it is free of warnings. -/
theorem stock_reached (hfree : season.toolchain.WarningFree season.edition module) :
    season.Stock (season.toolchain.Reached season.edition module) where
  mem := fun ⟨_, _, he, _⟩ => he.mem
  unique := by
    rintro x _ _ ⟨-, e, he, rfl⟩ ⟨-, e', he', rfl⟩
    rw [he.unique he']
  unwarned := by
    rintro x _ ⟨hreaches, e, he, rfl⟩
    have hnone := hfree x e hreaches he
    rwa [he.entry_eq] at hnone
  current := by
    rintro x _ ⟨-, e, he, rfl⟩
    obtain ⟨text, htext, hname, hsource, hoptions⟩ := he.local_eq
    rw [season.options_eq] at hoptions
    exact ⟨text, htext, Interface.localStaleness?_eq_none_iff.2 ⟨hname, hsource, hoptions⟩⟩
  imports := by
    rintro x _ ⟨hreaches, e, he, rfl⟩ ⟨y, hash⟩ hmem
    obtain ⟨imported, himported, -, hhash⟩ := he.imports hmem
    exact ⟨imported.interface, ⟨hreaches.tail ⟨e, he, hash, hmem⟩, imported, himported, rfl⟩, hhash⟩
  wellFounded := by
    refine (Toolchain.wellFounded_imports season.toolchain season.edition).mono ?_
    rintro y x ⟨_, ⟨-, e, he, rfl⟩, hlists⟩
    exact ⟨e, he, hlists⟩

/-- **A stock is one under any settings** that decide about warnings only. -/
theorem Stock.reconfigure {held : Holdings} (h : season.Stock held) :
    (season.reconfigure checks primitives).Stock held where
  mem := h.mem
  unique := h.unique
  unwarned := h.unwarned
  current := h.current
  imports := h.imports
  wellFounded := h.wellFounded

/-- **A load without warnings leaves on disk all that the module reaches**, if interfaces are
written. -/
theorem Fresh.holds_reached {editions : Set Edition} {d : Disk} {loaded : Loaded} {s : Session}
    {w : World} (h : season.Fresh editions d module loaded s w)
    (hfree : season.toolchain.WarningFree season.edition module)
    (hwrites : season.setup.settings.build.writeInterfaces = true) {x : ModuleName} {i : Interface}
    (hreached : season.toolchain.Reached season.edition module x i) :
    season.setup.Holds w.disk x i := by
  obtain ⟨hreaches, e, he, rfl⟩ := hreached
  obtain ⟨entry, hget⟩ := h.settled_iff.2 hreaches
  obtain rfl := he.unique (h.derives hget)
  exact h.holds hwrites hget (hfree x e hreaches he)

/-- **A module that is free of warnings is the same under other settings** just if it is free of
warnings under these, too. -/
theorem Fresh.eq_iff_warningFree {editions editions' : Set Edition} {d d' : Disk}
    {loaded clean : Loaded} {s s' : Session} {w w' : World}
    (h : season.Fresh editions d module loaded s w) (hcodec : season.toolchain.codec.Faithful)
    (hinj : Set.InjOn Digest.ofBytes (season.toolchain.Hashed season.edition ∪
      (season.reconfigure checks primitives).toolchain.Hashed season.edition))
    (hfree : season.toolchain.WarningFree season.edition module)
    (h' : (season.reconfigure checks primitives).Fresh editions' d' module clean s' w') :
    clean = ⟨loaded.interface, []⟩ ↔
      (season.reconfigure checks primitives).toolchain.WarningFree season.edition module := by
  obtain ⟨entry, hget, hloaded⟩ := h.settled
  obtain ⟨entry', hget', hclean⟩ := h'.settled
  have hderives := h.derives hget
  have hderives' := h'.derives hget'
  constructor
  · intro hsame
    have hinterface : entry.interface = entry'.interface := by rw [hloaded, hclean, hsame]
    exact hderives.warningFree_of_interface_eq hcodec hinj Set.subset_union_left
      Set.subset_union_right hfree hderives' hinterface
  · intro hfree'
    have hinterface := hderives.interface_eq_of_warningFree hderives' hfree hfree'
    have hnone : clean.warnings = [] := by
      have hwarnings := hfree' module entry' .refl hderives'
      rw [hderives'.entry_eq, hclean] at hwarnings
      rw [h'.warnings]
      exact Interface.hasWarnings_eq_false_iff.1 hwarnings
    rw [← hloaded, hinterface, hclean, ← hnone]

end Season

namespace History

variable {season : Season} {checks : Settings.Checks} {primitives : Settings.Primitives}
  {module : ModuleName} {s₀ s₁ s s' : Session} {d d' : Disk} {loaded : Loaded} {w : World}

/-- **Reuse hides the warnings that other settings call for.** Let a session load a module that is
free of warnings, and write its interfaces. Then sessions that compare options in another way, or
know other modules as built in, load what that session loaded: the same interface without a warning,
and without checking anything. They do so unless builtins are in conflict. Now let such a session find
no artifacts, or only those of sessions with the same settings as its own. What it loads is the same
as above just if the module is free of warnings under its settings, too. -/
theorem eq_clean_iff_warningFree
    (hlasts : season.toolchain.Lasts {season})
    (hlasts' : (season.reconfigure checks primitives).toolchain.Lasts
      {season.reconfigure checks primitives})
    (hhandsOff : season.HandsOff) (hhandsOff' : (season.reconfigure checks primitives).HandsOff)
    (hapart : season.Apart)
    (hinj : Set.InjOn Digest.ofBytes (season.toolchain.Hashed season.edition ∪
      (season.reconfigure checks primitives).toolchain.Hashed season.edition))
    (hmem : module ∈ season.modules)
    (h : History {season} season s₀ d) (hload : season.Loads d module loaded s w)
    (hwrites : season.setup.settings.build.writeInterfaces = true)
    (hfree : season.toolchain.WarningFree season.edition module) :
    (∀ reused s' w', (season.reconfigure checks primitives).Loads w.disk module reused s' w' →
      reused = ⟨loaded.interface, []⟩ ∧ w'.checks = []) ∧
    (season.toolchain.ConflictFree season.edition module →
      (season.reconfigure checks primitives).LoadsOn w.disk module) ∧
    (History {season.reconfigure checks primitives} (season.reconfigure checks primitives) s₁ d' →
      ∀ clean s' w', (season.reconfigure checks primitives).Loads d' module clean s' w' →
        (clean = ⟨loaded.interface, []⟩ ↔
          (season.reconfigure checks primitives).toolchain.WarningFree season.edition module)) := by
  have horderly := hlasts.orderly rfl hhandsOff hapart
  have hfresh := horderly.fresh hmem (h.sound_start hlasts) hload
  obtain ⟨entry, hget, hloaded⟩ := hfresh.settled
  have hderives := hfresh.derives hget
  -- The artifacts are a stock for the sessions with the new settings.
  have hstock : (season.reconfigure checks primitives).Stock
      (season.toolchain.Reached season.edition module) := (Season.stock_reached hfree).reconfigure
  obtain ⟨hresult, hsucceeds⟩ := hstock.reused hfresh.sound.calm.disk
    (fun x i hreached => hfresh.holds_reached hfree hwrites hreached)
    ⟨.refl, entry, hderives, hloaded⟩
  refine ⟨hresult, fun hconflict => hsucceeds ?_, fun h' clean s' w' hload' => ?_⟩
  · rintro x y _ _ ⟨hx, e, he, rfl⟩ ⟨hy, e', he', rfl⟩
    exact hconflict x y e e' hx hy he he'
  have horderly' := hlasts'.orderly rfl hhandsOff' hapart
  have hfresh' := horderly'.fresh hmem (h'.sound_start hlasts') hload'
  exact hfresh.eq_iff_warningFree hlasts.faithful hinj hfree hfresh'

end History

/-! ## A script that asks more than its import keeps -/

namespace ScriptProject

section Reconfigured

variable (p : Roomy) (checks : Settings.Checks) (primitives : Settings.Primitives)

/-- Scripts abide by the rule under any settings. -/
theorem Roomy.abiding_reconfigure : (p.season.reconfigure checks primitives).Abiding := by
  intro module hmem text htext path mode
  rw [Season.checker_reconfigure]
  exact p.abides (fun _ h => h) hmem htext path mode

/-- Plain scripts leave the disk alone under any settings. -/
theorem Roomy.handsOff_reconfigure : (p.season.reconfigure checks primitives).HandsOff := by
  intro module hmem text htext path mode
  rw [Season.checker_reconfigure]
  exact p.abides (fun _ h => h) hmem htext path mode

end Reconfigured

set_option maxRecDepth 100000 in
/-- A script with an option that its import lacks, in a project that does not compare options. -/
def optioned : Roomy where
  settings := { checks := ⟨false⟩ }
  roots := [⟨"opt"⟩]
  modules := [⟨"A"⟩, ⟨"B"⟩]
  disk := ⟨[(["opt"], .directory), (["opt", "_build"], .directory),
    (["opt", "A.lm"], .file (Bytes.ofText "option safe\nimport B")),
    (["opt", "B.lm"], .file (Bytes.ofText "def b"))]⟩
  closed := Disk.closed_of_entries (by decide +kernel)
  plain := by decide +kernel
  direct := by decide +kernel
  apart := by decide +kernel
  room := by decide +kernel

/-- From now on options are compared. -/
def comparing : Season := optioned.season.reconfigure ⟨true⟩ {}

instance : DecidablePred (· ∈ comparing.toolchain.modules) :=
  fun module => inferInstanceAs (Decidable (module ∈ optioned.modules))

set_option maxRecDepth 100000 in
/-- What is hashed for the two scripts, with options compared or not, has digests of its own. -/
theorem injOn_optioned : Set.InjOn Digest.ofBytes
    (optioned.season.toolchain.Hashed optioned.season.edition ∪
      comparing.toolchain.Hashed optioned.season.edition) := by
  refine Digest.injOn_of_list
    (optioned.season.toolchain.hashedList optioned.season.edition 2 optioned.modules ++
      comparing.toolchain.hashedList optioned.season.edition 2 optioned.modules) ?_
    (by decide +kernel)
  rintro bytes (h | h)
  · exact List.mem_append_left _
      (Toolchain.hashed_subset_hashedList (fun _ h => h) (by decide +kernel) h)
  · exact List.mem_append_right _
      (Toolchain.hashed_subset_hashedList (fun _ h => h) (by decide +kernel) h)

theorem lasts_optioned : optioned.season.toolchain.Lasts {optioned.season} :=
  .single optioned.abiding Codec.standard_faithful (injOn_optioned.mono Set.subset_union_left)

theorem lasts_comparing : comparing.toolchain.Lasts {comparing} :=
  .single (optioned.abiding_reconfigure _ _) Codec.standard_faithful
    (injOn_optioned.mono Set.subset_union_right)

set_option maxRecDepth 100000 in
/-- Without the comparison the two scripts have no warnings, and they bind no builtins. -/
theorem exists_derives_optioned : ∀ x ∈ optioned.modules, ∃ e,
    optioned.season.toolchain.Derives optioned.season.edition x e ∧
    e.hasWarnings = false ∧ e.interface.exports.builtins.entries = [] := by
  have hcompute : ∀ x ∈ optioned.modules,
      ((optioned.season.toolchain.derive? optioned.season.edition 2 x).map fun e =>
        (e.hasWarnings, e.interface.exports.builtins.entries)) = some (false, []) := by
    decide +kernel
  intro x hx
  obtain ⟨e, he, heq⟩ := Toolchain.exists_derives_of_map_derive? (hcompute x hx)
  exact ⟨e, he, Prod.mk.inj heq⟩

theorem warningFree_optioned (module : ModuleName) :
    optioned.season.toolchain.WarningFree optioned.season.edition module := by
  intro x e _ he
  obtain ⟨e', he', hnone, -⟩ := exists_derives_optioned x he.mem
  rw [he.unique he', hnone]

theorem conflictFree_optioned (module : ModuleName) :
    optioned.season.toolchain.ConflictFree optioned.season.edition module := by
  intro x y e e' _ _ he _ builtin a b hbound _
  obtain ⟨e₁, he₁, -, hentries⟩ := exists_derives_optioned x he.mem
  obtain rfl := he.unique he₁
  have hmem := OrderedMap.mem_of_get? hbound
  rw [hentries] at hmem
  exact absurd hmem List.not_mem_nil

end ScriptProject

namespace History

open ScriptProject

set_option maxRecDepth 100000 in
/-- The first script is loaded without the comparison of options. Where options are compared, the next
session reuses it and reports nothing, although without its artifact there is a warning. -/
theorem not_eq_clean_optioned : ∃ (loaded reused clean : Loaded) (s s' s'' : Session)
    (w w' w'' : World), optioned.season.Loads optioned.disk ⟨"A"⟩ loaded s w ∧
    comparing.Loads w.disk ⟨"A"⟩ reused s' w' ∧ reused.warnings = [] ∧ w'.checks = [] ∧
    comparing.Loads optioned.disk ⟨"A"⟩ clean s'' w'' ∧
    clean.warnings = [Diagnostic.ofCoinfective .safe ⟨"B"⟩] ∧
    ¬ comparing.toolchain.WarningFree optioned.season.edition ⟨"A"⟩ := by
  have hrun : (((Session.start optioned.season.setup).loadWithin 3 ⟨"A"⟩ .batch
      (.quiet optioned.disk)).bind fun r => r.1.toOption.map fun _ => true) = some true := by
    decide +kernel
  have hrun' : (((Session.start comparing.setup).loadWithin 3 ⟨"A"⟩ .batch
      (.quiet optioned.disk)).bind fun r => r.1.toOption.map Loaded.warnings)
      = some [Diagnostic.ofCoinfective .safe ⟨"B"⟩] := by
    decide +kernel
  obtain ⟨loaded, s, w, hloads, -⟩ := Season.exists_loads_of_compute hrun
  obtain ⟨clean, s'', w'', hclean, hwarnings⟩ := Season.exists_loads_of_compute hrun'
  have hnone : ∀ i : Interface, ¬ i.OnDisk Setup.compilerVersion optioned.season.setup.codec
      optioned.disk := Disk.not_onDisk_of_entries (by decide +kernel)
  have hfirst : History {optioned.season} optioned.season (.start optioned.season.setup)
      optioned.disk := .first rfl optioned.disk_mem hnone
  have hfirst' : History {comparing} comparing (.start comparing.setup) optioned.disk :=
    .first rfl optioned.disk_mem hnone
  have hapart : optioned.season.Apart := optioned.apart_season (apart_season (by decide +kernel))
  obtain ⟨hresult, hsucceeds, hiff⟩ := eq_clean_iff_warningFree lasts_optioned lasts_comparing
    optioned.handsOff (optioned.handsOff_reconfigure _ _) hapart injOn_optioned List.mem_cons_self
    hfirst hloads rfl (warningFree_optioned _)
  obtain ⟨reused, s', w', hreused⟩ := hsucceeds (conflictFree_optioned _)
  obtain ⟨rfl, hchecks⟩ := hresult _ _ _ hreused
  refine ⟨loaded, _, clean, s, s', s'', w, w', w'', hloads, hreused, rfl, hchecks, hclean, hwarnings,
    fun hfree' => ?_⟩
  rw [(hiff hfirst' clean s'' w'' hclean).2 hfree'] at hwarnings
  exact absurd hwarnings nofun

end History

end ModuleLoader
