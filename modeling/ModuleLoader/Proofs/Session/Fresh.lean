import ModuleLoader.Proofs.Session.History
import ModuleLoader.Proofs.Session.Snapshot
import ModuleLoader.Proofs.Session.Tracked

/-!
# A session that loads one module

A session that starts from scratch and loads one module, while nobody else is at work, leaves a
trail that begins with nothing: the trail lists everything that is settled. That is the module and
whatever it reaches along imports (`Season.Fresh.settled_iff`), each as it is derived. So all that
is left to ask of such a load is which modules were checked.
-/

namespace ModuleLoader

open Relation

namespace VisitedCache

/-- What a module is settled with is one of the entries. -/
theorem mem_of_get? {c : VisitedCache} {module : ModuleName} {entry : VisitedEntry}
    (h : c.get? module = some entry) : (module, entry) ∈ c.entries := by
  obtain ⟨before, after, heq, -⟩ := List.lookup_eq_some_iff.1 h
  rw [heq]
  exact List.mem_append_right _ List.mem_cons_self

/-- A module with an entry is settled. -/
theorem exists_get?_of_mem {c : VisitedCache} {e : ModuleName × VisitedEntry} (h : e ∈ c.entries) :
    ∃ entry, c.get? e.1 = some entry := by
  cases hget : c.get? e.1 with
  | some entry => exact ⟨entry, rfl⟩
  | none =>
    have hne := List.lookup_eq_none_iff.1 hget e h
    exact absurd rfl (bne_iff_ne.1 hne)

end VisitedCache

namespace Season

/-- **A session from scratch loads a module** on a disk, in the mode that settles, while nobody else
is at work. -/
def Loads (season : Season) (d : Disk) (module : ModuleName) (loaded : Loaded) (s : Session)
    (w : World) : Prop :=
  ∃ depth, (Session.start season.setup).loadWithin depth module .batch (.quiet d)
    = some (.ok loaded, s, w)

/-- **A session from scratch can load a module** with the artifacts on a disk. -/
def LoadsOn (season : Season) (d : Disk) (module : ModuleName) : Prop :=
  ∃ loaded s w, season.Loads d module loaded s w

/-- A load that has a result is one. -/
theorem Loads.of_toOption {season : Season} {d : Disk} {module : ModuleName} {depth : Nat}
    {result : Except LoadError Loaded} {loaded : Loaded} {s : Session} {w : World}
    (hload : (Session.start season.setup).loadWithin depth module .batch (.quiet d)
      = some (result, s, w)) (h : result.toOption = some loaded) :
    season.Loads d module loaded s w := by
  obtain rfl := LoadError.eq_ok_of_toOption h
  exact ⟨depth, hload⟩

/-- What can be computed of a load from scratch holds of one. -/
theorem exists_loads_of_compute {α : Type}
    {f : Except LoadError Loaded × Session × World → Loaded → α} {a : α} {season : Season} {d : Disk}
    {module : ModuleName} {depth : Nat}
    (h : (((Session.start season.setup).loadWithin depth module .batch (.quiet d)).bind fun r =>
      r.1.toOption.map fun loaded => f r loaded) = some a) :
    ∃ loaded s w, season.Loads d module loaded s w ∧ f (.ok loaded, s, w) loaded = a := by
  obtain ⟨⟨result, s, w⟩, hload, h⟩ := Option.bind_eq_some_iff.1 h
  obtain ⟨loaded, hok, heq⟩ := Option.map_eq_some_iff.1 h
  obtain rfl := LoadError.eq_ok_of_toOption hok
  exact ⟨loaded, s, w, ⟨depth, hload⟩, heq⟩

/-- **What such a load leaves.** -/
structure Fresh (season : Season) (editions : Set Edition) (d : Disk) (module : ModuleName)
    (loaded : Loaded) (s : Session) (w : World) : Prop where
  /-- Caches and disk can be trusted. -/
  sound : season.Sound editions ⟨s.caches, w⟩
  /-- A trail from the module, which lists everything. -/
  trail : season.Trail ∅ {module} ⟨Caches.empty, .quiet d⟩ ⟨s.caches, w⟩ s.caches.visited.entries
    w.checks
  /-- The module is settled as it was loaded. -/
  settled : ∃ entry, s.caches.visited.get? module = some entry ∧ entry.interface = loaded.interface
  /-- Its warnings are those of its interface. -/
  warnings : loaded.warnings = loaded.interface.warnings
  /-- It was settled from its artifact, or by a check of its own. -/
  concluded : season.Concluded ∅ module ⟨Caches.empty, .quiet d⟩ w.checks (loaded, s.scope)
    ⟨s.caches, w⟩
  /-- What settled modules import is settled. -/
  closed : ∀ x entry, s.caches.visited.get? x = some entry → ∀ imported,
    entry.interface.Lists imported → ∃ known, s.caches.visited.get? imported = some known

variable {season : Season} {editions : Set Edition} {d : Disk} {module : ModuleName}
  {loaded : Loaded} {s : Session} {w : World}

/-- **A session that loads one module leaves a trail that lists everything.** -/
theorem Orderly.fresh (h : season.Orderly editions) (hmem : module ∈ season.modules)
    (hs : season.Sound editions ⟨Caches.empty, .quiet d⟩)
    (hload : season.Loads d module loaded s w) : season.Fresh editions d module loaded s w := by
  obtain ⟨depth, hload⟩ := hload
  have halone : season.Alone ⟨Caches.empty, .quiet d⟩ := ⟨rfl, nofun⟩
  have hreachable : s.Reachable := .load (.start season.setup) hload
  obtain ⟨hsound, -, hsettled, hending⟩ :=
    Session.ledTo_loadWithin rfl h.contract rfl hmem hs hload
  have hwarnings := hending.warnings_eq fun _ _ _ _ hfit =>
    (congrArg VisitedEntry.hasWarnings (Toolchain.Derives.entry_eq hfit)).symm
  obtain ⟨stack, outcome, hframes, hrun, hresult, hsetup, -, hscope⟩ :=
    Session.loadWithin_eq_some rfl hload
  have himporter := h.contract.resolve depth stack
  rw [hframes] at himporter
  have hended := h.tracked_loadEntry himporter (h.tracked_resolve depth stack) hmem _ hs halone _ _
    hrun
  cases outcome with
  | error e => exact absurd hresult nofun
  | ok r =>
    obtain ⟨-, new, checked, htrail, hconcluded⟩ := hended
    obtain ⟨found, scope⟩ := r
    obtain rfl : found = loaded := Except.ok.inj hresult
    obtain rfl : s.scope = scope := hscope
    -- There was nothing before.
    obtain rfl : s.caches.visited.entries = new := htrail.entries
    obtain rfl : w.checks = checked := htrail.checks
    refine ⟨hsound, htrail, hsettled rfl, hwarnings, hconcluded, ?_⟩
    rintro x entry hget imported ⟨hash, hlisted⟩
    have hcodec : s.setup.codec.Faithful := hsetup ▸ h.faithful
    obtain ⟨before, after, heq⟩ := Setup.Consistent.exists_split hget
    obtain ⟨known, hknown, -⟩ :=
      (hreachable.consistent hcodec before x entry after heq).2.imports _ hlisted
    refine ⟨known, ?_⟩
    show s.caches.visited.entries.lookup imported = some known
    rw [heq, List.lookup_append, show before.lookup imported = some known from hknown]
    rfl

namespace Fresh

variable (h : season.Fresh editions d module loaded s w)

include h

/-- What is settled is derived. -/
theorem derives {x : ModuleName} {entry : VisitedEntry}
    (hget : s.caches.visited.get? x = some entry) :
    season.toolchain.Derives season.edition x entry :=
  h.sound.visited x entry hget

/-- **The settled modules are those that are reached** along imports. -/
theorem settled_iff {x : ModuleName} :
    (∃ entry, s.caches.visited.get? x = some entry) ↔
      ReflTransGen (season.toolchain.Imports season.edition) module x := by
  constructor
  · rintro ⟨entry, hget⟩
    obtain ⟨root, rfl, hreaches⟩ := h.trail.reached _ (VisitedCache.mem_of_get? hget)
    exact hreaches
  · intro hreaches
    induction hreaches with
    | refl =>
      obtain ⟨entry, hget, -⟩ := h.settled
      exact ⟨entry, hget⟩
    | tail _ himports ih =>
      obtain ⟨entry, hget⟩ := ih
      exact h.closed _ entry hget _ ((h.derives hget).imports_iff.1 himports)

/-- What is checked is settled. -/
theorem settled_of_mem_checks {x : ModuleName} (hx : x ∈ w.checks) :
    ∃ entry, s.caches.visited.get? x = some entry := by
  obtain hnone | ⟨e, he, rfl⟩ := h.trail.accounted x hx
  · exact absurd hnone id
  · exact VisitedCache.exists_get?_of_mem he

/-- **A settled module was checked just if its artifact was not up to date**, provided that it read
as some interface. -/
theorem mem_checks_iff {x : ModuleName} {entry : VisitedEntry}
    (hget : s.caches.visited.get? x = some entry) {i : Interface}
    (hholds : season.setup.Holds d x i) : x ∈ w.checks ↔ i ≠ entry.interface := by
  have hmem := VisitedCache.mem_of_get? hget
  constructor
  · rintro hchecked rfl
    exact h.trail.rechecked _ hmem hchecked hholds
  · intro hne
    by_contra hnot
    exact hne (h.trail.reused _ hmem hnot i hholds)

/-- Without warnings everything that is settled is on disk. -/
theorem holds (hwrites : season.setup.settings.build.writeInterfaces = true) {x : ModuleName}
    {entry : VisitedEntry} (hget : s.caches.visited.get? x = some entry)
    (hwarnings : entry.hasWarnings = false) : season.setup.Holds w.disk x entry.interface :=
  h.trail.stored hwrites _ (VisitedCache.mem_of_get? hget) hwarnings

/-- **What was loaded is reused by the next load just if it has no warnings**, if interfaces are
written. -/
theorem not_mem_checks_iff {loaded' : Loaded} {s' : Session} {w' : World}
    (h' : season.Fresh editions w.disk module loaded' s' w')
    (hwrites : season.setup.settings.build.writeInterfaces = true) :
    module ∉ w'.checks ↔ loaded.interface.hasWarnings = false := by
  obtain ⟨entry, hget, hloaded⟩ := h.settled
  obtain ⟨entry', hget', hloaded'⟩ := h'.settled
  have hderives := h.derives hget
  obtain rfl := hderives.unique (h'.derives hget')
  have hwarnings : entry.hasWarnings = loaded.interface.hasWarnings := by
    rw [hderives.entry_eq, ← hloaded]
  constructor
  · -- What was reused is on disk, and such interfaces were derived free of warnings.
    intro hnot
    obtain ⟨found, -, hread⟩ := h'.concluded.held hnot rfl
    rw [← hloaded, hloaded']
    exact (h.sound.onDisk _ (.of_readInterface? hread)).hasWarnings_eq_false
  · intro hclean hchecked
    exact (h'.mem_checks_iff hget' (h.holds hwrites hget (hwarnings.trans hclean))).1 hchecked rfl

end Fresh

end Season

/-- A season of a project whose checkers leave the disk alone, and whose artifacts lie apart, is an
orderly one. -/
theorem Toolchain.Lasts.orderly {t : Toolchain} {seasons : Set Season} (hlasts : t.Lasts seasons)
    {season : Season} (hseason : season ∈ seasons) (hhandsOff : season.HandsOff)
    (hapart : season.Apart) : season.Orderly (Season.edition '' seasons) where
  mem := ⟨season, hseason, rfl⟩
  abiding := hlasts.abiding season hseason
  handsOff := hhandsOff
  faithful := by
    have hsame := hlasts.toolchain_eq season hseason
    show season.toolchain.codec.Faithful
    rw [hsame]
    exact hlasts.faithful
  collisionFree := by
    rw [hlasts.toolchain_eq season hseason]
    exact hlasts.collisionFree
  apart := hapart

end ModuleLoader
