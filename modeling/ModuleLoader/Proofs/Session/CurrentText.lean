import ModuleLoader.Proofs.Load.Names
import ModuleLoader.Proofs.Session.Snapshot
import ModuleLoader.Proofs.Session.Traceless

/-!
# Loads that see the current text

There are four places that could answer for the source of a module: the settled interface, the
decoded one, the artifact, and the source that the session remembers. Each was filled at a time of
its own, and any of them may be behind the file. A load in a mode that does not settle reads the
source again before it compares anything with it, so the last three of them do not matter: what
passes for up to date has the digest of the text that was just read, and so has what is checked
(`Session.current_text`).

The first one does matter. A load that only resolves names takes the interface that the module was
settled with, whatever has become of the source: it does not look at the disk at all. A load that
keeps private declarations has no use for that interface, and sees the current text of settled
modules, too. So a load sees the current text just if it keeps private declarations, or if the module
is not settled, or was settled with that text.

The source is read again under the path under which it was first read, and this may be another
spelling of the path at which the module is found now. That the two lead to one file is an
invariant of sessions: sources are filed under their own paths (`Session.Reachable.filed`).
-/

namespace ModuleLoader

open Load LoadState

/-- **An interface without imports is merged by itself.** -/
theorem ImportedScope.mergeWithImports_of_imports {scope : ImportedScope} {visited : VisitedCache}
    {i : Interface} (h : i.imports = []) : scope.mergeWithImports visited i = scope.merge i := by
  have himports : settledImports visited i = [] := by
    unfold settledImports
    rw [h]
    rfl
  have hname : i.name ∈ reachable visited i := List.mem_cons_self
  unfold mergeWithImports
  rw [reach, himports, List.nil_append]
  by_cases hcontains : scope.contains i.name = true
  · rw [if_neg (fun h => h.2 hcontains), merge_of_contains hcontains, reach]
    rfl
  · rw [if_pos ⟨hname, hcontains⟩, reach]
    show (scope.merge i >>= fun merged => List.foldlM merge merged []) = _
    simp

/-! ## Sources are filed under their own paths -/

namespace SourceCache

variable {c c' : SourceCache} {d : Disk} {path : Path} {file : SourceFile}

namespace Filed

/-- Reading a file again keeps sources filed. -/
theorem reload (hc : c.Filed) (h : c.reload d path = .ok (file, c')) : c'.Filed := by
  obtain ⟨-, -, rfl⟩ := of_reload h
  intro p found hget
  obtain hbefore | ⟨hsame, rfl⟩ := get?_insert_eq_some hget
  · exact hc p found hbefore
  · exact hsame

/-- **What is read for a path was read under some spelling of it**, and sources stay filed. -/
theorem load (hc : c.Filed) (h : c.load d path = .ok (file, c')) :
    c'.Filed ∧ file.path.Same path := by
  obtain ⟨hget, rfl⟩ | hreload := of_load h
  · exact ⟨hc, hc path _ hget⟩
  · refine ⟨hc.reload hreload, ?_⟩
    rw [(of_reload hreload).1]
    rfl

end Filed

end SourceCache

/-- **Sources stay filed**, whatever is loaded. -/
def Setup.filing (setup : Setup) : setup.Conduct where
  obeys _ s s' := s.caches.sources.Filed → s'.caches.sources.Filed
  refl _ _ := id
  trans h h' := h' ∘ h
  of_subset _ h := h
  access _ _ := id
  record _ _ := id
  sources _ _ _ _ _ _ hread hfiled := hread.elim (fun h => (hfiled.load h).1) hfiled.reload
  edit _ _ := id
  lookUp _ _ _ := id
  keep _ _ _ := id
  write _ _ _ := id
  settle _ _ _ := id

namespace Session

variable {s s' : Session} {depth : Nat} {m : ModuleName} {mode : CheckMode} {world world' : World}

/-- **A load obeys every rule of conduct**, with the modules that were in progress before. -/
theorem obeys_of_loadWithin (conduct : s.setup.Conduct) {result : Except LoadError Loaded}
    (hload : s.loadWithin depth m mode world = some (result, s', world')) :
    conduct.obeys s.stack.frames ⟨s.caches, world⟩ ⟨s'.caches, world'⟩ := by
  obtain ⟨cycle, -, hcaches, rfl⟩ | ⟨pushed, outcome, hpush, hrun, -⟩ := run_of_loadWithin hload
  · rw [hcaches]
    exact conduct.refl _ _
  · have hsubset : s.stack.frames ⊆ pushed.frames :=
      ImportStack.frames_of_push hpush ▸ List.subset_append_left _ _
    exact Setup.Conduct.loadEntry
      (fun scope x => (conduct.resolve depth pushed scope x).of_subset hsubset)
      (ImportStack.notMem_of_push hpush) _ _ _ _ hrun

/-- Sessions file sources under their own paths. -/
theorem Reachable.filed (h : s.Reachable) : s.caches.sources.Filed := by
  induction h with
  | start setup => exact nofun
  | resume setup _ _ => exact nofun
  | load _ hload ih => exact obeys_of_loadWithin (Setup.filing _) hload ih

end Session

/-! ## Up to date with a target -/

namespace Setup

variable {setup : Setup} {importer : Importer} {target target' : Target} {scope : ImportedScope}
  {mode : CheckMode} {s s' : LoadState}

/-- **What validates was checked from the source of its target**, as far as digests tell. -/
theorem sourceHash_of_validate {i : Interface}
    (h : (setup.validate importer target scope).run.run s = some (.ok (.ok i), s')) :
    i.sourceHash = target.source.hash := by
  cases validates_of_run h with
  | current _ hlocal _ => exact (Interface.localStaleness?_eq_none_iff.1 hlocal).2.1

/-- **What is checked and not written holds the digest of the source of its target.** -/
theorem sourceHash_of_build (hmode : mode.persists = false) {built : Built}
    (h : (setup.build importer target mode scope).run.run s = some (.ok built, s')) :
    built.interface.sourceHash = target.source.hash := by
  cases builds_of_run h with
  | unwritten _ _ hsealed _ =>
    obtain ⟨body, -, rfl⟩ := Interface.sealed_eq_ok hsealed
    rfl
  | written _ _ _ hwrites _ =>
    unfold writes at hwrites
    rw [hmode] at hwrites
    contradiction

/-- **A source that is read again** is the text on disk, and nothing else of the target changes. -/
theorem refresh_eq_ok (h : (refresh target).run.run s = some (.ok target', s')) :
    ∃ text sources, s.nextDisk.readText target.source.path = .ok text ∧
      target' = { target with source := ⟨target.source.path, text⟩ } ∧
      s' = s.access.withSources sources := by
  cases refreshes_of_run h with
  | @refreshed file sources hreload =>
    obtain ⟨hpath, htext, -⟩ := SourceCache.of_reload hreload
    rw [← hpath]
    exact ⟨file.text, sources, by rwa [hpath], rfl, rfl⟩

/-- An entry module that is checked and not settled holds the digest of its source. -/
theorem sourceHash_of_buildEntry (hmode : mode.persists = false) {loaded : Loaded}
    {scope' : ImportedScope}
    (h : (setup.buildEntry importer target mode scope).run.run s
      = some (.ok (loaded, scope'), s')) : loaded.interface.sourceHash = target.source.hash := by
  unfold buildEntry at h
  obtain ⟨e, -, heq⟩ | ⟨built, s₁, hbuild, h⟩ := bind_eq_some h
  · contradiction
  dsimp only at h
  rw [settleEntry_of_not_persists hmode, pure_bind] at h
  obtain ⟨e, -, heq⟩ | ⟨merged, s₂, -, h⟩ := bind_eq_some h
  · contradiction
  obtain ⟨rfl, -⟩ := Prod.mk.inj (Except.ok.inj (congrArg Prod.fst (Option.some.inj h)))
  exact sourceHash_of_build hmode hbuild

/-- So does one that is validated first. -/
theorem sourceHash_of_validateEntry (hmode : mode.persists = false) {loaded : Loaded}
    {scope' : ImportedScope}
    (h : (setup.validateEntry importer target mode scope).run.run s
      = some (.ok (loaded, scope'), s')) : loaded.interface.sourceHash = target.source.hash := by
  unfold validateEntry at h
  obtain ⟨e, -, heq⟩ | ⟨validated, s₁, hvalidate, h⟩ := bind_eq_some h
  · contradiction
  cases validated with
  | error reason => exact sourceHash_of_buildEntry hmode h
  | ok i =>
    dsimp only at h
    rw [settleEntry_of_not_persists hmode, pure_bind, run_reuse] at h
    split at h
    · obtain ⟨rfl, -⟩ := Prod.mk.inj (Except.ok.inj (congrArg Prod.fst (Option.some.inj h)))
      exact sourceHash_of_validate hvalidate
    · exact absurd (congrArg Prod.fst (Option.some.inj h)) nofun

/-- **A load that does not settle, and is not answered from memory, reads the source again**: under
the path of the source that was remembered or read for the module that it has found. -/
theorem sourceHash_of_loadTarget (hmode : mode.persists = false) {module : ModuleName}
    {loaded : Loaded} {scope' : ImportedScope}
    (h : (setup.loadTarget importer scope module mode).run.run s = some (.ok (loaded, scope'), s')) :
    ∃ found file sources text, setup.finder module s.nextDisk = .ok found ∧
      s.caches.sources.load s.access.nextDisk found.source = .ok (file, sources) ∧
      s.access.access.nextDisk.readText file.path = .ok text ∧
      loaded.interface.sourceHash = Digest.ofText text := by
  rw [loadTarget_of_not_persists hmode] at h
  obtain ⟨e, -, heq⟩ | ⟨located, s₁, hlocate, h⟩ := bind_eq_some h
  · contradiction
  obtain ⟨e, -, heq⟩ | ⟨target, s₂, hrefresh, h⟩ := bind_eq_some h
  · contradiction
  have hhash : loaded.interface.sourceHash = target.source.hash := by
    split at h
    · exact sourceHash_of_buildEntry hmode h
    · exact sourceHash_of_validateEntry hmode h
  obtain ⟨found, file, sources, hfound, hload, rfl, rfl⟩ := locate_eq_ok hlocate
  obtain ⟨text, _, htext, rfl, -⟩ := refresh_eq_ok hrefresh
  exact ⟨found, file, sources, text, hfound, hload, htext, hhash⟩

/-- **A module has its source in one place, with one text**, from a moment on until the disk has been
accessed three times. A load reads the source of its module within that time. -/
def Steady (setup : Setup) (module : ModuleName) (world : World) (found : FoundModule)
    (text : String) : Prop :=
  ∀ n ≤ 3, setup.finder module (World.next^[n] world).disk = .ok found ∧
    (World.next^[n] world).disk.readText found.source = .ok text

/-- In a quiet world every source stays as it is. -/
theorem steady_quiet {module : ModuleName} {d : Disk} {found : FoundModule} {text : String}
    (hfound : setup.finder module d = .ok found) (htext : d.readText found.source = .ok text) :
    setup.Steady module (.quiet d) found text := by
  intro n _
  have hfixed : World.next^[n] (.quiet d) = .quiet d := Function.iterate_fixed rfl n
  rw [hfixed]
  exact ⟨hfound, htext⟩

end Setup

namespace Session

variable {s s' : Session} {depth : Nat} {m : ModuleName} {mode : CheckMode} {world world' : World}
  {loaded : Loaded} {found : FoundModule} {text : String}

/-- **Loads that do not settle see the current text just if memory does not answer for them**, or
answers with that text, after any earlier loads and edits. If the load keeps private declarations, or
if the module is not settled, the interface holds the digest of the text that the source has when the
load is made. If the load only resolves names and the module is settled, the interface is the one that
it was settled with: the outcome is the same whatever the disk is like, and nothing is remembered that
was not. -/
theorem current_text (hs : s.Reachable) (hmode : mode.persists = false)
    (hsteady : s.setup.Steady m world found text)
    (hload : s.loadWithin depth m mode world = some (.ok loaded, s', world')) :
    (loaded.interface.sourceHash = Digest.ofText text ↔ mode.retainsPrivate = true ∨
      ∀ entry, s.caches.visited.get? m = some entry →
        entry.interface.sourceHash = Digest.ofText text) ∧
    (mode.retainsPrivate = false → ∀ entry, s.caches.visited.get? m = some entry →
      loaded.interface = entry.interface ∧ s'.caches = s.caches ∧
      ∀ depth world, s.loadWithin depth m mode world = some (.ok loaded, s', world)) := by
  have hread : mode.retainsPrivate = true ∨ s.caches.visited.get? m = none →
      loaded.interface.sourceHash = Digest.ofText text := by
    intro hmemory
    obtain ⟨stack, outcome, -, hrun, houtcome, -⟩ := loadWithin_eq_some hs.stack_eq hload
    cases outcome with
    | error e => contradiction
    | ok p =>
      obtain ⟨loaded', scope⟩ := p
      obtain rfl : loaded' = loaded := Except.ok.inj houtcome
      rw [Setup.run_loadEntry_eq hmemory] at hrun
      obtain ⟨found', file, sources, text', hfound, hread, htext, hhash⟩ :=
        Setup.sourceHash_of_loadTarget hmode hrun
      obtain rfl : found' = found := Except.ok.inj (hfound.symm.trans (hsteady 1 (by decide)).1)
      -- The path that is read is another spelling of the one that is found, at most.
      have hsame := (hs.filed.load hread).2
      have hthird := (hsteady 3 (by decide)).2
      have heq := Disk.readText_eq_of_same hsame (Disk.isFile_of_readText htext)
        (Disk.isFile_of_readText hthird)
      rw [hhash, Except.ok.inj (htext.symm.trans (heq.trans hthird))]
  have hrecall : mode.retainsPrivate = false → ∀ entry, s.caches.visited.get? m = some entry →
      loaded.interface = entry.interface ∧ s'.caches = s.caches ∧
      ∀ depth world, s.loadWithin depth m mode world = some (.ok loaded, s', world) := by
    intro hprivate entry hget
    obtain ⟨result, scope, hinterface, hknown⟩ := loadWithin_settled hget hprivate
    obtain ⟨hresult, hafter⟩ := Prod.mk.inj (Option.some.inj ((hknown depth world).symm.trans hload))
    obtain ⟨rfl, -⟩ := Prod.mk.inj hafter
    exact ⟨hinterface loaded hresult, rfl, fun depth world => hresult ▸ hknown depth world⟩
  refine ⟨⟨fun hhash => ?_, fun hmemory => ?_⟩, hrecall⟩
  · cases hprivate : mode.retainsPrivate with
    | true => exact .inl rfl
    | false => exact .inr fun entry hget => (hrecall hprivate entry hget).1 ▸ hhash
  · cases hprivate : mode.retainsPrivate with
    | true => exact hread (.inl hprivate)
    | false =>
      cases hget : s.caches.visited.get? m with
      | none => exact hread (.inr hget)
      | some entry =>
        rw [(hrecall hprivate entry hget).1]
        exact (hmemory.resolve_left (by rw [hprivate]; nofun)) entry hget

/-! ## A script that is edited -/

/-- A directory with one script, which has a given text. -/
def oneScriptDisk (text : String) : Disk :=
  ⟨[(["p"], .directory), (["p", "A.lm"], .file (Bytes.ofText text))]⟩

/-- What sessions run with that check scripts in this directory and write no artifacts. -/
def unwrittenSetup : Setup := .scripts { build := { writeInterfaces := false } } [⟨"p"⟩]

/-- The script stays as it is, once it has been edited. -/
theorem steady_edited : unwrittenSetup.Steady ⟨"A"⟩ (.quiet (oneScriptDisk "def b"))
    ⟨⟨"p"⟩, ⟨"p/A.lm"⟩⟩ "def b" := by
  refine Setup.steady_quiet ?_ ?_
  · decide +kernel
  · decide +kernel

/-- A settled module without imports is recalled when its names are resolved, if its interface can be
merged. -/
theorem exists_loadWithin_settled (hs : s.Reachable) {entry : VisitedEntry}
    (hget : s.caches.visited.get? m = some entry) (himports : entry.interface.imports = [])
    (hmerge : ((s.scope.forget m).merge entry.interface).toOption.isSome = true) :
    ∃ loaded s', ∀ depth world,
      s.loadWithin depth m .scopeOnly world = some (.ok loaded, s', world) := by
  have hmode : CheckMode.scopeOnly.retainsPrivate = false := rfl
  obtain ⟨result, scope, -, hknown⟩ := loadWithin_settled hget hmode
  obtain ⟨_, outcome, -, hrun, houtcome, -⟩ := loadWithin_eq_some hs.stack_eq (hknown 0 default)
  rw [Setup.run_loadEntry_settled hget _ hmode, ImportedScope.mergeWithImports_of_imports himports]
    at hrun
  cases hmerged : (s.scope.forget m).merge entry.interface with
  | error e => rw [hmerged] at hmerge; contradiction
  | ok merged =>
    rw [hmerged] at hrun
    obtain rfl := congrArg Prod.fst (Option.some.inj hrun)
    obtain rfl : .ok ⟨entry.interface, entry.interface.warnings⟩ = result := houtcome
    exact ⟨_, _, hknown⟩

set_option maxRecDepth 100000 in
/-- The script is settled and edited. A load that keeps private declarations sees the edited text then,
and a load that only resolves names does not. -/
theorem current_text_edited : ∃ (s s₁ s₂ : Session) (w₁ w₂ : World) (loaded recalled : Loaded),
    s.Reachable ∧ (CheckMode.typeCheck true).persists = false ∧
    CheckMode.scopeOnly.persists = false ∧
    s.setup.Steady ⟨"A"⟩ (.quiet (oneScriptDisk "def b")) ⟨⟨"p"⟩, ⟨"p/A.lm"⟩⟩ "def b" ∧
    s.loadWithin 3 ⟨"A"⟩ (.typeCheck true) (.quiet (oneScriptDisk "def b"))
      = some (.ok loaded, s₁, w₁) ∧
    loaded.interface.sourceHash = Digest.ofText "def b" ∧
    s.loadWithin 3 ⟨"A"⟩ .scopeOnly (.quiet (oneScriptDisk "def b"))
      = some (.ok recalled, s₂, w₂) ∧
    recalled.interface.sourceHash ≠ Digest.ofText "def b" := by
  let start := Session.start unwrittenSetup
  have hrun : ((start.loadWithin 3 ⟨"A"⟩ .batch (.quiet (oneScriptDisk "def a"))).bind fun r =>
      (r.2.1.loadWithin 3 ⟨"A"⟩ (.typeCheck true) (.quiet (oneScriptDisk "def b"))).bind fun r₁ =>
        (r.2.1.caches.visited.get? ⟨"A"⟩).map fun entry =>
          (r₁.1.toOption.isSome, entry.interface.imports.isEmpty,
            ((r.2.1.scope.forget ⟨"A"⟩).merge entry.interface).toOption.isSome,
            decide (entry.interface.sourceHash = Digest.ofText "def b")))
      = some (true, true, true, false) := by
    decide +kernel
  obtain ⟨⟨first, s, w⟩, hfirst, hrun⟩ := Option.bind_eq_some_iff.1 hrun
  obtain ⟨⟨result, s₁, w₁⟩, hload, hrun⟩ := Option.bind_eq_some_iff.1 hrun
  obtain ⟨entry, hget, heq⟩ := Option.map_eq_some_iff.1 hrun
  obtain ⟨hok, hrest⟩ := Prod.mk.inj heq
  obtain ⟨himports, hrest⟩ := Prod.mk.inj hrest
  obtain ⟨hmerge, hhash⟩ := Prod.mk.inj hrest
  have hreachable : s.Reachable := .load (.start _) hfirst
  have hsteady := steady_edited
  obtain ⟨_, _, -, -, -, hsetup, -⟩ := loadWithin_eq_some rfl hfirst
  rw [← show s.setup = unwrittenSetup from hsetup] at hsteady
  obtain ⟨loaded, rfl⟩ := LoadError.exists_eq_ok hok
  obtain ⟨recalled, s₂, hrecall⟩ := exists_loadWithin_settled hreachable hget
    (List.isEmpty_iff.1 himports) hmerge
  have hload₂ := hrecall 3 (.quiet (oneScriptDisk "def b"))
  have hprivate := current_text hreachable rfl hsteady hload
  have hscope := current_text hreachable rfl hsteady hload₂
  refine ⟨s, s₁, s₂, w₁, _, loaded, recalled, hreachable, rfl, rfl, hsteady, hload,
    hprivate.1.2 (.inl rfl), hload₂, fun hcurrent => ?_⟩
  obtain hretains | hsettled := hscope.1.1 hcurrent
  · contradiction
  · exact of_decide_eq_false hhash (hsettled entry hget)

end Session

end ModuleLoader
