import ModuleLoader.Proofs.Session.Provided

/-!
# Artifacts that are up to date

A *stock* is a choice of interfaces for some modules that could all be reused: each was built from
the source that its module has now and under the base options of now, and it records the digests that
its imports have in the stock (`Season.Stock`). Nothing is asked of the options of the modules, nor of
which of them are built in. So whether interfaces form a stock does not depend on the settings that
decide about warnings.

If a stock is on disk, a load never looks beyond it. It validates the stored interfaces, settles
modules with them, and calls no checker (`Season.Stock.leads_loadEntry`), and it does so to the end,
unless interfaces that it merges are in each other's way.
-/

namespace ModuleLoader

open Load Relation

/-- Interfaces of some modules. -/
abbrev Holdings := ModuleName → Interface → Prop

/-- One module lists another one in the interface that is held for it. -/
def Holdings.Lists (held : Holdings) (x y : ModuleName) : Prop := ∃ i, held x i ∧ i.Lists y

namespace Season

/-- **A stock**: interfaces that are up to date for one another and for the sources of a season. -/
structure Stock (season : Season) (held : Holdings) : Prop where
  /-- They are interfaces of the project. -/
  mem {x : ModuleName} {i : Interface} : held x i → x ∈ season.modules
  /-- A module has one. -/
  unique {x : ModuleName} {i j : Interface} : held x i → held x j → i = j
  /-- None has warnings. -/
  unwarned {x : ModuleName} {i : Interface} : held x i → i.hasWarnings = false
  /-- Each was built from the source of the season, under its base options. -/
  current {x : ModuleName} {i : Interface} : held x i → ∃ text,
    season.edition.text? x = some text ∧ i.localStaleness? x (Digest.ofText text)
      season.setup.settings.options.fingerprint = none
  /-- The imports have the digests recorded for them. -/
  imports {x : ModuleName} {i : Interface} : held x i → ∀ e ∈ i.imports, ∃ j, held e.1 j ∧
    j.fullHash = e.2
  /-- No module imports itself, not even through others. -/
  wellFounded : WellFounded fun y x => held.Lists x y

/-- **A state of an undisturbed load that uses a stock only**: it is on disk, what is settled is part
of it, and no checker has been called. -/
structure Stocked (season : Season) (held : Holdings) (s : LoadState) : Prop where
  /-- The season goes on. -/
  calm : season.Calm s.world
  /-- Nobody else is at work. -/
  alone : season.Alone s
  /-- Sources that were read are as they are on disk. -/
  sources : ∀ path file, s.caches.sources.get? path = some file →
    file.path.Same path ∧ ∀ d ∈ season.disks, d.readText file.path = .ok file.text
  /-- The stock is on disk. -/
  holds : ∀ x i, held x i → season.setup.Holds s.world.disk x i
  /-- What is settled is part of it. -/
  visited : ∀ x entry, s.caches.visited.get? x = some entry →
    held x entry.interface ∧ entry.hasWarnings = false
  /-- Nothing was checked. -/
  checks : s.world.checks = []

variable {season : Season} {held : Holdings} {sure : Prop} {importer : Importer} {s : LoadState}
  {target : Target} {scope : ImportedScope} {x : ModuleName} {i : Interface}

namespace Stocked

/-- A session that starts on a disk with a stock. -/
theorem fresh {d : Disk} (hd : d ∈ season.disks)
    (hholds : ∀ x i, held x i → season.setup.Holds d x i) :
    season.Stocked held ⟨Caches.empty, .quiet d⟩ where
  calm := calm_quiet hd
  alone := ⟨rfl, nofun⟩
  sources := nofun
  holds := hholds
  visited := nofun
  checks := rfl

/-- One more source has been read. -/
theorem withSource (hs : season.Stocked held s) {path : Path} {text : String}
    (hread : ∀ d ∈ season.disks, d.readText path = .ok text) :
    season.Stocked held (s.withSources (s.caches.sources.insert ⟨path, text⟩)) :=
  { hs with
    alone := hs.alone.of_eq rfl rfl rfl
    sources := by
      intro p file hfile
      obtain hbefore | ⟨hsame, rfl⟩ := SourceCache.get?_insert_eq_some hfile
      · exact hs.sources p file hbefore
      · exact ⟨hsame, hread⟩ }

/-- An interface of the stock is kept. -/
theorem keep (hs : season.Stocked held s) (hstock : season.Stock held) (hheld : held x i) :
    season.Stocked held (s.keep x i) :=
  { hs with alone := hs.alone.keep (hstock.mem hheld) (hs.holds x i hheld) }

/-- A module is settled with an interface of the stock. -/
theorem settle (hs : season.Stocked held s) (hheld : held x i) (isPrimitive : Bool) :
    season.Stocked held ((s.settle x ⟨i, false, isPrimitive⟩).record (.settled x)) :=
  { hs with
    calm := ⟨hs.calm.disk, hs.calm.outside⟩
    alone := hs.alone.of_eq rfl rfl rfl
    visited := by
      intro y entry hget
      obtain hbefore | ⟨rfl, rfl⟩ := VisitedCache.get?_record_eq_some hget
      · exact hs.visited y entry hbefore
      · exact ⟨hheld, rfl⟩
    checks := (s.world.checks_record_settled x).trans hs.checks }

/-- **What a settled interface leads to is part of the stock.** -/
theorem held_of_leadsTo (hs : season.Stocked held s) (hheld : held x i) {j : Interface}
    (hleads : ImportedScope.LeadsTo s.caches.visited i j) : ∃ y, held y j := by
  induction hleads with
  | refl => exact ⟨x, hheld⟩
  | tail _ hsettled _ =>
    obtain ⟨e, -, entry, hget, rfl⟩ := ImportedScope.mem_settledImports.1 hsettled
    exact ⟨e.1, (hs.visited _ _ hget).1⟩

end Stocked

/-- **A way of importing answers from the stock.** -/
def Answers (season : Season) (held : Holdings) (sure : Prop) (importer : Importer)
    (x : ModuleName) : Prop :=
  ∀ scope s i, season.Stocked held s → held x i →
    (importer scope x).Leads sure s fun entry s' => season.Stocked held s' ∧ entry.interface = i ∧
      entry.hasWarnings = false

namespace Stock

variable (h : season.Stock held)

include h

/-! ## Validating -/

/-- **A module of the stock is located.** -/
theorem leads_locate (hs : season.Stocked held s) (hheld : held x i) :
    (season.setup.locate x).Leads sure s fun target s' => season.Stocked held s' ∧
      season.setup.IsTarget x target ∧ season.Located target := by
  obtain ⟨text, htext, -⟩ := h.current hheld
  obtain ⟨target, htarget, hlocated, hrun | ⟨path, hrun, hread⟩⟩ :=
    exists_run_locate hs.calm.disk hs.alone hs.sources (h.mem hheld) htext
  · exact .of_run hrun ⟨hs, htarget, hlocated⟩
  · exact .of_run hrun ⟨hs.withSource hread, htarget, hlocated⟩

omit h in
/-- The recorded imports of the stock are current. -/
theorem leads_changedImport? {imports : List (ModuleName × Digest)}
    (himports : ∀ e ∈ imports, season.Answers held sure importer e.1 ∧
      ∃ j, held e.1 j ∧ j.fullHash = e.2) (hs : season.Stocked held s) :
    (Interface.changedImport? (Setup.currentHash importer scope) imports).Leads sure s
      fun reason s' => reason = none ∧ season.Stocked held s' := by
  induction imports generalizing s with
  | nil => exact .pure ⟨rfl, hs⟩
  | cons e rest ih =>
    obtain ⟨hanswers, j, hheld, hhash⟩ := himports e List.mem_cons_self
    unfold Interface.changedImport? Setup.currentHash
    rw [bind_assoc]
    refine (hanswers scope s j hs hheld).bind fun entry s₁ hanswer => ?_
    obtain ⟨hs₁, hentry, -⟩ := hanswer
    rw [pure_bind, hentry, if_pos hhash]
    exact ih (fun e he => himports e (List.mem_cons_of_mem _ he)) hs₁

/-- **A stored interface of the stock is found up to date.** -/
theorem leads_validate
    (hanswers : ∀ y, held.Lists target.name y → season.Answers held sure importer y)
    (hlocated : season.Located target) (hs : season.Stocked held s) (hheld : held target.name i) :
    (season.setup.validate importer target scope).Leads sure s fun r s' =>
      r = .ok i ∧ season.Stocked held s' := by
  obtain ⟨result, hrun, hresult⟩ := run_stored hs.calm.disk hs.alone hlocated
  rw [(hresult i).2 (hs.holds _ _ hheld)] at hrun
  have hlocal : i.localStaleness? target.name target.source.hash
      season.setup.settings.options.fingerprint = none := by
    obtain ⟨text, htext, hlocal⟩ := h.current hheld
    rw [hlocated.text?_eq] at htext
    rw [← Option.some.inj htext] at hlocal
    exact hlocal
  unfold Setup.validate
  refine .after hrun ?_
  dsimp only
  rw [hlocal]
  have himports : ∀ e ∈ i.imports, season.Answers held sure importer e.1 ∧
      ∃ j, held e.1 j ∧ j.fullHash = e.2 :=
    fun e he => ⟨hanswers e.1 ⟨i, hheld, e.2, he⟩, h.imports hheld e he⟩
  refine (leads_changedImport? himports hs).bind fun reason s₁ ⟨hnone, hs₁⟩ => ?_
  subst hnone
  exact .after rfl (.pure ⟨rfl, hs₁.keep h hheld⟩)

/-! ## Resolving -/

/-- **A module of the stock is settled with what is held for it.** -/
theorem leads_settleImport (hanswers : ∀ y, held.Lists x y → season.Answers held sure importer y)
    (hs : season.Stocked held s) (hheld : held x i) :
    (season.setup.settleImport importer scope x).Leads sure s fun entry s' =>
      season.Stocked held s' ∧ entry.interface = i ∧ entry.hasWarnings = false := by
  unfold Setup.settleImport
  refine .after rfl ?_
  cases hget : s.caches.visited.get? x with
  | some entry =>
    obtain ⟨hentry, hclean⟩ := hs.visited x entry hget
    exact .pure ⟨hs, h.unique hentry hheld, hclean⟩
  | none =>
    refine (h.leads_locate hs hheld).bind fun target s₁ ⟨hs₁, ⟨hname, _⟩, hlocated⟩ => ?_
    subst hname
    have hobtain : (season.setup.obtain importer scope target).Leads sure s₁ fun entry s' =>
        entry = ⟨i, false, target.isPrimitive⟩ ∧ season.Stocked held s' := by
      unfold Setup.obtain
      refine (h.leads_validate hanswers hlocated hs₁ hheld).bind fun r s₂ ⟨hok, hs₂⟩ => ?_
      subst hok
      exact .pure ⟨rfl, hs₂⟩
    refine hobtain.bind fun entry s₂ ⟨hentry, hs₂⟩ => ?_
    subst hentry
    exact .after rfl (.pure ⟨hs₂.settle hheld _, rfl, rfl⟩)

/-- One level of a resolution answers from the stock if the next one does. -/
theorem answers_resolveStep {next : Resolver} {stack : ImportStack}
    (hstack : sure → x ∉ stack.frames)
    (hanswers : ∀ pushed : ImportStack, pushed.frames = stack.frames ++ [x] →
      ∀ y, held.Lists x y → season.Answers held sure (next pushed) y) :
    season.Answers held sure (season.setup.resolveStep next stack) x := by
  intro scope s i hs hheld
  unfold Setup.resolveStep Setup.entering
  cases hpush : stack.push x with
  | error cycle =>
    have hunsure : ¬ sure := fun hsure =>
      absurd (ImportStack.push_eq_error_iff.1 hpush).1 (hstack hsure)
    exact .of_error rfl hunsure
  | ok pushed =>
    dsimp only
    refine (h.leads_settleImport (hanswers pushed (ImportStack.frames_of_push hpush)) hs
      hheld).bind fun entry s₁ ⟨hs₁, hentry, hclean⟩ => ?_
    have himportable : entry.importable = true := by
      unfold VisitedEntry.importable
      rw [hclean]
      rfl
    rw [if_pos himportable]
    exact .pure ⟨hs₁, hentry, hclean⟩

/-- **To any depth, what is resolved is answered from the stock**, if there is an answer. -/
theorem answers_resolve (depth : Nat) (stack : ImportStack) (x : ModuleName) :
    season.Answers held False (season.setup.resolve depth stack) x := by
  induction depth generalizing stack x with
  | zero => exact fun _ _ _ _ _ => ⟨ensures_exhausted, False.elim⟩
  | succ depth ih => exact h.answers_resolveStep False.elim fun pushed _ y _ => ih pushed y

/-- **To some depth there is an answer**, unless something that the module leads to is in
progress. -/
theorem answers_imports (x : ModuleName) (hx : ∃ i, held x i) :
    ∃ bound, ∀ depth, bound ≤ depth → ∀ stack : ImportStack,
      (∀ y, TransGen held.Lists x y → y ∉ stack.frames) → ∀ y, held.Lists x y →
        season.Answers held True (season.setup.resolve depth stack) y := by
  induction x using h.wellFounded.induction with
  | _ x ih =>
    obtain ⟨i, hheld⟩ := hx
    have heach : ∀ e ∈ i.imports, ∃ bound, ∀ depth, bound ≤ depth → ∀ stack : ImportStack,
        (∀ y, TransGen held.Lists x y → y ∉ stack.frames) →
          season.Answers held True (season.setup.resolve depth stack) e.1 := by
      intro e he
      have hlists : held.Lists x e.1 := ⟨i, hheld, e.2, he⟩
      obtain ⟨j, hj, -⟩ := h.imports hheld e he
      obtain ⟨bound, hbound⟩ := ih e.1 hlists ⟨j, hj⟩
      refine ⟨bound + 1, fun depth hdepth stack hstack => ?_⟩
      obtain ⟨depth, rfl⟩ : ∃ k, depth = k + 1 := ⟨depth - 1, by omega⟩
      refine h.answers_resolveStep (fun _ => hstack e.1 (.single hlists)) fun pushed hframes =>
        hbound depth (Nat.le_of_succ_le_succ hdepth) pushed fun y hy hframe => ?_
      rw [hframes] at hframe
      obtain hframe | hframe := List.mem_append.1 hframe
      · exact hstack y (.head hlists hy) hframe
      · -- The module would lead to itself.
        obtain rfl := List.mem_singleton.1 hframe
        exact h.wellFounded.transGen.irrefl.irrefl _ (transGen_swap.2 hy)
    obtain ⟨bound, hbound⟩ := exists_bound _ heach
    refine ⟨bound, fun depth hdepth stack hstack y hlists => ?_⟩
    obtain ⟨j, hj, hash, hmem⟩ := hlists
    obtain rfl := h.unique hj hheld
    exact hbound _ hmem depth hdepth stack hstack

/-! ## Entry modules -/

omit h in
/-- An interface of the stock is reused, unless what it leads to is in its way. -/
theorem leads_reuse (hagree : sure → ∀ y z j k, held y j → held z k → j.Agrees k)
    (warnings : List Diagnostic) (hs : season.Stocked held s) (hheld : held x i) :
    (Setup.reuse ∅ i warnings).Leads sure s fun r s' =>
      r.1 = ⟨i, warnings⟩ ∧ season.Stocked held s' := by
  unfold Setup.reuse
  refine .after rfl ?_
  dsimp only
  cases hmerge : (∅ : ImportedScope).mergeWithImports s.caches.visited i with
  | ok merged => exact .after rfl (.pure ⟨rfl, hs⟩)
  | error e =>
    refine .of_error rfl fun hsure => ?_
    have hagrees : ∀ j k, ImportedScope.LeadsTo s.caches.visited i j →
        ImportedScope.LeadsTo s.caches.visited i k → j.Agrees k := by
      intro j k hj hk
      obtain ⟨y, hy⟩ := hs.held_of_leadsTo hheld hj
      obtain ⟨z, hz⟩ := hs.held_of_leadsTo hheld hk
      exact hagree hsure y z j k hy hz
    obtain ⟨merged, hok⟩ := ImportedScope.mergeWithImports_eq_ok hagrees
    rw [hmerge] at hok
    contradiction

/-- **A load of a module of the stock gives what is held for it**, without warnings and without a
check. It is sure to if imports are and what is held agrees. -/
theorem leads_loadEntry (hanswers : ∀ y, held.Lists x y → season.Answers held sure importer y)
    (hagree : sure → ∀ y z j k, held y j → held z k → j.Agrees k) (hs : season.Stocked held s)
    (hheld : held x i) :
    (season.setup.loadEntry importer ∅ x .batch).Leads sure s fun r s' =>
      r.1 = ⟨i, []⟩ ∧ season.Stocked held s' := by
  unfold Setup.loadEntry
  refine .after rfl ?_
  cases hget : s.caches.visited.get? x with
  | some entry =>
    obtain rfl := h.unique hheld (hs.visited x entry hget).1
    have hnone : entry.interface.warnings = [] :=
      Interface.hasWarnings_eq_false_iff.1 (h.unwarned hheld)
    have hreuse := leads_reuse hagree entry.interface.warnings hs hheld
    simp only [hnone] at hreuse
    show (Setup.reuse ∅ entry.interface entry.interface.warnings).Leads sure s _
    rw [hnone]
    exact hreuse
  | none =>
    unfold Setup.loadTarget
    refine (h.leads_locate hs hheld).bind fun target s₁ ⟨hs₁, ⟨hname, _⟩, hlocated⟩ => ?_
    subst hname
    refine .after rfl ?_
    unfold Setup.validateEntry
    refine (h.leads_validate hanswers hlocated hs₁ hheld).bind fun r s₂ ⟨hok, hs₂⟩ => ?_
    subst hok
    exact .after rfl (leads_reuse hagree [] (hs₂.settle hheld _) hheld)

end Stock

/-! ## Sessions -/

/-- **A session from scratch that finds a stock reuses it.** What it loads is what is held, there are
no warnings, and no checker is called. It succeeds if what is held agrees. -/
theorem Stock.reused (h : season.Stock held) {d : Disk} (hd : d ∈ season.disks)
    (hholds : ∀ x i, held x i → season.setup.Holds d x i) (hheld : held x i) :
    (∀ loaded s w, season.Loads d x loaded s w → loaded = ⟨i, []⟩ ∧ w.checks = []) ∧
    ((∀ y z j k, held y j → held z k → j.Agrees k) → season.LoadsOn d x) := by
  have hs := Stocked.fresh hd hholds
  constructor
  · rintro loaded s w ⟨depth, hload⟩
    obtain ⟨stack, outcome, -, hrun, hresult, -⟩ := Session.loadWithin_eq_some rfl hload
    have hleads := (h.leads_loadEntry (fun y _ => h.answers_resolve depth stack y) False.elim hs
      hheld).1 _ _ hrun
    cases outcome with
    | error e => exact absurd hresult nofun
    | ok r =>
      obtain ⟨hloaded, hs'⟩ := hleads
      exact ⟨(Except.ok.inj hresult).symm.trans hloaded, hs'.checks⟩
  · intro hagree
    obtain ⟨bound, hbound⟩ := h.answers_imports x ⟨i, hheld⟩
    obtain ⟨stack, hpush, hframes⟩ : ∃ stack : ImportStack,
        (∅ : ImportStack).push x = .ok stack ∧ stack.frames = [x] := ⟨_, rfl, rfl⟩
    have hanswers := hbound bound (Nat.le_refl _) stack fun y hy hframe => by
      rw [hframes] at hframe
      obtain rfl := List.mem_singleton.1 hframe
      exact h.wellFounded.transGen.irrefl.irrefl _ (transGen_swap.2 hy)
    have hsucceeds := (h.leads_loadEntry hanswers (fun _ => hagree) hs hheld).2 True.intro
    obtain ⟨loaded, s, w, hload⟩ := Session.loadWithin_eq_ok (s := .start season.setup) hpush
      (hsucceeds.mono fun _ _ _ => True.intro)
    exact ⟨loaded, s, w, bound, hload⟩

end Season

end ModuleLoader
