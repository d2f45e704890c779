import Mathlib.Data.List.Chain
import ModuleLoader.Proofs.Check.Brings
import ModuleLoader.Proofs.Load.Maintained
import ModuleLoader.Proofs.Load.Steps
import ModuleLoader.Proofs.Scope.Merge

/-!
# The cycles that a load reports

A load reports a cycle of imports when a module is asked for that is in progress. Each module that is
in progress was asked for by the one below it on the stack, and so the part of the stack that is
reported is a cycle if there was always a good reason to ask.

There are two reasons: a check asks for what its module imports, and validating a stored interface
asks for what the interface records. Both are put down here to a relation between modules, the *links*
(`Setup.Contract.Linked`). What is asked for then continues a chain of links
(`Setup.Contract.reports_resolve`), and whatever cycle a load reports is one of links
(`Session.follows_of_loadWithin`). A check that is refused an import may pass the error on, or stop
for another reason; it is only not to make up a cycle of its own.
-/

namespace ModuleLoader

open Load

/-! ## Chains and cycles -/

/-- **A cycle follows links**: they lead from each module to the next one, and from the last one back
to the first, and no module occurs twice on the way. -/
def ImportCycle.Follows (links : ModuleName → ModuleName → Prop) (c : ImportCycle) : Prop :=
  ∃ first rest, c.chain = first :: rest ++ [first] ∧ (first :: rest).Nodup ∧ c.chain.IsChain links

/-- **The cycle that a stack closes follows links** if the stack does, and the module asked for. -/
theorem ImportStack.follows_cycleAt {links : ModuleName → ModuleName → Prop} {s : ImportStack}
    {module : ModuleName} (hchain : (s.frames ++ [module]).IsChain links)
    (hmem : module ∈ s.frames) : (s.cycleAt module).Follows links := by
  obtain ⟨before, after, hframes, hbefore⟩ := List.eq_append_cons_of_mem hmem
  have hdrop : s.frames.dropWhile (· ≠ module) = module :: after := by
    rw [hframes, List.dropWhile_append_of_pos, List.dropWhile_cons_of_neg (by simp)]
    intro a ha
    simpa using fun h : a = module => hbefore (h ▸ ha)
  have hclosed : (s.cycleAt module).chain = module :: after ++ [module] := by
    show s.frames.dropWhile (· ≠ module) ++ [module] = _
    rw [hdrop]
  refine ⟨module, after, hclosed, ?_, ?_⟩
  · have hnodup := s.nodup
    rw [hframes] at hnodup
    exact (List.nodup_append.1 hnodup).2.1
  · rw [hframes, List.append_assoc] at hchain
    rw [hclosed]
    exact (List.isChain_append.1 hchain).2.1

/-! ## Loads that report cycles -/

namespace Load

variable {α β : Type} {real : ImportCycle → Prop} {load : Load α} {s s' : LoadState}

/-- **The cycles that a load reports are real**: if it fails with a cycle, something holds of it. -/
def Reports (real : ImportCycle → Prop) (load : Load α) (s : LoadState) : Prop :=
  load.Ensures s (fun _ _ => True) fun e _ => ∀ cycle, e = .importCycle cycle → real cycle

namespace Reports

/-- A load that plainly has a result. -/
theorem of_ok {a : α} (hrun : load.run.run s = some (.ok a, s')) : load.Reports real s :=
  .of_run hrun trivial

/-- A load that plainly fails, for another reason. -/
theorem of_error {e : LoadError} (hrun : load.run.run s = some (.error e, s'))
    (h : ∀ cycle, e ≠ .importCycle cycle) : load.Reports real s := by
  intro r s'' hrun'
  rw [hrun] at hrun'
  obtain ⟨rfl, rfl⟩ := Prod.mk.inj (Option.some.inj hrun')
  exact fun cycle heq => absurd heq (h cycle)

theorem pure {a : α} : (pure a : Load α).Reports real s := of_ok rfl

theorem throw {e : LoadError} (h : ∀ cycle, e ≠ .importCycle cycle) :
    (throw e : Load α).Reports real s :=
  of_error rfl h

/-- One load after another. -/
theorem bind {inv : LoadState → Prop} {frames : List ModuleName} {ok : α → LoadState → Prop}
    {next : α → Load β} (h : load.Maintains inv frames s ok) (hload : load.Reports real s)
    (hnext : ∀ a s', inv s' → ok a s' → (next a).Reports real s') :
    (load >>= next).Reports real s :=
  ensures_bind.2 <| (Ensures.and h hload).mono
    (fun a s' ⟨⟨hinv, _, ha⟩, _⟩ => hnext a s' hinv ha) fun _ _ ⟨_, hcycle⟩ => hcycle

/-- One step after another, whatever is in progress. -/
theorem step {inv : LoadState → Prop} {ok : α → LoadState → Prop} {next : α → Load β}
    (h : load.Maintains inv [] s ok) (hload : load.Reports real s)
    (hnext : ∀ a s', inv s' → ok a s' → (next a).Reports real s') :
    (load >>= next).Reports real s :=
  bind h hload hnext

/-- A load whose result is plain to see, and another one after it. -/
theorem after {next : α → Load β} {a : α} (hrun : load.run.run s = some (.ok a, s'))
    (h : (next a).Reports real s') : (load >>= next).Reports real s :=
  Ensures.after hrun h

end Reports

end Load

/-- **A way of importing reports real cycles**, asked for certain modules. -/
def Importer.Reports (inv : LoadState → Prop) (real : ImportCycle → Prop)
    (asked : ModuleName → Prop) (importer : Importer) : Prop :=
  ∀ scope x s, asked x → inv s → (importer scope x).Reports real s

/-! ## Steps that report no cycle -/

namespace Setup

variable {setup : Setup} {real : ImportCycle → Prop} {s : LoadState} {module : ModuleName}
  {target : Target} {i : Interface}

/-- A module that cannot be located is no cycle, as far as the finder knows. -/
theorem reports_locate (hfinder : ∀ d cycle, setup.finder module d ≠ .error (.importCycle cycle)) :
    (setup.locate module).Reports real s := by
  intro r s' hrun
  cases locates_of_run hrun with
  | missing hfound =>
    rintro cycle rfl
    exact absurd hfound (hfinder _ cycle)
  | unreadable _ _ => exact fun _ => nofun
  | located _ _ => exact True.intro

theorem reports_refresh : (Setup.refresh target).Reports real s := by
  intro r s' hrun
  cases refreshes_of_run hrun with
  | unreadable _ => exact fun _ => nofun
  | refreshed _ => exact True.intro

/-- Reading what is stored never fails. -/
theorem reports_stored : (setup.stored target).Reports real s := by
  intro r s' hrun
  cases looksUp_of_run hrun <;> exact True.intro

theorem reports_persist : (setup.persist target i).Reports real s := by
  intro r s' hrun
  cases persists_of_run hrun with
  | written _ => exact True.intro
  | failed _ => exact fun _ => nofun

/-- Settling an entry module never fails. -/
theorem exists_run_settleEntry (mode : CheckMode) (module : ModuleName) (entry : VisitedEntry)
    (s : LoadState) : ∃ s', (settleEntry mode module entry).run.run s = some (.ok (), s') := by
  unfold settleEntry
  split <;> exact ⟨_, rfl⟩

namespace Contract

/-! ## Links -/

/-- **Whatever is asked for is linked** to the module that it is asked for by: what checks import, and
what stored interfaces record that pass for up to date. -/
structure Linked {inv : LoadState → Prop} (c : setup.Contract inv)
    (links : ModuleName → ModuleName → Prop) : Prop where
  /-- What is linked may be asked for. -/
  wanted {module x : ModuleName} : links module x → c.rule.wanted x
  /-- Looking for a module finds no cycle. -/
  finder (module : ModuleName) (d : Disk) (cycle : ImportCycle) :
    setup.finder module d ≠ .error (.importCycle cycle)
  /-- Checks bring in what is linked. -/
  brings {target : Target} (mode : CheckMode) : c.located target → ∃ permitted imports,
    (∀ x, imports x → links target.name x) ∧
      (setup.checker target.name target.source mode).Brings imports permitted [] []
  /-- Stored interfaces that pass for up to date record what is linked. -/
  recorded {visited : VisitedCache} {target : Target} {i : Interface} : c.located target →
    c.stored visited target i →
    i.localStaleness? target.name target.source.hash setup.settings.options.fingerprint = none →
    ∀ e ∈ i.imports, links target.name e.1

variable {inv : LoadState → Prop} {frames : List ModuleName} {importer : Importer}

/-- Comparing recorded imports asks for nothing else. -/
theorem reports_changedImport? {wanted asked : ModuleName → Prop}
    (himporter : importer.Maintains inv wanted frames) (hreports : importer.Reports inv real asked)
    (scope : ImportedScope) {imports : List (ModuleName × Digest)}
    (hwanted : ∀ e ∈ imports, wanted e.1) (hasked : ∀ e ∈ imports, asked e.1) (hs : inv s) :
    (Interface.changedImport? (currentHash importer scope) imports).Reports real s := by
  induction imports generalizing s with
  | nil => exact .pure
  | cons e rest ih =>
    obtain ⟨module, recorded⟩ := e
    unfold Interface.changedImport? currentHash
    rw [bind_assoc]
    refine .bind (himporter scope module s (hwanted _ List.mem_cons_self) hs)
      (hreports scope module s (hasked _ List.mem_cons_self) hs) fun entry s₁ hs₁ _ => ?_
    rw [pure_bind]
    split
    · exact ih (fun e he => hwanted e (List.mem_cons_of_mem _ he))
        (fun e he => hasked e (List.mem_cons_of_mem _ he)) hs₁
    · exact .pure

/-- **What a check is told of a refused import** is a real cycle or no cycle. -/
theorem ensures_importInto {asked : ModuleName → Prop} (hreports : importer.Reports inv real asked)
    (context : CheckContext) {x : ModuleName} (hasked : asked x) (hs : inv s) :
    (setup.importInto importer context x).Ensures s
      (fun r _ => ∀ e, r.1 = .error e → ∀ cycle, e = .importCycle cycle → real cycle)
      fun e _ => ∀ cycle, e = .importCycle cycle → real cycle := by
  unfold Setup.importInto
  refine ensures_bind.2 (ensures_outcome.2
    ((hreports context.scope x s hasked hs).mono (fun entry s₁ _ => ?_) fun e s₁ hcycle => ?_))
  · dsimp only
    split
    · rename_i e hadd
      refine ensures_pure.2 fun e' he cycle hcycle => ?_
      obtain rfl : e = e' := Except.error.inj he
      obtain ⟨_, _, _, heq⟩ := ImportedScope.merge_eq_error (CheckContext.addImport_eq_error hadd)
      rw [heq] at hcycle
      contradiction
    · exact ensures_pure.2 nofun
  · refine ensures_pure.2 fun e' he => ?_
    rw [← Except.error.inj he]
    exact hcycle

variable (c : setup.Contract inv)

include c

/-- **A check reports no other cycles than it was told of**, if everything that it brings in may be
asked for. -/
theorem reports_run {α : Type} {imports : ModuleName → Prop}
    {permitted : (Disk → Except DiskFault Disk) → Prop} {granted : List ModuleName}
    {refusals : List LoadError} {check : Check α}
    (hbrings : check.Brings imports permitted granted refusals) (habides : check.Abides c.rule)
    (himporter : importer.Maintains inv c.rule.wanted frames)
    (hreports : importer.Reports inv real imports)
    (hrefusals : ∀ e ∈ refusals, ∀ cycle, e = .importCycle cycle → real cycle)
    (context : CheckContext) (hs : inv s) :
    (setup.run importer context check).Reports real s := by
  induction hbrings generalizing context s with
  | done result _ => exact .pure
  | fail hknown => exact ensures_throw.2 fun cycle h => hrefusals _ (hknown cycle h) cycle h
  | resolve himports _ _ ihok iherror =>
    cases habides with
    | resolve hwanted hok herror =>
      unfold Setup.run
      refine ensures_bind.2 (((importInto himporter context hwanted hs).and
        (ensures_importInto hreports context himports hs)).mono
          (fun r s₁ h => ?_) fun _ _ h => h.2)
      obtain ⟨⟨hs₁, _, hr⟩, htold⟩ := h
      obtain ⟨e, rfl⟩ | ⟨entry, context', hknows, -, rfl⟩ := hr
      · refine iherror e (herror e) (fun e' he' => ?_) context hs₁
        obtain rfl | he' := List.mem_cons.1 he'
        · exact htold e' rfl
        · exact hrefusals e' he'
      · exact ihok entry.interface (hok _ (c.grant hs₁ hknows)) hrefusals context' hs₁
  | context _ ih =>
    cases habides with
    | context hnext => exact ih context (hnext context) hrefusals context hs
  | @setOptions _ _ options _ _ ih =>
    cases habides with
    | setOptions hnext => exact ih hnext hrefusals { context with options } hs
  | @warn _ _ warning _ _ ih =>
    cases habides with
    | warn hnext =>
      exact ih hnext hrefusals { context with warnings := context.warnings ++ [warning] } hs
  | @read _ _ path _ _ ih =>
    cases habides with
    | read hnext =>
      have hread : (setup.answer importer context (.read path)).run.run s
          = some (.ok (s.nextDisk.read path, context), s.access) := rfl
      exact .after hread
        (ih (s.nextDisk.read path) (hnext (s.nextDisk.read path)) hrefusals context (c.access hs))
  | @edit _ _ change next _ _ ih =>
    cases habides with
    | edit hpermitted hnext =>
      unfold Setup.run
      have hedit : (setup.answer importer context (.edit change)).Maintains inv frames s
          fun r _ => r.2 = context :=
        (c.edit hs hpermitted).bind fun reply s₁ hs₁ _ _ => Maintains.pure hs₁ rfl
      refine .bind hedit (.step (c.edit hs hpermitted) ?_ fun _ _ _ _ => .pure)
        fun r s₁ hs₁ hr => ?_
      · intro r s' hrun
        cases edits_of_run hrun <;> exact True.intro
      · obtain ⟨reply, context'⟩ := r
        obtain rfl : context' = context := hr
        exact ih reply (hnext reply) hrefusals context' hs₁
  | @note _ _ text _ _ ih =>
    cases habides with
    | note hnext => exact ih hnext hrefusals context (c.record (.note text) hs)

variable {links : ModuleName → ModuleName → Prop} (hlinked : c.Linked links)

include hlinked

/-! ## From one module to the next -/

/-- Validating a target asks for what the stored interface records. -/
theorem reports_validate (himporter : importer.Maintains inv c.rule.wanted frames)
    {target : Target} (hreports : importer.Reports inv real (links target.name))
    (hlocated : c.located target) (scope : ImportedScope) (hs : inv s) :
    (setup.validate importer target scope).Reports real s := by
  unfold Setup.validate
  refine .step (c.read hs hlocated) reports_stored fun r s₁ hs₁ hstored => ?_
  cases r with
  | error reason => exact .pure
  | ok i =>
    dsimp only
    split
    · exact .pure
    · rename_i hlocal
      have hwanted := c.recorded (hstored i rfl)
      refine .bind (changedImport? himporter scope hwanted hs₁)
        (reports_changedImport? himporter hreports scope hwanted
          (hlinked.recorded hlocated (hstored i rfl) hlocal) hs₁) fun reason s₂ _ _ => ?_
      cases reason with
      | some reason => exact .pure
      | none => exact .after rfl .pure

/-- Building a target asks for what its check brings in. -/
theorem reports_build (himporter : importer.Maintains inv c.rule.wanted frames)
    {target : Target} (hreports : importer.Reports inv real (links target.name))
    (hlocated : c.located target) (mode : CheckMode) (scope : ImportedScope) (hs : inv s) :
    (setup.build importer target mode scope).Reports real s := by
  obtain ⟨permitted, imports, hlinks, hbrings⟩ := hlinked.brings mode hlocated
  have habides := c.abides mode hlocated
  have hs₁ : inv (s.record (.checking target.name mode)) := c.record _ hs
  unfold Setup.build
  refine .after rfl (.bind (c.run himporter habides _ hs₁)
    (c.reports_run hbrings habides himporter (fun scope x s hx => hreports scope x s (hlinks x hx))
      nofun _ hs₁) fun r s₂ _ _ => ?_)
  obtain ⟨checked, context⟩ := r
  dsimp only
  split
  · cases hsealed : (setup.interfaceOf target checked context).sealed setup.codec with
    | error e => exact .of_error rfl fun _ => nofun
    | ok i =>
      refine .after rfl ?_
      split
      · exact ensures_bind.2 (Ensures.mono reports_persist (fun _ _ _ => ensures_pure.2 trivial)
          fun _ _ h => h)
      · exact .pure
  · exact .throw fun _ => nofun

/-- Rebuilding a target asks for nothing else. -/
theorem reports_rebuild (himporter : importer.Maintains inv c.rule.wanted frames)
    (scope : ImportedScope) (left : Nat) {target : Target}
    (hreports : importer.Reports inv real (links target.name))
    (hprimitive : target.isPrimitive = setup.settings.isPrimitive target.name)
    (hlocated : c.located target) (hs : inv s) :
    (setup.rebuild importer scope left target).Reports real s := by
  induction left generalizing target s with
  | zero => exact .throw fun _ => nofun
  | succ left ih =>
    unfold Setup.rebuild
    refine .bind (c.build_comesOf himporter hlocated hprimitive .batch scope hs)
      (c.reports_build hlinked himporter hreports hlocated .batch scope hs) fun built s₁ hs₁ _ => ?_
    split
    · refine .step (c.refresh hs₁ hlocated) reports_refresh fun target' s₂ hs₂ htarget => ?_
      obtain ⟨htarget', hlocated'⟩ := htarget
      obtain ⟨hname', hprimitive'⟩ := htarget' target.name ⟨rfl, hprimitive⟩
      rw [← hname'] at hreports hprimitive'
      refine .bind (c.validate himporter hlocated' hprimitive' scope hs₂)
        (c.reports_validate hlinked himporter hreports hlocated' scope hs₂) fun r s₃ hs₃ _ => ?_
      cases r with
      | ok i => exact .pure
      | error reason => exact ih hreports hprimitive' hlocated' hs₃
    · exact .pure

/-- Obtaining the interface of a target asks for nothing else. -/
theorem reports_obtain (himporter : importer.Maintains inv c.rule.wanted frames)
    {target : Target} (hreports : importer.Reports inv real (links target.name))
    (hprimitive : target.isPrimitive = setup.settings.isPrimitive target.name)
    (hlocated : c.located target) (scope : ImportedScope) (hs : inv s) :
    (setup.obtain importer scope target).Reports real s := by
  unfold Setup.obtain
  refine .bind (c.validate himporter hlocated hprimitive scope hs)
    (c.reports_validate hlinked himporter hreports hlocated scope hs) fun r s₁ hs₁ _ => ?_
  cases r with
  | ok i => exact .pure
  | error reason =>
    exact .bind (c.rebuild himporter scope target.name setup.attempts ⟨rfl, hprimitive⟩ hlocated hs₁)
      (c.reports_rebuild hlinked himporter scope setup.attempts hreports hprimitive hlocated hs₁)
      fun _ _ _ _ => .pure

/-- Settling a module asks for what is linked to it. -/
theorem reports_settleImport (himporter : importer.Maintains inv c.rule.wanted frames)
    (hreports : importer.Reports inv real (links module)) (hwanted : c.rule.wanted module)
    (scope : ImportedScope) (hs : inv s) :
    (setup.settleImport importer scope module).Reports real s := by
  unfold Setup.settleImport
  refine .after rfl ?_
  cases hvisited : s.caches.visited.get? module with
  | some entry => exact .pure
  | none =>
    refine .step (c.locate hs hwanted) (reports_locate (hlinked.finder module))
      fun target s₁ hs₁ ⟨htarget, hlocated⟩ => ?_
    obtain ⟨rfl, hprimitive⟩ := htarget
    exact .bind (c.obtain himporter ⟨rfl, hprimitive⟩ hlocated scope hs₁)
      (c.reports_obtain hlinked himporter hreports hprimitive hlocated scope hs₁)
      fun _ _ _ _ => .of_ok rfl

/-- **Resolving an import reports real cycles**: if links lead along the stack to the module that is
asked for, a cycle that is reported follows links. -/
theorem reports_resolve (depth : Nat) (stack : ImportStack) (scope : ImportedScope)
    (hchain : (stack.frames ++ [module]).IsChain links) (hwanted : c.rule.wanted module)
    (hs : inv s) : (setup.resolve depth stack scope module).Reports (·.Follows links) s := by
  induction depth generalizing stack scope module s with
  | zero => exact ensures_exhausted
  | succ depth ih =>
    show (setup.resolveStep (setup.resolve depth) stack scope module).Reports _ s
    unfold Setup.resolveStep entering
    cases hpush : stack.push module with
    | error cycle =>
      obtain ⟨hmem, rfl⟩ := ImportStack.push_eq_error_iff.1 hpush
      refine Ensures.of_failure rfl ?_
      rintro _ ⟨⟩
      exact ImportStack.follows_cycleAt hchain hmem
    | ok pushed =>
      have hframes := ImportStack.frames_of_push hpush
      have hreports : (setup.resolve depth pushed).Reports inv (·.Follows links) (links module) := by
        intro scope x s hlink hs
        refine ih pushed scope ?_ (hlinked.wanted hlink) hs
        rw [hframes]
        refine List.isChain_append.2 ⟨hchain, List.isChain_singleton x, ?_⟩
        simpa using hlink
      have hnew := ImportStack.notMem_of_push hpush
      refine .bind (c.settleImport (c.resolve depth pushed) (hframes ▸ List.subset_append_left _ _)
        (hframes ▸ List.mem_append_right _ (List.mem_singleton_self _)) hnew hwanted scope hs)
        (c.reports_settleImport hlinked (c.resolve depth pushed) hreports hwanted scope hs)
        fun entry s₁ _ _ => ?_
      split
      · exact .pure
      · exact .throw fun _ => nofun

/-! ## Entry modules -/

omit c hlinked in
/-- The end of a load with an interface that is reused reports no cycle. -/
theorem reports_reuse (scope : ImportedScope) (i : Interface) (warnings : List Diagnostic) :
    (Setup.reuse scope i warnings).Reports real s := by
  unfold Setup.reuse
  refine .after rfl ?_
  dsimp only
  cases hmerge : scope.mergeWithImports s.caches.visited i with
  | error e =>
    obtain ⟨_, _, _, _, rfl⟩ := ImportedScope.mergeWithImports_eq_error hmerge
    exact .of_error rfl fun _ => nofun
  | ok scope => exact .pure

/-- Checking an entry module in place asks for what its check brings in. -/
theorem reports_buildEntry (himporter : importer.Maintains inv c.rule.wanted frames)
    {target : Target} (hreports : importer.Reports inv real (links target.name))
    (hprimitive : target.isPrimitive = setup.settings.isPrimitive target.name)
    (hlocated : c.located target) (mode : CheckMode) (scope : ImportedScope) (hs : inv s) :
    (setup.buildEntry importer target mode scope).Reports real s := by
  unfold Setup.buildEntry
  refine .bind (c.build_comesOf himporter hlocated hprimitive mode scope hs)
    (c.reports_build hlinked himporter hreports hlocated mode scope hs) fun built s₁ _ _ => ?_
  obtain ⟨s₂, hsettle⟩ := exists_run_settleEntry mode target.name
    ⟨built.interface, built.interface.hasWarnings, target.isPrimitive⟩ s₁
  refine .after hsettle ?_
  cases hmerge : built.scope.merge built.interface with
  | error e =>
    obtain ⟨_, _, _, rfl⟩ := ImportedScope.merge_eq_error hmerge
    exact .of_error rfl fun _ => nofun
  | ok scope => exact .pure

/-- **Loading an entry module reports real cycles.** -/
theorem reports_loadEntry (himporter : importer.Maintains inv c.rule.wanted frames)
    (hreports : importer.Reports inv real (links module)) (hwanted : c.rule.wanted module)
    (scope : ImportedScope) (mode : CheckMode) (hs : inv s) :
    (setup.loadEntry importer scope module mode).Reports real s := by
  unfold Setup.loadEntry
  refine .after rfl ?_
  split
  · exact reports_reuse _ _ _
  · have hlocate : (setup.locate module >>= refreshFor mode).Reports real s := by
      refine .step (c.locate hs hwanted)
        (reports_locate (hlinked.finder module)) fun target s₁ _ _ => ?_
      unfold refreshFor
      split
      · exact .pure
      · exact reports_refresh
    unfold Setup.loadTarget
    rw [← bind_assoc]
    refine .bind (c.locateFor frames hwanted mode hs) hlocate
      fun target s₁ hs₁ ⟨htarget, hlocated⟩ => ?_
    obtain ⟨rfl, hprimitive⟩ := htarget
    split
    · exact c.reports_buildEntry hlinked himporter hreports hprimitive hlocated mode scope hs₁
    · unfold Setup.validateEntry
      refine .bind (c.validate himporter hlocated hprimitive scope hs₁)
        (c.reports_validate hlinked himporter hreports hlocated scope hs₁) fun r s₂ hs₂ _ => ?_
      cases r with
      | ok i =>
        obtain ⟨s₃, hsettle⟩ :=
          exists_run_settleEntry mode target.name ⟨i, false, target.isPrimitive⟩ s₂
        exact .after hsettle (reports_reuse _ _ _)
      | error reason =>
        exact c.reports_buildEntry hlinked himporter hreports hprimitive hlocated mode scope hs₂

end Contract

end Setup

namespace Session

/-- **The cycles that a load of a session reports follow links**, if everything that is asked for is
linked to the module that asks. -/
theorem follows_of_loadWithin {s s' : Session} {setup : Setup} {inv : LoadState → Prop}
    (hsetup : s.setup = setup) (c : setup.Contract inv) {links : ModuleName → ModuleName → Prop}
    (hlinked : c.Linked links) (hstack : s.stack = ∅) {depth : Nat} {module : ModuleName}
    (hwanted : c.rule.wanted module) {mode : CheckMode} {world world' : World}
    (hinv : inv ⟨s.caches, world⟩) {cycle : ImportCycle}
    (hload : s.loadWithin depth module mode world = some (.error (.importCycle cycle), s', world')) :
    cycle.Follows links := by
  subst hsetup
  obtain ⟨stack, outcome, hframes, hrun, houtcome, -⟩ := loadWithin_eq_some hstack hload
  have hreports : (s.setup.resolve depth stack).Reports inv (·.Follows links) (links module) := by
    intro scope x t hlink ht
    refine c.reports_resolve hlinked depth stack scope ?_ (hlinked.wanted hlink) ht
    rw [hframes]
    exact List.isChain_pair.2 hlink
  have hentry := c.reports_loadEntry hlinked (c.resolve depth stack) hreports hwanted
    (s.scope.forget module) mode hinv _ _ hrun
  cases outcome with
  | ok p => contradiction
  | error e => exact hentry cycle (Except.error.inj houtcome)

end Session

end ModuleLoader
