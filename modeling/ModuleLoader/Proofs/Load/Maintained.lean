import ModuleLoader.Proofs.Load.Contract

/-!
# Every load maintains what its steps do

From a contract for the steps of a load (`Setup.Contract`) to the load as a whole. The way there
follows the definition of a load: each function maintains the invariant if the way of importing that
it is given does, and the recursion on the depth of a load (`Setup.Contract.resolve`) then provides
the way of importing. A module on its way through these functions is in progress, so nothing else
settles it; that is why its entry can be recorded in the end, and why whoever asked for it finds it.
-/

namespace ModuleLoader

open Load

/-! ## The imports that an interface records -/

namespace LoadState

/-- **Recorded imports are current**: each is known with the digest recorded for it. -/
def Current (s : LoadState) (imports : List (ModuleName × Digest)) : Prop :=
  ∀ e ∈ imports, ∃ entry, s.Knows e.1 entry ∧ entry.interface.fullHash = e.2

/-- **One of some recorded imports has changed**, and those before it are current. -/
def Changed (s : LoadState) (imports : List (ModuleName × Digest)) : Prop :=
  ∃ before e after entry, imports = before ++ e :: after ∧ s.Current before ∧
    s.Knows e.1 entry ∧ entry.interface.fullHash ≠ e.2

variable {frames : List ModuleName} {s s' : LoadState} {imports : List (ModuleName × Digest)}

theorem Current.cons {e : ModuleName × Digest} {entry : VisitedEntry} (hknows : s.Knows e.1 entry)
    (hhash : entry.interface.fullHash = e.2) (h : s.Current imports) :
    s.Current (e :: imports) := by
  intro e' he'
  obtain rfl | he' := List.mem_cons.1 he'
  · exact ⟨entry, hknows, hhash⟩
  · exact h e' he'

end LoadState

namespace Setup

/-- The full digest that an import has now. -/
def currentHash (importer : Importer) (scope : ImportedScope) (imported : ModuleName) :
    Load Digest :=
  return (← importer scope imported).interface.fullHash

/-- **Something was built from a check of a target**: the check has gone some way through its
requests, with everything that it imported known, and what it led to was sealed. -/
def ComesOf (setup : Setup) (target : Target) (mode : CheckMode) (scope : ImportedScope)
    (s : LoadState) (built : Built) : Prop :=
  ∃ checked context, (setup.checker target.name target.source mode).Went setup.compatibility s.Knows
      (.start setup.settings.options scope) checked context ∧ checked.name = target.name ∧
    (setup.interfaceOf target checked context).sealed setup.codec = .ok built.interface ∧
    context.scope = built.scope

/-- What was built goes on coming of its check when more is settled. -/
theorem ComesOf.mono {setup : Setup} {target : Target} {mode : CheckMode} {scope : ImportedScope}
    {frames : List ModuleName} {s s' : LoadState} {built : Built}
    (h : setup.ComesOf target mode scope s built) (hext : LoadState.Extends frames s s') :
    setup.ComesOf target mode scope s' built := by
  obtain ⟨checked, context, hwent, hrest⟩ := h
  exact ⟨checked, context, hwent.mono fun _ _ => hext.knows, hrest⟩

/-- **How the load of an entry module has ended**, with what it gives and the scope then. -/
inductive Ending (setup : Setup) (located : Target → Prop)
    (fit : VisitedCache → ModuleName → VisitedEntry → Prop) (scope : ImportedScope)
    (module : ModuleName) (mode : CheckMode) (s : LoadState) : Loaded → ImportedScope → Prop where
  /-- It was answered from memory. -/
  | recalled {entry : VisitedEntry} {merged : ImportedScope} :
      s.caches.visited.get? module = some entry →
      scope.mergeWithImports s.caches.visited entry.interface = .ok merged →
      Ending setup located fit scope module mode s ⟨entry.interface, entry.interface.warnings⟩ merged
  /-- A stored interface was reused, which had fitted before the module was settled. -/
  | reused {earlier : LoadState} {i : Interface} {merged : ImportedScope} :
      earlier.caches.visited.get? module = none →
      fit earlier.caches.visited module ⟨i, false, setup.settings.isPrimitive module⟩ →
      LoadState.Extends [] earlier s →
      scope.mergeWithImports s.caches.visited i = .ok merged →
      Ending setup located fit scope module mode s ⟨i, []⟩ merged
  /-- The module was checked in place. -/
  | built {earlier : LoadState} {target : Target} {built : Built} {merged : ImportedScope} :
      setup.IsTarget module target → located target → setup.ComesOf target mode scope earlier built →
      LoadState.Extends [] earlier s → built.scope.merge built.interface = .ok merged →
      Ending setup located fit scope module mode s ⟨built.interface, built.interface.warnings⟩ merged

/-- **The warnings that a load gives are those of the interface that it gives**, if what fits without
warnings has none. -/
theorem Ending.warnings_eq {setup : Setup} {located : Target → Prop}
    {fit : VisitedCache → ModuleName → VisitedEntry → Prop} {scope merged : ImportedScope}
    {module : ModuleName} {mode : CheckMode} {s : LoadState} {loaded : Loaded}
    (hfit : ∀ c m i isPrimitive, fit c m ⟨i, false, isPrimitive⟩ →
      i.hasWarnings = false)
    (h : setup.Ending located fit scope module mode s loaded merged) :
    loaded.warnings = loaded.interface.warnings := by
  cases h with
  | recalled _ _ => rfl
  | reused _ hreused _ _ =>
    -- What is reused has no warnings to be given.
    exact (Interface.hasWarnings_eq_false_iff.1 (hfit _ _ _ _ hreused)).symm
  | built _ _ _ _ _ => rfl

namespace Contract

variable {setup : Setup} {inv : LoadState → Prop} {frames : List ModuleName}
  {importer : Importer} {s : LoadState}

/-- **Recorded imports are compared**: they are all current, or one of them has changed. -/
theorem changedImport? {wanted : ModuleName → Prop}
    (himporter : importer.Maintains inv wanted frames) (scope : ImportedScope)
    {imports : List (ModuleName × Digest)} (hwanted : ∀ e ∈ imports, wanted e.1) (hs : inv s) :
    (Interface.changedImport? (currentHash importer scope) imports).Maintains inv frames s
      fun reason s' => (reason = none → s'.Current imports) ∧
        (reason ≠ none → s'.Changed imports) := by
  induction imports generalizing s with
  | nil => exact Maintains.pure hs ⟨fun _ => nofun, fun h => absurd rfl h⟩
  | cons e rest ih =>
    obtain ⟨module, recorded⟩ := e
    unfold Interface.changedImport? currentHash
    rw [bind_assoc]
    refine (himporter scope module s (hwanted _ List.mem_cons_self) hs).bind
      fun entry s₁ hs₁ _ hknows => ?_
    rw [pure_bind]
    split
    · rename_i hhash
      refine (ih (fun e he => hwanted e (List.mem_cons_of_mem _ he)) hs₁).mono
        fun reason s₂ _ hext ⟨hcurrent, hchanged⟩ => ⟨fun hnone => ?_, ?_⟩
      · exact LoadState.Current.cons (hext.knows hknows) hhash (hcurrent hnone)
      · intro hsome
        obtain ⟨before, e, after, entry', rfl, hbefore, hknows', hne⟩ := hchanged hsome
        exact ⟨(module, recorded) :: before, e, after, entry', rfl,
          LoadState.Current.cons (hext.knows hknows) hhash hbefore, hknows', hne⟩
    · rename_i hhash
      exact Maintains.pure hs₁
        ⟨nofun, fun _ => ⟨[], (module, recorded), rest, entry, rfl, nofun, hknows, hhash⟩⟩

/-! ## Checking -/

/-- An import into a context: what is imported is known. -/
theorem importInto {wanted : ModuleName → Prop}
    (himporter : importer.Maintains inv wanted frames) (context : CheckContext)
    {imported : ModuleName} (hwanted : wanted imported) (hs : inv s) :
    (setup.importInto importer context imported).Maintains inv frames s fun r s' =>
      (∃ e, r = (.error e, context)) ∨
      ∃ entry context', s'.Knows imported entry ∧
        context.addImport setup.compatibility imported entry = .ok context' ∧
        r = (.ok entry.interface, context') := by
  unfold Setup.importInto
  refine (himporter context.scope imported s hwanted hs).outcome.bind fun r s₁ hs₁ _ hr => ?_
  cases r with
  | error e => exact Maintains.pure hs₁ (.inl ⟨e, rfl⟩)
  | ok entry =>
    dsimp only
    split
    · exact Maintains.pure hs₁ (.inl ⟨_, rfl⟩)
    · rename_i context' hadd
      exact Maintains.pure hs₁ (.inr ⟨entry, context', hr entry rfl, hadd, rfl⟩)

variable (c : setup.Contract inv)

include c

/-- **The run of a check goes some way** through its requests, and what it imported is known. -/
theorem run {α : Type} (himporter : importer.Maintains inv c.rule.wanted frames) {check : Check α}
    (habides : check.Abides c.rule) (context : CheckContext) (hs : inv s) :
    (setup.run importer context check).Maintains inv frames s fun r s' =>
      check.Went setup.compatibility s'.Knows context r.1 r.2 := by
  induction habides generalizing context s with
  | done result => exact Maintains.pure hs (.done result context)
  | fail e => exact Maintains.throw hs
  | resolve hwanted _ _ ihok iherror =>
    unfold Setup.run
    refine (importInto himporter context hwanted hs).bind fun r s₁ hs₁ _ hr => ?_
    obtain ⟨e, rfl⟩ | ⟨entry, context', hknows, hadd, rfl⟩ := hr
    · exact (iherror e context hs₁).mono fun r s₂ _ _ hwent => .refused e hwent
    · exact (ihok entry.interface (c.grant hs₁ hknows) context' hs₁).mono
        fun r s₂ _ hext hwent => .imported (hext.knows hknows) hadd hwent
  | context _ ih => exact (ih context context hs).mono fun r s₂ _ _ hwent => .context hwent
  | @setOptions options _ _ ih =>
    exact (ih { context with options } hs).mono fun r s₂ _ _ hwent => .setOptions hwent
  | @warn warning _ _ ih =>
    exact (ih { context with warnings := context.warnings ++ [warning] } hs).mono
      fun r s₂ _ _ hwent => .warn hwent
  | @read path _ _ ih =>
    exact (ih (s.access.world.disk.read path) context (c.access hs)).mono
      fun r s₂ _ _ hwent => .read _ hwent
  | @edit change next hpermitted _ ih =>
    unfold Setup.run
    have hreply : (setup.answer importer context (.edit change)).Maintains inv frames s
        fun r _ => r.2 = context :=
      (c.edit hs hpermitted).bind fun reply s₁ hs₁ _ _ => Maintains.pure hs₁ rfl
    refine hreply.bind fun r s₁ hs₁ _ hr => ?_
    obtain ⟨reply, context'⟩ := r
    obtain rfl : context' = context := hr
    exact (ih reply context' hs₁).mono fun r s₂ _ _ hwent => .edit reply hwent
  | @note text _ _ ih =>
    exact (ih context (c.record (.note text) hs)).mono fun r s₂ _ _ hwent => .note hwent

/-! ## Validating -/

/-- **A stored interface that is validated fits.** -/
theorem validate (himporter : importer.Maintains inv c.rule.wanted frames) {target : Target}
    (hlocated : c.located target)
    (hprimitive : target.isPrimitive = setup.settings.isPrimitive target.name)
    (scope : ImportedScope) (hs : inv s) :
    (setup.validate importer target scope).Maintains inv frames s fun r s' =>
      ∀ i, r = .ok i → c.fit s'.caches.visited target.name ⟨i, false, target.isPrimitive⟩ := by
  unfold Setup.validate
  refine (c.read hs hlocated).bind fun r s₁ hs₁ _ hstored => ?_
  cases r with
  | error reason => exact Maintains.pure hs₁ nofun
  | ok i =>
    dsimp only
    split
    · exact Maintains.pure hs₁ nofun
    · rename_i hlocal
      refine (changedImport? himporter scope (c.recorded (hstored i rfl)) hs₁).bind
        fun reason s₂ hs₂ hext h => ?_
      cases reason with
      | some reason => exact Maintains.pure hs₂ nofun
      | none =>
        have hstored₂ := c.stored_mono hext (hstored i rfl)
        have hfit := c.reuse hs₂ hlocated hprimitive hstored₂ hlocal (h.1 rfl)
        have hkeep : inv (s₂.keep target.name i) := c.keep hs₂ (hprimitive ▸ hfit)
        refine Maintains.after rfl (.of_eq rfl) (Maintains.pure hkeep fun j hj => ?_)
        rw [← Except.ok.inj hj]
        exact hfit

/-! ## Building -/

/-- What comes of a check in the mode that settles fits. -/
theorem fit_of_comesOf (hs : inv s) {target : Target} (hlocated : c.located target)
    (hprimitive : target.isPrimitive = setup.settings.isPrimitive target.name)
    {scope : ImportedScope} {built : Built} (h : setup.ComesOf target .batch scope s built) :
    c.fit s.caches.visited target.name
      ⟨built.interface, built.interface.hasWarnings, target.isPrimitive⟩ := by
  obtain ⟨checked, context, hwent, hname, hsealed, -⟩ := h
  exact c.built hs hlocated hprimitive hwent hname hsealed

/-- **What is built comes of a check**, and everything that was imported is known. -/
theorem build_comesOf (himporter : importer.Maintains inv c.rule.wanted frames) {target : Target}
    (hlocated : c.located target)
    (hprimitive : target.isPrimitive = setup.settings.isPrimitive target.name)
    (mode : CheckMode) (scope : ImportedScope) (hs : inv s) :
    (setup.build importer target mode scope).Maintains inv frames s fun built s' =>
      setup.ComesOf target mode scope s' built := by
  unfold Setup.build
  refine Maintains.after rfl (.of_eq rfl) ?_
  have hs₁ : inv (s.record (.checking target.name mode)) := c.record _ hs
  refine (c.run himporter (c.abides mode hlocated) _ hs₁).bind fun r s₂ hs₂ _ hwent => ?_
  obtain ⟨checked, context⟩ := r
  dsimp only at hwent ⊢
  split
  · rename_i hname
    cases hsealed : (setup.interfaceOf target checked context).sealed setup.codec with
    | error e => exact Maintains.after_failure rfl (.refl frames s₂) hs₂
    | ok i =>
      refine Maintains.after rfl (.refl frames s₂) ?_
      split
      · rename_i hwrites
        unfold Setup.writes at hwrites
        simp only [Bool.and_eq_true, CheckMode.persists_iff, Bool.not_eq_true'] at hwrites
        obtain ⟨⟨rfl, hwarnings⟩, -⟩ := hwrites
        have hfit := c.built hs₂ hlocated hprimitive hwent hname hsealed
        rw [hwarnings] at hfit
        refine (c.persist hs₂ hlocated hprimitive hfit).bind fun durable s₃ hs₃ hext hd => ?_
        rw [hd]
        exact Maintains.pure hs₃ ⟨checked, context, hwent.mono fun _ _ => hext.knows, hname, hsealed,
          rfl⟩
      · exact Maintains.pure hs₂ ⟨checked, context, hwent, hname, hsealed, rfl⟩
  · exact Maintains.throw hs₂

/-- **An interface that has been built fits** if it was checked in the mode that settles. -/
theorem build (himporter : importer.Maintains inv c.rule.wanted frames) {target : Target}
    (hlocated : c.located target)
    (hprimitive : target.isPrimitive = setup.settings.isPrimitive target.name)
    (mode : CheckMode) (scope : ImportedScope) (hs : inv s) :
    (setup.build importer target mode scope).Maintains inv frames s fun built s' =>
      mode = .batch → c.fit s'.caches.visited target.name
        ⟨built.interface, built.interface.hasWarnings, target.isPrimitive⟩ := by
  refine (c.build_comesOf himporter hlocated hprimitive mode scope hs).mono
    fun built s' hs' _ hcomes hmode => ?_
  subst hmode
  exact c.fit_of_comesOf hs' hlocated hprimitive hcomes

/-- **A rebuild ends with an interface that fits.** -/
theorem rebuild (himporter : importer.Maintains inv c.rule.wanted frames) (scope : ImportedScope)
    (module : ModuleName) (left : Nat) {target : Target} (htarget : setup.IsTarget module target)
    (hlocated : c.located target) (hs : inv s) :
    (setup.rebuild importer scope left target).Maintains inv frames s fun i s' =>
      c.fit s'.caches.visited module ⟨i, i.hasWarnings, setup.settings.isPrimitive module⟩ := by
  induction left generalizing target s with
  | zero => exact Maintains.throw hs
  | succ left ih =>
    obtain ⟨rfl, hprimitive⟩ := htarget
    unfold Setup.rebuild
    refine (c.build himporter hlocated hprimitive .batch scope hs).bind
      fun built s₁ hs₁ _ hbuilt => ?_
    split
    · refine (c.refresh hs₁ hlocated).bind fun target' s₂ hs₂ _ ⟨htarget', hlocated'⟩ => ?_
      obtain ⟨hname', hprimitive'⟩ := htarget' target.name ⟨rfl, hprimitive⟩
      refine (c.validate himporter hlocated' (hname' ▸ hprimitive') scope hs₂).bind
        fun r s₃ hs₃ _ hvalid => ?_
      cases r with
      | ok i =>
        have hfit := c.fit_hasWarnings hs₃ (hvalid i rfl)
        rw [hname', hprimitive'] at hfit
        exact Maintains.pure hs₃ hfit
      | error reason => exact ih ⟨hname', hprimitive'⟩ hlocated' hs₃
    · refine Maintains.pure hs₁ ?_
      rw [← hprimitive]
      exact hbuilt rfl

/-! ## Resolving -/

/-- What is obtained for a target fits. -/
theorem obtain (himporter : importer.Maintains inv c.rule.wanted frames) {module : ModuleName}
    {target : Target} (htarget : setup.IsTarget module target) (hlocated : c.located target)
    (scope : ImportedScope) (hs : inv s) :
    (setup.obtain importer scope target).Maintains inv frames s fun entry s' =>
      c.fit s'.caches.visited module entry := by
  obtain ⟨rfl, hprimitive⟩ := htarget
  unfold Setup.obtain
  refine (c.validate himporter hlocated hprimitive scope hs).bind fun r s₁ hs₁ _ hvalid => ?_
  cases r with
  | ok i => exact Maintains.pure hs₁ (hvalid i rfl)
  | error reason =>
    refine (c.rebuild himporter scope target.name setup.attempts ⟨rfl, hprimitive⟩ hlocated
      hs₁).bind fun i s₂ hs₂ _ hfit => Maintains.pure hs₂ ?_
    rw [hprimitive]
    exact hfit

/-- **A module that is settled on request** is found with the entry that is answered. -/
theorem settleImport {module : ModuleName} {frames' : List ModuleName}
    (himporter : importer.Maintains inv c.rule.wanted frames') (hsubset : frames ⊆ frames')
    (hmem : module ∈ frames') (hnew : module ∉ frames) (hwanted : c.rule.wanted module)
    (scope : ImportedScope) (hs : inv s) :
    (setup.settleImport importer scope module).Maintains inv frames s fun entry s' =>
      s'.caches.visited.get? module = some entry := by
  unfold Setup.settleImport
  refine Maintains.after rfl (.refl frames s) ?_
  cases hvisited : s.caches.visited.get? module with
  | some entry => exact Maintains.pure hs hvisited
  | none =>
    have hobtain : (setup.locate module >>= setup.obtain importer scope).Maintains inv frames' s
        fun entry s' => c.fit s'.caches.visited module entry :=
      (c.locate hs hwanted).bind fun target s₁ hs₁ _ ⟨htarget, hlocated⟩ =>
        c.obtain himporter htarget hlocated scope hs₁
    rw [← bind_assoc]
    refine hobtain.bind_of_subset hsubset fun entry s₁ hs₁ hext hfit => ?_
    -- In progress until now, the module has not been settled by anything else.
    have hnone : s₁.caches.visited.get? module = none := hext.get?_eq_none hmem hvisited
    exact Maintains.of_run rfl (LoadState.Extends.settle hnew)
      (c.record (.settled module) (c.settle hs₁ hnone hfit)) (LoadState.get?_settle hnone entry)

/-- One level of a resolution, given the next one. -/
theorem resolveStep {next : Resolver}
    (hnext : ∀ stack : ImportStack, (next stack).Maintains inv c.rule.wanted stack.frames)
    (stack : ImportStack) :
    (setup.resolveStep next stack).Maintains inv c.rule.wanted stack.frames := by
  intro scope module s hwanted hs
  unfold Setup.resolveStep entering
  cases hpush : stack.push module with
  | error cycle => exact Maintains.after_failure rfl (.refl _ s) hs
  | ok pushed =>
    have hframes := ImportStack.frames_of_push hpush
    have hnew : module ∉ stack.frames := by
      intro hmem
      rw [ImportStack.push_eq_error_iff.2 ⟨hmem, rfl⟩] at hpush
      contradiction
    refine (c.settleImport (hnext pushed) (hframes ▸ List.subset_append_left _ _)
      (hframes ▸ List.mem_append_right _ (List.mem_singleton_self _)) hnew hwanted scope hs).bind
      fun entry s₁ hs₁ _ hvisited => ?_
    split
    · rename_i himportable
      exact Maintains.pure hs₁ ⟨hvisited, himportable⟩
    · exact Maintains.throw hs₁

/-- **Resolving an import maintains the invariant**, to every depth. -/
theorem resolve (depth : Nat) (stack : ImportStack) :
    (setup.resolve depth stack).Maintains inv c.rule.wanted stack.frames := by
  induction depth generalizing stack with
  | zero => exact fun _ _ _ _ _ => ensures_exhausted
  | succ depth ih => exact c.resolveStep ih stack

/-! ## Entry modules -/

/-- What is settled when an entry module has been loaded: in the mode that settles, the interface
that the load has led to. -/
def SettledAs (mode : CheckMode) (module : ModuleName) (i : Interface) (s : LoadState) : Prop :=
  mode.persists = true →
    ∃ entry, s.caches.visited.get? module = some entry ∧ entry.interface = i

/-- An entry module is settled, if its mode settles it. -/
theorem settleEntry {mode : CheckMode} {module : ModuleName} {entry : VisitedEntry}
    (hnew : module ∉ frames) (hs : inv s)
    (hunsettled : mode.persists = true → s.caches.visited.get? module = none)
    (hfit : mode.persists = true → c.fit s.caches.visited module entry) :
    (Setup.settleEntry mode module entry).Maintains inv frames s fun _ s' =>
      SettledAs mode module entry.interface s' := by
  unfold Setup.settleEntry
  split
  · rename_i hmode
    refine Ensures.of_run rfl ⟨?_, ?_, fun _ => ⟨entry, ?_, rfl⟩⟩
    · exact c.record (.settled module) (c.settle hs (hunsettled hmode) (hfit hmode))
    · exact LoadState.Extends.settle hnew
    · exact LoadState.get?_settle (hunsettled hmode) entry
  · rename_i hmode
    exact Maintains.pure hs fun h => absurd h hmode

omit c in
/-- The end of a load with an interface that is reused changes nothing. -/
theorem endReusing (scope : ImportedScope) (i : Interface) (warnings : List Diagnostic)
    (hs : inv s) : (Setup.reuse scope i warnings).Maintains inv frames s fun r s' =>
      s' = s ∧ r.1 = ⟨i, warnings⟩ ∧ scope.mergeWithImports s.caches.visited i = .ok r.2 := by
  unfold Setup.reuse
  refine Maintains.after rfl (.refl frames s) ?_
  dsimp only
  cases scope.mergeWithImports s.caches.visited i with
  | error e => exact Maintains.after_failure rfl (.refl frames s) hs
  | ok scope => exact Maintains.pure hs ⟨rfl, rfl, rfl⟩

/-- **What a load of an entry module leads to**: its interface is settled if the mode settles it, and
the load has ended in one of three ways. -/
def LedTo (setup : Setup) (located : Target → Prop)
    (fit : VisitedCache → ModuleName → VisitedEntry → Prop) (scope : ImportedScope)
    (module : ModuleName) (mode : CheckMode) (r : Loaded × ImportedScope) (s : LoadState) : Prop :=
  SettledAs mode module r.1.interface s ∧ setup.Ending located fit scope module mode s r.1 r.2

/-- An entry module is checked in place. -/
theorem buildEntry {module : ModuleName} (himporter : importer.Maintains inv c.rule.wanted [module])
    {target : Target} (htarget : setup.IsTarget module target) (hlocated : c.located target)
    (mode : CheckMode) (scope : ImportedScope) (hs : inv s)
    (hunsettled : mode.persists = true → s.caches.visited.get? module = none) :
    (setup.buildEntry importer target mode scope).Maintains inv [] s
      (LedTo setup c.located c.fit scope module mode) := by
  have hname := htarget.name
  have hprimitive : target.isPrimitive = setup.settings.isPrimitive target.name :=
    hname ▸ htarget.isPrimitive
  unfold Setup.buildEntry
  refine (c.build_comesOf himporter hlocated hprimitive mode scope hs).bind_of_subset
    (List.nil_subset _) fun built s₁ hs₁ hext hcomes => ?_
  have hfit : mode.persists = true → c.fit s₁.caches.visited target.name
      ⟨built.interface, built.interface.hasWarnings, target.isPrimitive⟩ := by
    intro hmode
    obtain rfl := CheckMode.persists_iff.1 hmode
    exact c.fit_of_comesOf hs₁ hlocated hprimitive hcomes
  refine (c.settleEntry List.not_mem_nil hs₁
    (fun hmode => hext.get?_eq_none (by simp [hname]) (hname ▸ hunsettled hmode))
    hfit).bind fun _ s₂ hs₂ hext₂ hsettled => ?_
  cases hmerge : built.scope.merge built.interface with
  | error e => exact Maintains.after_failure rfl (.refl _ s₂) hs₂
  | ok scope =>
    refine Maintains.pure hs₂ ⟨hname ▸ hsettled, .built htarget hlocated hcomes hext₂ hmerge⟩

/-- An entry module is validated, or else checked in place. -/
theorem validateEntry {module : ModuleName}
    (himporter : importer.Maintains inv c.rule.wanted [module])
    {target : Target} (htarget : setup.IsTarget module target) (hlocated : c.located target)
    (mode : CheckMode) (scope : ImportedScope) (hs : inv s)
    (hunsettled : s.caches.visited.get? module = none) :
    (setup.validateEntry importer target mode scope).Maintains inv [] s
      (LedTo setup c.located c.fit scope module mode) := by
  unfold Setup.validateEntry
  refine (c.validate himporter hlocated (htarget.name ▸ htarget.isPrimitive) scope
    hs).bind_of_subset (List.nil_subset _) fun r s₁ hs₁ hext hvalid => ?_
  have hunsettled₁ : s₁.caches.visited.get? module = none :=
    hext.get?_eq_none (List.mem_singleton_self _) hunsettled
  cases r with
  | ok i =>
    have hfit := hvalid i rfl
    refine (c.settleEntry List.not_mem_nil hs₁ (fun _ => htarget.name ▸ hunsettled₁)
      (fun _ => hfit)).bind fun _ s₂ hs₂ hext₂ hsettled => ?_
    rw [htarget.name, htarget.isPrimitive] at hfit
    refine (endReusing scope i [] hs₂).mono ?_
    rintro ⟨_, merged⟩ _ - - ⟨rfl, rfl, hmerge⟩
    exact ⟨htarget.name ▸ hsettled, .reused hunsettled₁ hfit hext₂ hmerge⟩
  | error reason =>
    exact c.buildEntry himporter htarget hlocated mode scope hs₁ fun _ => hunsettled₁

/-- An entry module is located, with its source as the mode sees it. -/
theorem locateFor (frames : List ModuleName) {module : ModuleName}
    (hwanted : c.rule.wanted module) (mode : CheckMode) (hs : inv s) :
    (setup.locate module >>= refreshFor mode).Maintains inv frames s
      fun target _ => setup.IsTarget module target ∧ c.located target := by
  refine (c.locate hs hwanted).bind fun target s₁ hs₁ _ ⟨htarget, hlocated⟩ => ?_
  unfold refreshFor
  split
  · exact Maintains.pure hs₁ ⟨htarget, hlocated⟩
  · exact (c.refresh hs₁ hlocated).mono fun target' _ _ _ h => ⟨h.1 module htarget, h.2⟩

/-- An entry module that is not answered from memory. -/
theorem loadTarget {module : ModuleName}
    (himporter : importer.Maintains inv c.rule.wanted [module]) (hwanted : c.rule.wanted module)
    (mode : CheckMode) (scope : ImportedScope) (hs : inv s)
    (hunsettled : mode.retainsPrivate = false → s.caches.visited.get? module = none) :
    (setup.loadTarget importer scope module mode).Maintains inv [] s
      (LedTo setup c.located c.fit scope module mode) := by
  unfold Setup.loadTarget
  rw [← bind_assoc]
  refine (c.locateFor [module] hwanted mode hs).bind_of_subset (List.nil_subset _)
    fun target s₁ hs₁ hext h => ?_
  obtain ⟨htarget, hlocated⟩ := h
  have hunsettled₁ : mode.retainsPrivate = false → s₁.caches.visited.get? module = none :=
    fun hmode => hext.get?_eq_none (List.mem_singleton_self _) (hunsettled hmode)
  split
  · refine c.buildEntry himporter htarget hlocated mode scope hs₁ fun hmode => hunsettled₁ ?_
    rw [CheckMode.persists_iff.1 hmode]
    rfl
  · rename_i hmode
    exact c.validateEntry himporter htarget hlocated mode scope hs₁
      (hunsettled₁ (Bool.not_eq_true _ ▸ hmode))

/-- **An entry module is loaded** while nothing else is in progress. -/
theorem loadEntry {module : ModuleName}
    (himporter : importer.Maintains inv c.rule.wanted [module]) (hwanted : c.rule.wanted module)
    (scope : ImportedScope) (mode : CheckMode) (hs : inv s) :
    (setup.loadEntry importer scope module mode).Maintains inv [] s
      (LedTo setup c.located c.fit scope module mode) := by
  unfold Setup.loadEntry
  refine Maintains.after rfl (.refl _ s) ?_
  split
  · rename_i entry hvisited _
    have hget : s.caches.visited.get? module = some entry := hvisited
    refine (endReusing scope entry.interface entry.interface.warnings hs).mono ?_
    rintro ⟨_, merged⟩ _ - - ⟨rfl, rfl, hmerge⟩
    exact ⟨fun _ => ⟨entry, hget, rfl⟩, .recalled hget hmerge⟩
  · rename_i hcase
    refine c.loadTarget himporter hwanted mode scope hs fun hmode => ?_
    cases hvisited : s.caches.visited.get? module with
    | none => rfl
    | some entry => exact (hcase entry hvisited hmode).elim

end Contract

end Setup

/-! ## Sessions -/

namespace Session

/-- **What a load of a session is**: the load of an entry module with nothing else in progress. -/
theorem loadWithin_eq_some {s s' : Session} (hstack : s.stack = ∅) {depth : Nat}
    {module : ModuleName} {mode : CheckMode} {world world' : World}
    {result : Except LoadError Loaded}
    (h : s.loadWithin depth module mode world = some (result, s', world')) :
    ∃ (stack : ImportStack) (outcome : Except LoadError (Loaded × ImportedScope)),
      stack.frames = [module] ∧
      (s.setup.loadEntry (s.setup.resolve depth stack) (s.scope.forget module) module mode).run.run
        ⟨s.caches, world⟩ = some (outcome, ⟨s'.caches, world'⟩) ∧
      outcome.map Prod.fst = result ∧ s'.setup = s.setup ∧ s'.stack = ∅ ∧
      s'.scope = (outcome.toOption.map Prod.snd).getD s.scope := by
  have hpush : ∃ stack, (∅ : ImportStack).push module = .ok stack ∧ stack.frames = [module] :=
    ⟨_, rfl, rfl⟩
  obtain ⟨stack, hpush, hframes⟩ := hpush
  unfold loadWithin at h
  rw [hstack] at h
  unfold Setup.entering at h
  rw [hpush] at h
  obtain ⟨⟨outcome, state⟩, hrun, h⟩ := Option.bind_eq_some_iff.1 h
  refine ⟨stack, outcome, hframes, ?_⟩
  cases outcome with
  | ok p =>
    obtain ⟨rfl, hrest⟩ := Prod.mk.inj (Option.some.inj h)
    obtain ⟨rfl, rfl⟩ := Prod.mk.inj hrest
    exact ⟨hrun, rfl, rfl, rfl, rfl⟩
  | error e =>
    obtain ⟨rfl, hrest⟩ := Prod.mk.inj (Option.some.inj h)
    obtain ⟨rfl, rfl⟩ := Prod.mk.inj hrest
    exact ⟨hrun, rfl, rfl, rfl, rfl⟩

section Loads

variable {s s' : Session} {setup : Setup} {inv : LoadState → Prop}

/-- **What a load of a session leads to.** The invariant is maintained, whether the load succeeds or
fails, and what was settled stays settled. A load that fails leaves the scope as it was, and one that
succeeds has ended with the scope of the session then. -/
theorem ledTo_loadWithin (hsetup : s.setup = setup) (c : setup.Contract inv) (hstack : s.stack = ∅)
    {depth : Nat} {module : ModuleName} (hwanted : c.rule.wanted module) {mode : CheckMode}
    {world world' : World} {result : Except LoadError Loaded} (hinv : inv ⟨s.caches, world⟩)
    (hload : s.loadWithin depth module mode world = some (result, s', world')) :
    inv ⟨s'.caches, world'⟩ ∧ LoadState.Extends [] ⟨s.caches, world⟩ ⟨s'.caches, world'⟩ ∧
      match result with
      | .ok loaded => Setup.Contract.LedTo setup c.located c.fit (s.scope.forget module) module mode
        (loaded, s'.scope) ⟨s'.caches, world'⟩
      | .error _ => s'.scope = s.scope := by
  subst hsetup
  obtain ⟨stack, outcome, hframes, hrun, rfl, -, -, hscope⟩ := loadWithin_eq_some hstack hload
  have himporter := c.resolve depth stack
  rw [hframes] at himporter
  have hentry := c.loadEntry himporter hwanted (s.scope.forget module) mode hinv _ _ hrun
  cases outcome with
  | ok p =>
    refine ⟨hentry.1, hentry.2.1, ?_⟩
    rw [show s'.scope = p.2 from hscope]
    exact hentry.2.2
  | error e => exact ⟨hentry.1, hentry.2, hscope⟩

/-- **A load of a session maintains the invariant**, and if it succeeds, the module has been settled
as the load says, provided that its mode settles. -/
theorem maintains_loadWithin (hsetup : s.setup = setup) (c : setup.Contract inv)
    (hstack : s.stack = ∅) {depth : Nat} {module : ModuleName} (hwanted : c.rule.wanted module)
    {mode : CheckMode} {world world' : World} {result : Except LoadError Loaded}
    (hinv : inv ⟨s.caches, world⟩)
    (hload : s.loadWithin depth module mode world = some (result, s', world')) :
    inv ⟨s'.caches, world'⟩ ∧ LoadState.Extends [] ⟨s.caches, world⟩ ⟨s'.caches, world'⟩ ∧
      ∀ loaded, result = .ok loaded →
        Setup.Contract.SettledAs mode module loaded.interface ⟨s'.caches, world'⟩ := by
  obtain ⟨hafter, hext, hled⟩ := ledTo_loadWithin hsetup c hstack hwanted hinv hload
  refine ⟨hafter, hext, fun loaded hloaded => ?_⟩
  subst hloaded
  exact hled.1

end Loads

end Session

end ModuleLoader
