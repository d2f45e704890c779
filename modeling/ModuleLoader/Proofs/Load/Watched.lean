import ModuleLoader.Proofs.Load.Maintained

/-!
# Watching the resolutions of a load

An invariant that every load maintains holds before a load and after it. But a load resolves many
imports on its way, deep below one another, and the invariant should hold at each of these moments
too, and so should what is claimed of every answer. To say so, the resolutions are *watched*: one
that starts or ends in a state without the invariant, or that answers what it should not, has no
outcome, and neither has the load then.

Watching changes nothing about a load that starts with the invariant
(`Setup.Contract.loadBy_watched`). So there is nothing to be seen: every resolution that takes place
in a load that has an outcome is as it should be.

The reason is that a load is the same function of its way of importing all along. Two ways that do
the same wherever the invariant holds make the same load (`Setup.Contract.loadEntry_congr`), and this
is shown along the recursion of the loader, one lemma for each of its functions.
-/

namespace ModuleLoader

open Load

namespace Load

variable {α β : Type} {inv : LoadState → Prop} {frames : List ModuleName} {s s' : LoadState}

/-! ## Watched loads -/

/-- **What is to be seen of a load**: the invariant before and after it, and a good result if there is
one. -/
def Seen (inv : LoadState → Prop) (good : α → Prop) (s : LoadState)
    (r : Except LoadError α × LoadState) : Prop :=
  inv s ∧ inv r.2 ∧ ∀ a, r.1 = .ok a → good a

open Classical in
/-- **A load that is watched** has an outcome only if that is to be seen. -/
noncomputable def watched (inv : LoadState → Prop) (good : α → Prop) (load : Load α) : Load α :=
  ExceptT.mk fun s => (load.run.run s).filter fun r => decide (Seen inv good s r)

variable {good : α → Prop} {load load' : Load α}

/-- Two loads that do the same do so under watch. -/
theorem run_watched_congr (h : load'.run.run s = load.run.run s) :
    (load'.watched inv good).run.run s = (load.watched inv good).run.run s := by
  show (load'.run.run s).filter _ = (load.run.run s).filter _
  rw [h]

/-- **Watching changes nothing** about a load that maintains the invariant and has good results. -/
theorem Maintains.run_watched (h : load.Maintains inv frames s fun a _ => good a) (hs : inv s) :
    (load.watched inv good).run.run s = load.run.run s := by
  show (load.run.run s).filter _ = _
  cases hrun : load.run.run s with
  | none => rfl
  | some r =>
    have hseen : Seen inv good s r := by
      have hafter := h r.1 r.2 hrun
      obtain ⟨result, s'⟩ := r
      cases result with
      | ok a => exact ⟨hs, hafter.1, fun _ ha => Except.ok.inj ha ▸ hafter.2.2⟩
      | error e => exact ⟨hs, hafter.1, nofun⟩
    simp only [Option.filter_some, hseen, decide_true, if_true]

/-! ## Loads that do the same -/

/-- **Two loads, one after the other, do the same** if their parts do: the second parts wherever the
first ones may lead. -/
theorem Maintains.run_bind_congr {next next' : α → Load β}
    {ok : α → LoadState → Prop} (h : load.Maintains inv frames s ok)
    (hsame : load'.run.run s = load.run.run s)
    (hnext : ∀ a s', inv s' → LoadState.Extends frames s s' → ok a s' →
      (next' a).run.run s' = (next a).run.run s') :
    (load' >>= next').run.run s = (load >>= next).run.run s := by
  rw [run_bind, run_bind, hsame]
  cases hrun : load.run.run s with
  | none => rfl
  | some r =>
    obtain ⟨result, s'⟩ := r
    have hafter := h result s' hrun
    cases result with
    | ok a => exact hnext a s' hafter.1 hafter.2.1 hafter.2.2
    | error e => rfl

end Load

/-- **Two ways of importing do the same** wherever an invariant holds. -/
def Importer.SameOn (inv : LoadState → Prop) (wanted : ModuleName → Prop)
    (importer importer' : Importer) : Prop :=
  ∀ scope module s, wanted module → inv s →
    (importer' scope module).run.run s = (importer scope module).run.run s

namespace Setup

namespace Contract

variable {setup : Setup} {inv : LoadState → Prop} {frames : List ModuleName}
  {importer importer' : Importer} {s : LoadState} (c : setup.Contract inv)

section Congr

variable (himporter : importer.Maintains inv c.rule.wanted frames)
  (hsame : importer.SameOn inv c.rule.wanted importer')

include himporter hsame

/-- Recorded imports are compared in the same way. -/
theorem changedImport?_congr (scope : ImportedScope) {imports : List (ModuleName × Digest)}
    (hwanted : ∀ e ∈ imports, c.rule.wanted e.1) (hs : inv s) :
    (Interface.changedImport? (currentHash importer' scope) imports).run.run s
      = (Interface.changedImport? (currentHash importer scope) imports).run.run s := by
  induction imports generalizing s with
  | nil => rfl
  | cons e rest ih =>
    obtain ⟨module, recorded⟩ := e
    have hmodule : c.rule.wanted module := hwanted _ List.mem_cons_self
    unfold Interface.changedImport? currentHash
    rw [bind_assoc, bind_assoc]
    refine (himporter scope module s hmodule hs).run_bind_congr (hsame scope module s hmodule hs)
      fun entry s₁ hs₁ _ _ => ?_
    rw [pure_bind, pure_bind]
    split
    · exact ih (fun e he => hwanted e (List.mem_cons_of_mem _ he)) hs₁
    · rfl

/-- An import into a context is the same. -/
theorem importInto_congr (context : CheckContext) {imported : ModuleName}
    (hwanted : c.rule.wanted imported) (hs : inv s) :
    (setup.importInto importer' context imported).run.run s
      = (setup.importInto importer context imported).run.run s := by
  unfold Setup.importInto
  refine (himporter context.scope imported s hwanted hs).outcome.run_bind_congr ?_
    fun _ _ _ _ _ => rfl
  rw [run_outcome, run_outcome, hsame context.scope imported s hwanted hs]

/-- **A check runs in the same way**, by induction on the requests that it may make. -/
theorem run_congr {α : Type} {check : Check α} (habides : check.Abides c.rule)
    (context : CheckContext) (hs : inv s) :
    (setup.run importer' context check).run.run s
      = (setup.run importer context check).run.run s := by
  induction habides generalizing context s with
  | done result => rfl
  | fail e => rfl
  | resolve hwanted _ _ ihok iherror =>
    unfold Setup.run
    refine (importInto himporter context hwanted hs).run_bind_congr
      (c.importInto_congr himporter hsame context hwanted hs) fun r s₁ hs₁ _ hr => ?_
    obtain ⟨e, rfl⟩ | ⟨entry, context', hknows, hadd, rfl⟩ := hr
    · exact iherror e context hs₁
    · exact ihok entry.interface (c.grant hs₁ hknows) context' hs₁
  | context _ ih => exact ih context context hs
  | @setOptions options _ _ ih => exact ih { context with options } hs
  | @warn warning _ _ ih =>
    exact ih { context with warnings := context.warnings ++ [warning] } hs
  | @read path _ _ ih => exact ih (s.access.world.disk.read path) context (c.access hs)
  | @edit change next hpermitted _ ih =>
    unfold Setup.run
    have hreply : (setup.answer importer context (.edit change)).Maintains inv frames s
        fun _ _ => True :=
      (c.edit hs hpermitted).bind fun _ _ hs₁ _ _ => Maintains.pure hs₁ True.intro
    exact hreply.run_bind_congr rfl fun r s₁ hs₁ _ _ => ih r.1 r.2 hs₁
  | @note text _ _ ih => exact ih context (c.record (.note text) hs)

/-- A target is validated in the same way. -/
theorem validate_congr {target : Target} (hlocated : c.located target) (scope : ImportedScope)
    (hs : inv s) :
    (setup.validate importer' target scope).run.run s
      = (setup.validate importer target scope).run.run s := by
  unfold Setup.validate
  have hread : (setup.stored target).Maintains inv frames s fun result s' =>
      ∀ i, result = .ok i → c.stored s'.caches.visited target i := c.read hs hlocated
  refine hread.run_bind_congr rfl fun r s₁ hs₁ _ hstored => ?_
  cases r with
  | error reason => rfl
  | ok i =>
    have hwanted := c.recorded (hstored i rfl)
    dsimp only
    split
    · rfl
    · exact (changedImport? himporter scope hwanted hs₁).run_bind_congr
        (c.changedImport?_congr himporter hsame scope hwanted hs₁) fun _ _ _ _ _ => rfl

/-- A target is checked in the same way. -/
theorem build_congr {target : Target} (hlocated : c.located target) (mode : CheckMode)
    (scope : ImportedScope) (hs : inv s) :
    (setup.build importer' target mode scope).run.run s
      = (setup.build importer target mode scope).run.run s := by
  unfold Setup.build
  have hrecord : (Load.record (.checking target.name mode)).Maintains inv frames s fun _ _ => True :=
    .of_run rfl (.of_eq rfl) (c.record _ hs) True.intro
  refine hrecord.run_bind_congr rfl fun _ s₁ hs₁ _ _ => ?_
  have habides := c.abides mode hlocated
  exact (c.run himporter habides _ hs₁).run_bind_congr
    (c.run_congr himporter hsame habides _ hs₁) fun _ _ _ _ _ => rfl

/-- A target is checked again in the same way. -/
theorem rebuild_congr (scope : ImportedScope) (left : Nat) {target : Target}
    (hlocated : c.located target)
    (hprimitive : target.isPrimitive = setup.settings.isPrimitive target.name) (hs : inv s) :
    (setup.rebuild importer' scope left target).run.run s
      = (setup.rebuild importer scope left target).run.run s := by
  induction left generalizing target s with
  | zero => rfl
  | succ left ih =>
    unfold Setup.rebuild
    refine (c.build himporter hlocated hprimitive .batch scope hs).run_bind_congr
      (c.build_congr himporter hsame hlocated .batch scope hs) fun built s₁ hs₁ _ _ => ?_
    split
    · have hrefresh : (Setup.refresh target).Maintains inv frames s₁ fun target' _ =>
          setup.IsTarget target.name target' ∧ c.located target' :=
        (c.refresh hs₁ hlocated).mono fun target' _ _ _ h =>
          ⟨h.1 target.name ⟨rfl, hprimitive⟩, h.2⟩
      refine hrefresh.run_bind_congr rfl fun target' s₂ hs₂ _ htarget => ?_
      obtain ⟨htarget', hlocated'⟩ := htarget
      have hprimitive' : target'.isPrimitive = setup.settings.isPrimitive target'.name :=
        htarget'.name ▸ htarget'.isPrimitive
      refine (c.validate himporter hlocated' hprimitive' scope hs₂).run_bind_congr
        (c.validate_congr himporter hsame hlocated' scope hs₂) fun r s₃ hs₃ _ _ => ?_
      cases r with
      | ok i => rfl
      | error reason => exact ih hlocated' hprimitive' hs₃
    · rfl

/-- What is obtained for a target is the same. -/
theorem obtain_congr {target : Target} (hlocated : c.located target)
    (hprimitive : target.isPrimitive = setup.settings.isPrimitive target.name)
    (scope : ImportedScope) (hs : inv s) :
    (setup.obtain importer' scope target).run.run s
      = (setup.obtain importer scope target).run.run s := by
  unfold Setup.obtain
  refine (c.validate himporter hlocated hprimitive scope hs).run_bind_congr
    (c.validate_congr himporter hsame hlocated scope hs) fun r s₁ hs₁ _ _ => ?_
  cases r with
  | ok i => rfl
  | error reason =>
    exact (c.rebuild himporter scope target.name setup.attempts ⟨rfl, hprimitive⟩ hlocated
      hs₁).run_bind_congr (c.rebuild_congr himporter hsame scope setup.attempts hlocated hprimitive
        hs₁) fun _ _ _ _ _ => rfl

/-- A module is settled in the same way. -/
theorem settleImport_congr {module : ModuleName} (hwanted : c.rule.wanted module)
    (scope : ImportedScope) (hs : inv s) :
    (setup.settleImport importer' scope module).run.run s
      = (setup.settleImport importer scope module).run.run s := by
  unfold Setup.settleImport
  have hvisited : (Load.visited? module).Maintains inv frames s fun _ _ => True :=
    .of_run rfl (.refl frames s) hs True.intro
  refine hvisited.run_bind_congr rfl fun known s₁ hs₁ _ _ => ?_
  cases known with
  | some entry => rfl
  | none =>
    have hlocate : (setup.locate module).Maintains inv frames s₁ fun target _ =>
        setup.IsTarget module target ∧ c.located target := c.locate hs₁ hwanted
    refine hlocate.run_bind_congr rfl fun target s₂ hs₂ _ ⟨htarget, hlocated⟩ => ?_
    exact (c.obtain himporter htarget hlocated scope hs₂).run_bind_congr
      (c.obtain_congr himporter hsame hlocated (htarget.name ▸ htarget.isPrimitive) scope hs₂)
      fun _ _ _ _ _ => rfl

/-- An entry module is checked in place in the same way. -/
theorem buildEntry_congr {target : Target} (hlocated : c.located target)
    (hprimitive : target.isPrimitive = setup.settings.isPrimitive target.name) (mode : CheckMode)
    (scope : ImportedScope) (hs : inv s) :
    (setup.buildEntry importer' target mode scope).run.run s
      = (setup.buildEntry importer target mode scope).run.run s := by
  unfold Setup.buildEntry
  exact (c.build himporter hlocated hprimitive mode scope hs).run_bind_congr
    (c.build_congr himporter hsame hlocated mode scope hs) fun _ _ _ _ _ => rfl

/-- **An entry module is loaded in the same way** by two ways of importing that do the same. -/
theorem loadEntry_congr {module : ModuleName} (hwanted : c.rule.wanted module)
    (scope : ImportedScope) (mode : CheckMode) (hs : inv s) :
    (setup.loadEntry importer' scope module mode).run.run s
      = (setup.loadEntry importer scope module mode).run.run s := by
  unfold Setup.loadEntry
  have hvisited : (Load.visited? module).Maintains inv frames s fun _ _ => True :=
    .of_run rfl (.refl frames s) hs True.intro
  refine hvisited.run_bind_congr rfl fun known s₁ hs₁ _ _ => ?_
  split
  · rfl
  · unfold Setup.loadTarget
    have hlocate : (setup.locate module).Maintains inv frames s₁ fun target _ =>
        setup.IsTarget module target ∧ c.located target := c.locate hs₁ hwanted
    refine hlocate.run_bind_congr rfl fun located s₂ hs₂ _ ⟨htarget, hlocated⟩ => ?_
    have hrefresh : (refreshFor mode located).Maintains inv frames s₂
        fun target _ => setup.IsTarget module target ∧ c.located target := by
      unfold refreshFor
      split
      · exact Maintains.pure hs₂ ⟨htarget, hlocated⟩
      · exact (c.refresh hs₂ hlocated).mono fun target' _ _ _ h => ⟨h.1 module htarget, h.2⟩
    refine hrefresh.run_bind_congr rfl fun target s₃ hs₃ _ ⟨htarget', hlocated'⟩ => ?_
    have hprimitive : target.isPrimitive = setup.settings.isPrimitive target.name :=
      htarget'.name ▸ htarget'.isPrimitive
    split
    · exact c.buildEntry_congr himporter hsame hlocated' hprimitive mode scope hs₃
    · unfold Setup.validateEntry
      refine (c.validate himporter hlocated' hprimitive scope hs₃).run_bind_congr
        (c.validate_congr himporter hsame hlocated' scope hs₃) fun r s₄ hs₄ _ _ => ?_
      cases r with
      | ok i => rfl
      | error reason =>
        exact c.buildEntry_congr himporter hsame hlocated' hprimitive mode scope hs₄

end Congr

end Contract

/-! ## Watched resolutions -/

/-- **Resolves an import to a given depth under watch**: every resolution on the way is watched. -/
noncomputable def resolveWatched (setup : Setup) (inv : LoadState → Prop)
    (good : ModuleName → VisitedEntry → Prop) : (depth : Nat) → Resolver
  | 0, _, _, _ => Load.exhausted
  | depth + 1, stack, scope, module =>
    (setup.resolveStep (setup.resolveWatched inv good depth) stack scope module).watched inv
      (good module)

namespace Contract

variable {setup : Setup} {inv : LoadState → Prop} (c : setup.Contract inv)
  {good : ModuleName → VisitedEntry → Prop}

include c

/-- **Watching changes no resolution**, if whatever is known in a state with the invariant is good. -/
theorem sameOn_resolveWatched
    (hgood : ∀ s module entry, inv s → s.Knows module entry → good module entry) (depth : Nat)
    (stack : ImportStack) :
    (setup.resolve depth stack).SameOn inv c.rule.wanted
      (setup.resolveWatched inv good depth stack) := by
  induction depth generalizing stack with
  | zero => exact fun _ _ _ _ _ => rfl
  | succ depth ih =>
    intro scope module s hwanted hs
    -- The next level is the same by induction, and then this one is seen to be good.
    have hstep : (setup.resolveStep (setup.resolveWatched inv good depth) stack scope
        module).run.run s = (setup.resolve (depth + 1) stack scope module).run.run s := by
      rw [resolve_succ]
      unfold Setup.resolveStep entering
      cases hpush : stack.push module with
      | error cycle => rfl
      | ok pushed =>
        have hsettle := c.settleImport_congr (c.resolve depth pushed) (ih pushed) hwanted scope hs
        dsimp only
        rw [Load.run_bind, Load.run_bind, hsettle]
    have hmaintains : (setup.resolve (depth + 1) stack scope module).Maintains inv stack.frames s
        fun entry _ => good module entry :=
      (c.resolve (depth + 1) stack scope module s hwanted hs).mono fun entry s' hs' _ hknows =>
        hgood s' module entry hs' hknows
    exact (run_watched_congr hstep).trans (hmaintains.run_watched hs)

end Contract

end Setup

/-! ## Watched sessions -/

namespace Session

/-- **Loads a module with some way of resolving imports.** -/
def loadBy (resolver : Resolver) (s : Session) (module : ModuleName) (mode : CheckMode)
    (world : World) : Option (Except LoadError Loaded × Session × World) := do
  let load := Setup.entering s.stack module fun stack =>
    s.setup.loadEntry (resolver stack) (s.scope.forget module) module mode
  let (result, state) ← (load.run).run ⟨s.caches, world⟩
  let s := { s with caches := state.caches }
  match result with
  | .ok (loaded, scope) => return (.ok loaded, { s with scope }, state.world)
  | .error e => return (.error e, s, state.world)

/-- A session resolves imports as the loader does. -/
theorem loadWithin_eq_loadBy (depth : Nat) (s : Session) :
    s.loadWithin depth = s.loadBy (s.setup.resolve depth) := rfl

/-- **Watching changes no load of a session** that starts with the invariant, if whatever is known in
a state with the invariant is good. -/
theorem loadBy_resolveWatched {s : Session} {inv : LoadState → Prop}
    {good : ModuleName → VisitedEntry → Prop} (c : s.setup.Contract inv) (hstack : s.stack = ∅)
    (hgood : ∀ t module entry, inv t → t.Knows module entry → good module entry) (depth : Nat)
    {module : ModuleName} (hwanted : c.rule.wanted module) (mode : CheckMode) {world : World}
    (hinv : inv ⟨s.caches, world⟩) :
    s.loadBy (s.setup.resolveWatched inv good depth) module mode world
      = s.loadWithin depth module mode world := by
  have hpush : ∃ stack, (∅ : ImportStack).push module = .ok stack := ⟨_, rfl⟩
  obtain ⟨stack, hpush⟩ := hpush
  have hsame := c.loadEntry_congr (c.resolve depth stack) (c.sameOn_resolveWatched hgood depth stack)
    hwanted (s.scope.forget module) mode hinv
  rw [loadWithin_eq_loadBy]
  unfold loadBy
  rw [hstack]
  unfold Setup.entering
  rw [hpush]
  dsimp only
  rw [hsame]

end Session

end ModuleLoader
