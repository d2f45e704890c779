import ModuleLoader.Proofs.Load.Course
import ModuleLoader.Proofs.Load.Machine

/-!
# What the machine unwinds

A machine does what a load does: it has the same outcome, the same caches, the same world, and it has
an outcome just if the load has one. This is shown function by function, for every way of resolving
imports that does what another one does, and then by induction on the depth.

Along with it goes what a load cannot say. Whenever a function of the loader has ended, in success or
failure, the stack is what it was before. On the way it has only grown from there, and never held a
module twice; for a module is entered only if it is not on the stack. And what was settled is still
settled, at every moment, also while a copy of the machine is at work.
-/

namespace ModuleLoader

/-- **The settled modules of one cache are the first ones of another.** -/
def VisitedCache.Grows (c c' : VisitedCache) : Prop := c.entries <+: c'.entries

namespace VisitedCache.Grows

variable {c₁ c₂ c₃ : VisitedCache}

theorem refl (c : VisitedCache) : c.Grows c := List.prefix_refl c.entries

theorem trans (h : c₁.Grows c₂) (h' : c₂.Grows c₃) : c₁.Grows c₃ := List.IsPrefix.trans h h'

theorem of_eq (h : c₂ = c₁) : c₁.Grows c₂ := h ▸ refl c₁

theorem record (c : VisitedCache) (module : ModuleName) (entry : VisitedEntry) :
    c.Grows (c.record module entry) := by
  unfold VisitedCache.record
  split
  · exact refl c
  · exact List.prefix_append c.entries _

/-- **What is settled stays settled**, with the same entry. -/
theorem get? (h : c₁.Grows c₂) {module : ModuleName} {entry : VisitedEntry}
    (hget : c₁.get? module = some entry) : c₂.get? module = some entry := by
  obtain ⟨new, hnew⟩ := h
  unfold VisitedCache.get? at hget ⊢
  rw [← hnew, List.lookup_append, hget]
  rfl

end VisitedCache.Grows

/-- **A moment after a machine was as it is**: nothing has been taken off its stack since, no module
is on the stack twice, and what was settled still is. -/
structure Moment.Follows (m : Machine) (moment : Moment) : Prop where
  /-- The stack has grown. -/
  stack : m.stack <+: moment.stack
  /-- No module waits for itself. -/
  nodup : moment.stack.Nodup
  /-- More may have been settled. -/
  visited : m.caches.visited.Grows moment.visited

/-- A moment that follows on a later machine follows on an earlier one. -/
theorem Moment.Follows.of_later {m m' : Machine} {moment : Moment} (h : Moment.Follows m' moment)
    (hstack : m.stack <+: m'.stack) (hvisited : m.caches.visited.Grows m'.caches.visited) :
    Moment.Follows m moment :=
  ⟨hstack.trans h.stack, h.nodup, hvisited.trans h.visited⟩

/-- **The machine after a load** of which the state and the scope are known, with more moments on
record and the stack as before. -/
def Machine.after (m : Machine) (s : LoadState) (scope : ImportedScope) (steps : List Moment) :
    Machine :=
  ⟨m.stack, s.caches, scope, s.world, m.trail ++ steps⟩

/-- A machine after two loads. -/
theorem Machine.after_after (m : Machine) (s s' : LoadState) (scope scope' : ImportedScope)
    (steps steps' : List Moment) :
    (m.after s scope steps).after s' scope' steps' = m.after s' scope' (steps ++ steps') :=
  congrArg (Machine.mk m.stack s'.caches scope' s'.world) (List.append_assoc _ _ _)

namespace Exec

variable {α β γ : Type} {m : Machine}

/-- The outcome of two parts, one after the other. -/
theorem run_bind (exec : Exec α) (next : α → Exec β) (m : Machine) :
    (exec >>= next).run.run m = (exec.run.run m).bind fun r =>
      match r.1 with
      | .ok a => (next a).run.run r.2
      | .error e => some (.error e, r.2) :=
  runs_bind exec next m

/-- What is looked at has the outcome as its result. -/
theorem run_outcome (exec : Exec α) (m : Machine) :
    exec.outcome.run.run m = (exec.run.run m).map fun r => (.ok r.1, r.2) := by
  show ((exec.run.run m).bind fun r => some (Except.ok r.1, r.2)) = _
  cases exec.run.run m <;> rfl

/-! ## Doing what a load does -/

/-- **A machine does what a load does**, up to the scope, and its result and scope agree with the
result of the load. -/
structure Tracks (agree : Except LoadError β → Except LoadError α → ImportedScope → Prop)
    (exec : Exec α) (load : Load β) (m : Machine) : Prop where
  /-- The two have an outcome together, and then the same one. -/
  runs : m.stack.Nodup →
    match load.run.run m.loadState with
    | none => exec.run.run m = none
    | some (r, s) => ∃ r' scope steps, exec.run.run m = some (r', m.after s scope steps) ∧
        agree r r' scope ∧ m.caches.visited.Grows s.caches.visited ∧
        ∀ moment ∈ steps, Moment.Follows m moment

/-- **A machine does just what a load does**, and leaves the scope alone. -/
def Follows (exec : Exec α) (load : Load α) (m : Machine) : Prop :=
  Tracks (fun r r' scope => r' = r ∧ scope = m.scope) exec load m

variable {exec : Exec α} {load : Load α}

/-- What a machine does that goes too deep. -/
theorem follows_exhausted : Follows (exhausted : Exec α) Load.exhausted m := ⟨fun _ => rfl⟩

theorem follows_pure (a : α) : Follows (pure a) (pure a) m :=
  ⟨fun _ => ⟨.ok a, m.scope, [], by rw [Machine.after, List.append_nil]; rfl, ⟨rfl, rfl⟩, .refl _,
    nofun⟩⟩

theorem follows_throw (e : LoadError) : Follows (throw e : Exec α) (throw e) m :=
  ⟨fun _ => ⟨.error e, m.scope, [], by rw [Machine.after, List.append_nil]; rfl, ⟨rfl, rfl⟩,
    .refl _, nofun⟩⟩

theorem follows_ofExcept (result : Except LoadError α) :
    Follows (ofExcept result) (Load.ofExcept result) m := by
  cases result with
  | ok a => exact follows_pure a
  | error e => exact follows_throw e

/-- **One part after another.** The second one starts with the same stack and scope. -/
theorem Follows.bind {next : α → Exec γ} {next' : α → Load β}
    {agree : Except LoadError β → Except LoadError γ → ImportedScope → Prop}
    (h : Follows exec load m) (hagree : ∀ e, agree (.error e) (.error e) m.scope)
    (hnext : ∀ a m', m'.stack = m.stack → m'.scope = m.scope → Tracks agree (next a) (next' a) m') :
    Tracks agree (exec >>= next) (load >>= next') m := by
  refine ⟨fun hnodup => ?_⟩
  have hfirst := h.runs hnodup
  rw [Load.run_bind, run_bind]
  cases hload : load.run.run m.loadState with
  | none =>
    rw [hload] at hfirst
    rw [show exec.run.run m = none from hfirst]
    rfl
  | some p =>
    obtain ⟨r, s⟩ := p
    rw [hload] at hfirst
    obtain ⟨r', scope, steps, hexec, ⟨rfl, rfl⟩, hgrows, hsteps⟩ := hfirst
    rw [hexec]
    cases r' with
    | error e => exact ⟨.error e, m.scope, steps, rfl, hagree e, hgrows, hsteps⟩
    | ok a =>
      have hsecond := (hnext a (m.after s m.scope steps) rfl rfl).runs hnodup
      dsimp only [Option.bind_some]
      rw [show (m.after s m.scope steps).loadState = s from rfl] at hsecond
      cases hload' : (next' a).run.run s with
      | none =>
        rw [hload'] at hsecond
        exact hsecond
      | some p =>
        obtain ⟨r, s'⟩ := p
        rw [hload'] at hsecond
        obtain ⟨r', scope', steps', hexec', hagree', hgrows', hsteps'⟩ := hsecond
        refine ⟨r', scope', steps ++ steps', ?_, hagree', hgrows.trans hgrows', ?_⟩
        · rw [hexec', Machine.after_after]
        · intro moment hmoment
          obtain hmem | hmem := List.mem_append.1 hmoment
          · exact hsteps moment hmem
          · exact (hsteps' moment hmem).of_later (List.prefix_refl _) hgrows

/-- One part after another, both leaving the scope alone. -/
theorem Follows.then {next : α → Exec β} {next' : α → Load β} (h : Follows exec load m)
    (hnext : ∀ a m', m'.stack = m.stack → m'.scope = m.scope → Follows (next a) (next' a) m') :
    Follows (exec >>= next) (load >>= next') m := by
  refine h.bind (fun e => ⟨rfl, rfl⟩) fun a m' hstack hscope => ?_
  rw [← hscope]
  exact hnext a m' hstack hscope

/-- **A failure that is looked at** is a result. -/
theorem Follows.outcome (h : Follows exec load m) : Follows exec.outcome load.outcome m := by
  refine ⟨fun hnodup => ?_⟩
  have hfirst := h.runs hnodup
  rw [Load.run_outcome, run_outcome]
  cases hload : load.run.run m.loadState with
  | none =>
    rw [hload] at hfirst
    rw [show exec.run.run m = none from hfirst]
    rfl
  | some p =>
    obtain ⟨r, s⟩ := p
    rw [hload] at hfirst
    obtain ⟨r', scope, steps, hexec, ⟨rfl, rfl⟩, hgrows, hsteps⟩ := hfirst
    rw [hexec]
    exact ⟨.ok r', m.scope, steps, rfl, ⟨rfl, rfl⟩, hgrows, hsteps⟩

/-- **A step of a load** that leaves the settled modules in place. -/
theorem follows_step (hgrows : ∀ s r s', load.run.run s = some (r, s') →
    s.caches.visited.Grows s'.caches.visited) : Follows (step load) load m := by
  refine ⟨fun hnodup => ?_⟩
  show match load.run.run m.loadState with
    | none => (load.run.run m.loadState).map _ = none
    | some (r, s) => ∃ r' scope steps, (load.run.run m.loadState).map _ = _ ∧ _
  cases hload : load.run.run m.loadState with
  | none => rfl
  | some p =>
    obtain ⟨r, s⟩ := p
    have hvisited := hgrows m.loadState r s hload
    refine ⟨r, m.scope, [⟨m.stack, s.caches.visited⟩], rfl, ⟨rfl, rfl⟩, hvisited, fun moment h => ?_⟩
    rw [List.mem_singleton.1 h]
    exact ⟨List.prefix_refl _, hnodup, hvisited⟩

/-- A step that settles nothing. -/
theorem follows_still (h : load.Still) : Follows (step load) load m :=
  follows_step fun s r s' hrun => .of_eq (h s r s' hrun).1

/-- An event is recorded. -/
theorem follows_record (event : Event) : Follows (step (Load.record event)) (Load.record event) m := by
  refine follows_step fun s r s' hrun => .of_eq ?_
  obtain ⟨-, rfl⟩ := Prod.mk.inj (Option.some.inj hrun)
  rfl

/-- The settled modules are looked at. -/
theorem follows_visited? (module : ModuleName) :
    Follows (step (Load.visited? module)) (Load.visited? module) m := by
  refine follows_step fun s r s' hrun => .of_eq ?_
  obtain ⟨-, rfl⟩ := Prod.mk.inj (Option.some.inj hrun)
  rfl

/-- A module is settled. -/
theorem follows_settle (module : ModuleName) (entry : VisitedEntry) :
    Follows (step (Load.settle module entry)) (Load.settle module entry) m := by
  refine follows_step fun s r s' hrun => ?_
  obtain ⟨-, rfl⟩ := Prod.mk.inj (Option.some.inj hrun)
  exact .record s.caches.visited module entry

/-! ## The stack -/

/-- A module is not entered twice. -/
theorem run_enter_of_mem {module : ModuleName} (h : module ∈ m.stack) :
    (enter module).run.run m
      = some (.error (.importCycle ⟨m.stack.dropWhile (· ≠ module) ++ [module]⟩), m) := by
  unfold enter
  rw [run_bind, show (get : Exec Machine).run.run m = some (.ok m, m) from rfl]
  dsimp only [Option.bind_some]
  rw [if_pos h]
  rfl

/-- A module that is entered goes on top. -/
theorem run_enter_of_notMem {module : ModuleName} (h : module ∉ m.stack) :
    (enter module).run.run m
      = some (.ok (m.stack.length + 1), { m with stack := m.stack ++ [module] }.observed) := by
  unfold enter
  rw [run_bind, show (get : Exec Machine).run.run m = some (.ok m, m) from rfl]
  dsimp only [Option.bind_some]
  rw [if_neg h]
  rfl

/-- **What comes of going on with a module on the stack**: the module is entered and, when that has
ended in one way or the other, left again. -/
theorem run_withFrame {module : ModuleName} (h : module ∉ m.stack) (body : Exec α) :
    (withFrame module body).run.run m
      = (body.run.run { m with stack := m.stack ++ [module] }.observed).map fun r =>
        (r.1, { r.2 with stack := r.2.stack.take m.stack.length }.observed) := by
  unfold withFrame
  rw [run_bind, run_enter_of_notMem h]
  dsimp only [Option.bind_some]
  rw [run_bind, run_outcome]
  cases body.run.run { m with stack := m.stack ++ [module] }.observed with
  | none => rfl
  | some p =>
    obtain ⟨r, m'⟩ := p
    cases r <;> rfl

/-- **What goes on with a module on the stack does what a load does** if it does so there. Whatever
comes of it, the module is taken off again, and nothing else. -/
theorem tracks_withFrame {stack : ImportStack} (hstack : m.stack = stack.frames)
    {module : ModuleName} {body : Exec γ} {load : ImportStack → Load β}
    {agree : Except LoadError β → Except LoadError γ → ImportedScope → Prop}
    (hagree : ∀ e, agree (.error e) (.error e) m.scope)
    (hbody : ∀ pushed m', stack.push module = .ok pushed → m'.stack = pushed.frames →
      m'.scope = m.scope → Tracks agree body (load pushed) m') :
    Tracks agree (withFrame module body) (Setup.entering stack module load) m := by
  refine ⟨fun hnodup => ?_⟩
  unfold Setup.entering
  cases hpush : stack.push module with
  | error cycle =>
    obtain ⟨hmem, rfl⟩ := ImportStack.push_eq_error_iff.1 hpush
    refine ⟨.error (.importCycle (stack.cycleAt module)), m.scope, [], ?_, hagree _, .refl _, nofun⟩
    unfold withFrame
    rw [run_bind, run_enter_of_mem (hstack ▸ hmem), hstack, Machine.after, List.append_nil]
    rfl
  | ok pushed =>
    have hnew : module ∉ m.stack := hstack ▸ ImportStack.notMem_of_push hpush
    have hframes : m.stack ++ [module] = pushed.frames :=
      hstack ▸ (ImportStack.frames_of_push hpush).symm
    have hinside := (hbody pushed { m with stack := m.stack ++ [module] }.observed hpush hframes
      rfl).runs (hframes ▸ pushed.nodup)
    rw [run_withFrame hnew]
    rw [show Machine.loadState (Machine.observed { m with stack := m.stack ++ [module] })
      = m.loadState from rfl] at hinside
    dsimp only
    cases hload : (load pushed).run.run m.loadState with
    | none =>
      rw [hload] at hinside
      rw [show body.run.run _ = none from hinside]
      rfl
    | some p =>
      obtain ⟨r, s⟩ := p
      rw [hload] at hinside
      obtain ⟨r', scope, steps, hexec, hagree', hgrows, hsteps⟩ := hinside
      rw [hexec]
      -- Entering and leaving the module are moments of their own.
      refine ⟨r', scope, [⟨m.stack ++ [module], m.caches.visited⟩] ++ steps ++
        [⟨m.stack, s.caches.visited⟩], ?_, hagree', hgrows, fun moment h => ?_⟩
      · have htake : (m.stack ++ [module]).take m.stack.length = m.stack := List.take_left
        show some (r', Machine.mk ((m.stack ++ [module]).take m.stack.length) s.caches scope s.world
          (m.trail ++ [⟨m.stack ++ [module], m.caches.visited⟩] ++ steps ++
            [⟨(m.stack ++ [module]).take m.stack.length, s.caches.visited⟩])) = _
        rw [htake]
        simp only [Machine.after, List.append_assoc]
      · have hgrown : m.stack <+: m.stack ++ [module] := List.prefix_append _ _
        obtain h | hlast := List.mem_append.1 h
        · obtain hfirst | h := List.mem_append.1 h
          · rw [List.mem_singleton.1 hfirst]
            exact ⟨hgrown, hframes ▸ pushed.nodup, .refl _⟩
          · exact (hsteps moment h).of_later hgrown (.refl _)
        · rw [List.mem_singleton.1 hlast]
          exact ⟨List.prefix_refl _, hnodup, hgrows⟩

/-- **What goes on in a copy of the machine does what a load does**, and leaves the scope alone. -/
theorem follows_inFork (h : Follows exec load { m with scope := ∅ }) :
    Follows (inFork exec) load m := by
  refine ⟨fun hnodup => ?_⟩
  have hinside := h.runs hnodup
  rw [show ({ m with scope := ∅ } : Machine).loadState = m.loadState from rfl] at hinside
  show match load.run.run m.loadState with
    | none => (exec.run.run { m with scope := ∅ }).map _ = none
    | some (r, s) => ∃ r' scope steps, (exec.run.run { m with scope := ∅ }).map _ = _ ∧ _
  cases hload : load.run.run m.loadState with
  | none =>
    rw [hload] at hinside
    rw [show exec.run.run _ = none from hinside]
    rfl
  | some p =>
    obtain ⟨r, s⟩ := p
    rw [hload] at hinside
    obtain ⟨r', scope, steps, hexec, ⟨rfl, rfl⟩, hgrows, hsteps⟩ := hinside
    rw [hexec]
    exact ⟨r', m.scope, steps, rfl, ⟨rfl, rfl⟩, hgrows, fun moment hmoment =>
      (hsteps moment hmoment).of_later (List.prefix_refl _) (.refl _)⟩

/-! ## Resolving imports -/

/-- A machine imports a module into a context as a load does: what resolving it comes to decides. -/
theorem importInto_eq (setup : Setup) (importer : Importer) (context : CheckContext)
    (imported : ModuleName) :
    importInto setup importer context imported
      = (importer context.scope imported).outcome >>= fun resolved =>
        pure (context.afterImport setup.compatibility imported resolved) := by
  unfold importInto
  refine bind_congr fun resolved => ?_
  cases resolved with
  | error e => rfl
  | ok entry =>
    dsimp only [CheckContext.afterImport]
    cases context.addImport setup.compatibility imported entry <;> rfl

/-- **A machine resolves imports as a load does** while some modules are in progress. -/
def Importer.Follows (frames : List ModuleName) (importer : Importer)
    (importer' : ModuleLoader.Importer) : Prop :=
  ∀ scope module (m : Machine), m.stack = frames →
    Exec.Follows (importer scope module) (importer' scope module) m

section Importing

variable {setup : Setup} {importer : Importer} {importer' : ModuleLoader.Importer}
  (himporter : Importer.Follows m.stack importer importer')

include himporter

/-- Recorded imports are compared, by induction on them. -/
theorem follows_changedImport? (scope : ImportedScope) (imports : List (ModuleName × Digest)) :
    Follows (Interface.changedImport?
        (fun imported => return (← importer scope imported).interface.fullHash) imports)
      (Interface.changedImport? (Setup.currentHash importer' scope) imports) m := by
  induction imports generalizing m with
  | nil => exact follows_pure _
  | cons e rest ih =>
    obtain ⟨module, recorded⟩ := e
    unfold Interface.changedImport?
    have hcurrent : Follows (do return (← importer scope module).interface.fullHash)
        (Setup.currentHash importer' scope module) m :=
      (himporter scope module m rfl).then fun entry _ _ _ => follows_pure entry.interface.fullHash
    refine hcurrent.then fun hash m' hstack _ => ?_
    split
    · exact ih (hstack ▸ himporter)
    · exact follows_pure _

theorem follows_validate (target : Target) (scope : ImportedScope) :
    Follows (validate setup importer target scope) (setup.validate importer' target scope) m := by
  unfold validate Setup.validate
  refine (follows_still (Setup.still_stored target)).then fun r m₁ hstack₁ _ => ?_
  cases r with
  | error reason => exact follows_pure _
  | ok i =>
    dsimp only
    cases i.localStaleness? target.name target.source.hash setup.settings.options.fingerprint with
    | some reason => exact follows_pure _
    | none =>
      refine (follows_changedImport? (hstack₁ ▸ himporter) scope i.imports).then
        fun reason m₂ _ _ => ?_
      cases reason with
      | some reason => exact follows_pure _
      | none =>
        exact (follows_still (Load.still_keep target.name i)).then fun _ _ _ _ => follows_pure _

theorem follows_importInto (context : CheckContext) (imported : ModuleName) :
    Follows (importInto setup importer context imported)
      (setup.importInto importer' context imported) m := by
  rw [importInto_eq, Setup.importInto_eq]
  exact (himporter context.scope imported m rfl).outcome.then fun _ _ _ _ => follows_pure _

theorem follows_answer (context : CheckContext) (request : Request) :
    Follows (answer setup importer context request) (setup.answer importer' context request) m := by
  cases request with
  | resolve imported => exact follows_importInto himporter context imported
  | context => exact follows_pure _
  | setOptions options => exact follows_pure _
  | warn warning => exact follows_pure _
  | read path => exact (follows_still Load.still_disk).then fun _ _ _ _ => follows_pure _
  | edit change => exact (follows_still (Load.still_edit change)).then fun _ _ _ _ => follows_pure _
  | note text => exact (follows_record (.note text)).then fun _ _ _ _ => follows_pure _

/-- The run of a check, by induction on its requests. -/
theorem follows_check {α : Type} (check : Check α) (context : CheckContext) :
    Follows (Exec.check setup importer context check) (setup.run importer' context check) m := by
  induction check generalizing context m with
  | done result => exact follows_pure _
  | fail error => exact follows_throw error
  | ask request next ih =>
    exact (follows_answer himporter context request).then fun r _ hstack _ =>
      ih r.1 (hstack ▸ himporter) r.2

theorem follows_build (target : Target) (mode : CheckMode) (scope : ImportedScope) :
    Follows (build setup importer target mode scope) (setup.build importer' target mode scope) m := by
  unfold build Setup.build
  refine (follows_record (.checking target.name mode)).then fun _ m₁ hstack₁ _ => ?_
  refine (follows_check (hstack₁ ▸ himporter) _ _).then fun r m₂ _ _ => ?_
  obtain ⟨checked, context⟩ := r
  dsimp only
  split
  · generalize ((setup.interfaceOf target checked context).sealed setup.codec).mapError
      LoadError.cache = sealed
    refine (follows_ofExcept sealed).then fun i m₃ _ _ => ?_
    split
    · exact (follows_still (Setup.still_persist target i)).then fun _ _ _ _ => follows_pure _
    · exact follows_pure _
  · exact follows_throw _

/-- A target is checked again and again, each time in a copy of the machine. -/
theorem follows_rebuild (scope : ImportedScope) (left : Nat) (target : Target) :
    Follows (rebuild setup importer scope left target) (setup.rebuild importer' scope left target)
      m := by
  induction left generalizing target m with
  | zero => exact follows_throw _
  | succ left ih =>
    unfold rebuild Setup.rebuild
    -- The copy has a scope of its own, but the same stack.
    have hfork : Follows (build setup importer target .batch scope)
        (setup.build importer' target .batch scope) { m with scope := ∅ } :=
      follows_build (m := { m with scope := ∅ }) himporter target .batch scope
    refine (follows_inFork hfork).then fun built m₁ hstack₁ _ => ?_
    split
    · refine (follows_still (Setup.still_refresh target)).then fun target' m₂ hstack₂ _ => ?_
      have himporter₂ : Importer.Follows m₂.stack importer importer' :=
        hstack₂ ▸ hstack₁ ▸ himporter
      refine (follows_validate himporter₂ target' scope).then fun r m₃ hstack₃ _ => ?_
      cases r with
      | ok i => exact follows_pure _
      | error reason => exact ih (hstack₃ ▸ himporter₂) target'
    · exact follows_pure _

theorem follows_obtain (scope : ImportedScope) (target : Target) :
    Follows (obtain setup importer scope target) (setup.obtain importer' scope target) m := by
  unfold obtain Setup.obtain
  refine (follows_validate himporter target scope).then fun r m₁ hstack₁ _ => ?_
  cases r with
  | ok i => exact follows_pure _
  | error reason =>
    exact (follows_rebuild (hstack₁ ▸ himporter) scope setup.attempts target).then
      fun _ _ _ _ => follows_pure _

theorem follows_settleImport (scope : ImportedScope) (module : ModuleName) :
    Follows (settleImport setup importer scope module) (setup.settleImport importer' scope module)
      m := by
  unfold settleImport Setup.settleImport
  refine (follows_visited? module).then fun known m₁ hstack₁ _ => ?_
  cases known with
  | some entry => exact follows_pure _
  | none =>
    refine (follows_still Setup.still_locate).then fun target m₂ hstack₂ _ => ?_
    refine (follows_obtain (hstack₂ ▸ hstack₁ ▸ himporter) scope target).then fun entry _ _ _ => ?_
    exact (follows_settle module entry).then fun _ _ _ _ => follows_pure _

end Importing

/-- **A machine resolves imports as a load does**, to every depth. -/
theorem follows_resolve (setup : Setup) (depth : Nat) (stack : ImportStack) :
    Importer.Follows stack.frames (resolve setup depth) (setup.resolve depth stack) := by
  induction depth generalizing stack with
  | zero => exact fun _ _ _ _ => follows_exhausted
  | succ depth ih =>
    intro scope module m hstack
    rw [Setup.resolve_succ]
    unfold resolve Setup.resolveStep
    have hframe : Follows (withFrame module (settleImport setup (resolve setup depth) scope module))
        (Setup.entering stack module fun stack =>
          setup.settleImport (setup.resolve depth stack) scope module) m := by
      refine tracks_withFrame hstack (fun _ => ⟨rfl, rfl⟩) fun pushed m' _ hframes hscope => ?_
      rw [← hscope]
      exact follows_settleImport (hframes ▸ ih pushed) scope module
    refine hframe.then fun entry _ _ _ => ?_
    split
    · exact follows_pure _
    · exact follows_throw _

/-! ## Entry modules -/

/-- **The scope agrees with the one that a load gives**, if it has a result. After a failure it may be
anything. -/
def Delivers : Except LoadError (α × ImportedScope) → Except LoadError α → ImportedScope → Prop
  | .ok (a, scope), r, scope' => r = .ok a ∧ scope' = scope
  | .error e, r, _ => r = .error e

/-- A machine that looks at itself first. -/
theorem tracks_get {next : Machine → Exec α} {load : Load (α × ImportedScope)}
    (h : Tracks Delivers (next m) load m) : Tracks Delivers (get >>= next) load m :=
  ⟨h.runs⟩

/-- A part that ends with a result and a scope, both of them plain to see. -/
theorem tracks_of_run {exec : Exec α} {load : Load (α × ImportedScope)}
    {result : Except LoadError (α × ImportedScope)} {r : Except LoadError α} {scope : ImportedScope}
    (hload : load.run.run m.loadState = some (result, m.loadState))
    (hexec : exec.run.run m = some (r, { m with scope })) (hagree : Delivers result r scope) :
    Tracks Delivers exec load m := by
  refine ⟨fun _ => ?_⟩
  rw [hload]
  refine ⟨r, scope, [], ?_, hagree, .refl _, nofun⟩
  rw [hexec, Machine.after, List.append_nil]
  rfl

/-- An interface is merged, or the scope is left as it is. -/
theorem run_merge (i : Interface) (m : Machine) :
    (merge i).run.run m = some (
      match m.scope.merge i with
      | .ok scope => (.ok (), { m with scope })
      | .error e => (.error e, m)) := by
  unfold merge
  rw [run_bind, show (get : Exec Machine).run.run m = some (.ok m, m) from rfl]
  dsimp only [Option.bind_some]
  cases m.scope.merge i <;> rfl

/-- **Interfaces are merged one after the other**, up to one that cannot be. -/
theorem run_forM_merge (is : List Interface) (m : Machine) :
    ∃ scope, (is.forM merge).run.run m
        = some ((is.foldlM ImportedScope.merge m.scope).map fun _ => (), { m with scope }) ∧
      ∀ merged, is.foldlM ImportedScope.merge m.scope = .ok merged → scope = merged := by
  induction is generalizing m with
  | nil => exact ⟨m.scope, rfl, fun merged h => Except.ok.inj h⟩
  | cons i is ih =>
    rw [show (i :: is).forM merge = (do merge i; is.forM merge) from rfl, run_bind, run_merge,
      List.foldlM_cons]
    cases hmerge : m.scope.merge i with
    | error e => exact ⟨m.scope, rfl, fun merged h => nomatch h⟩
    | ok scope => exact ih { m with scope }

/-- **The end of a load with an interface that is reused.** -/
theorem tracks_reuse (i : Interface) (warnings : List Diagnostic) :
    Tracks Delivers (do mergeWithImports i; return (⟨i, warnings⟩ : Loaded))
      (Setup.reuse m.scope i warnings) m := by
  obtain ⟨scope, hmerge, hscope⟩ := run_forM_merge (ImportedScope.reach m.caches.visited m.scope
    (ImportedScope.reachable m.caches.visited i) [i]).reverse m
  have hload : (Setup.reuse m.scope i warnings).run.run m.loadState
      = some ((m.scope.mergeWithImports m.caches.visited i).map fun merged => (⟨i, warnings⟩, merged),
        m.loadState) := by
    unfold Setup.reuse
    rw [Load.run_bind, Load.run_get]
    dsimp only [Option.bind_some]
    show (Load.ofExcept (m.scope.mergeWithImports m.caches.visited i) >>= _).run.run _ = _
    cases m.scope.mergeWithImports m.caches.visited i <;> rfl
  have hexec : (do mergeWithImports i; return (⟨i, warnings⟩ : Loaded) : Exec Loaded).run.run m
      = some ((m.scope.mergeWithImports m.caches.visited i).map fun _ => ⟨i, warnings⟩,
        { m with scope }) := by
    rw [run_bind, show (mergeWithImports i).run.run m = _ from hmerge]
    show _ = some ((List.foldlM ImportedScope.merge m.scope _).map _, _)
    cases (ImportedScope.reach m.caches.visited m.scope (ImportedScope.reachable m.caches.visited i)
      [i]).reverse.foldlM ImportedScope.merge m.scope <;> rfl
  refine tracks_of_run hload hexec ?_
  cases hmerged : m.scope.mergeWithImports m.caches.visited i with
  | error e => exact rfl
  | ok merged => exact ⟨rfl, hscope merged hmerged⟩

/-- **The end of a load with an interface that has been checked** in a scope of its own. -/
theorem tracks_install (scope : ImportedScope) (i : Interface) :
    Tracks Delivers
      (do modify fun m => { m with scope }
          merge i
          return (⟨i, i.warnings⟩ : Loaded))
      (do let merged ← Load.ofExcept (scope.merge i)
          return ((⟨i, i.warnings⟩ : Loaded), merged)) m := by
  cases hmerge : scope.merge i with
  | error e =>
    have hexec : (do merge i; return (⟨i, i.warnings⟩ : Loaded) : Exec Loaded).run.run
        { m with scope } = some (.error e, { m with scope }) := by
      rw [run_bind, run_merge, hmerge]
      rfl
    exact tracks_of_run rfl hexec rfl
  | ok merged =>
    have hexec : (do merge i; return (⟨i, i.warnings⟩ : Loaded) : Exec Loaded).run.run
        { m with scope } = some (.ok ⟨i, i.warnings⟩, { m with scope := merged }) := by
      rw [run_bind, run_merge, hmerge]
      rfl
    exact tracks_of_run rfl hexec ⟨rfl, rfl⟩

section Entry

variable {setup : Setup} {importer : Importer} {importer' : ModuleLoader.Importer}
  (himporter : Importer.Follows m.stack importer importer')

/-- An entry module is settled, in a mode that settles. -/
theorem follows_settleEntry (mode : CheckMode) (module : ModuleName) (entry : VisitedEntry) :
    Follows (step (Setup.settleEntry mode module entry)) (Setup.settleEntry mode module entry) m := by
  refine follows_step fun s r s' hrun => ?_
  unfold Setup.settleEntry at hrun
  split at hrun
  · obtain ⟨-, rfl⟩ := Prod.mk.inj (Option.some.inj hrun)
    exact .record s.caches.visited module entry
  · obtain ⟨-, rfl⟩ := Prod.mk.inj (Option.some.inj hrun)
    exact .refl _

include himporter

theorem tracks_buildEntry (target : Target) (mode : CheckMode) :
    Tracks Delivers (buildEntry setup importer target mode)
      (setup.buildEntry importer' target mode m.scope) m := by
  unfold buildEntry Setup.buildEntry
  refine tracks_get ?_
  refine (follows_build himporter target mode m.scope).bind (fun _ => rfl) fun built m₁ _ _ => ?_
  refine (follows_settleEntry mode target.name _).bind (fun _ => rfl) fun _ m₂ _ _ => ?_
  exact tracks_install built.scope built.interface

theorem tracks_validateEntry (target : Target) (mode : CheckMode) :
    Tracks Delivers (validateEntry setup importer target mode)
      (setup.validateEntry importer' target mode m.scope) m := by
  unfold validateEntry Setup.validateEntry
  refine tracks_get ?_
  refine (follows_validate himporter target m.scope).bind (fun _ => rfl) fun r m₁ hstack hscope => ?_
  cases r with
  | ok i =>
    refine (follows_settleEntry mode target.name _).bind (fun _ => rfl) fun _ m₂ _ hscope₂ => ?_
    rw [← hscope, ← hscope₂]
    exact tracks_reuse i []
  | error reason =>
    rw [← hscope]
    exact tracks_buildEntry (hstack ▸ himporter) target mode

/-- **The machine loads an entry module as a load does**, given that it resolves imports so. -/
theorem tracks_loadFramed (module : ModuleName) (mode : CheckMode) :
    Tracks Delivers (loadFramed setup importer module mode)
      (setup.loadEntry importer' m.scope module mode) m := by
  unfold loadFramed Setup.loadEntry
  refine (follows_visited? module).bind (fun _ => rfl) fun known m₁ hstack₁ hscope₁ => ?_
  rw [← hscope₁]
  have htarget : Tracks Delivers
      (do let located ← step (setup.locate module)
          let target ← step (Setup.refreshFor mode located)
          if mode.retainsPrivate then buildEntry setup importer target mode
          else validateEntry setup importer target mode)
      (setup.loadTarget importer' m₁.scope module mode) m₁ := by
    unfold Setup.loadTarget
    refine (follows_still Setup.still_locate).bind (fun _ => rfl) fun located m₂ hstack₂ hscope₂ => ?_
    refine (follows_still (Setup.still_refreshFor mode located)).bind (fun _ => rfl)
      fun target m₃ hstack₃ hscope₃ => ?_
    have himporter₃ : Importer.Follows m₃.stack importer importer' :=
      hstack₃ ▸ hstack₂ ▸ hstack₁ ▸ himporter
    rw [← hscope₂, ← hscope₃]
    split
    · exact tracks_buildEntry himporter₃ target mode
    · exact tracks_validateEntry himporter₃ target mode
  cases known with
  | none => exact htarget
  | some entry =>
    cases hmode : mode.retainsPrivate with
    | true => rw [hmode] at htarget; exact htarget
    | false => exact tracks_reuse entry.interface entry.interface.warnings

end Entry

/-- **What a load of an entry module comes to**: what it comes to with the module on the stack and
forgotten, except that a failure puts the scope back. -/
theorem run_loadEntry (setup : Setup) (importer : Importer) (module : ModuleName) (mode : CheckMode)
    (m : Machine) :
    (loadEntry setup importer module mode).run.run m
      = ((withFrame module (loadFramed setup importer module mode)).run.run
          { m with scope := m.scope.forget module }).map fun r =>
        match r.1 with
        | .ok loaded => (.ok loaded, r.2)
        | .error e => (.error e, { r.2 with scope := m.scope }) := by
  unfold loadEntry
  rw [run_bind, show (get : Exec Machine).run.run m = some (.ok m, m) from rfl]
  dsimp only [Option.bind_some]
  rw [run_bind, show (modify fun m => { m with scope := m.scope.forget module } : Exec Unit).run.run m
    = some (.ok (), { m with scope := m.scope.forget module }) from rfl]
  dsimp only [Option.bind_some]
  rw [run_bind, run_outcome]
  cases (withFrame module (loadFramed setup importer module mode)).run.run
      { m with scope := m.scope.forget module } with
  | none => rfl
  | some p =>
    obtain ⟨r, m'⟩ := p
    cases r <;> rfl

end Exec

/-! ## Sessions -/

namespace Session

variable {s : Session} {depth : Nat} {module : ModuleName} {mode : CheckMode} {world : World}

/-- **A session that is driven step by step loads as it does**: there is an outcome just if there is
one, and it is the same one. The stack is what it was before, a failure leaves the scope as it was,
and every moment on the way has followed on the start. -/
theorem drive_spec (depth : Nat) (s : Session) (module : ModuleName) (mode : CheckMode)
    (world : World) :
    match s.loadWithin depth module mode world with
    | none => s.drive depth module mode world = none
    | some (result, s', world') =>
        s' = { s with caches := s'.caches, scope := s'.scope } ∧
        (∀ e, result = .error e → s'.scope = s.scope) ∧
        s.caches.visited.Grows s'.caches.visited ∧
        ∃ trail, s.drive depth module mode world
            = some (result, ⟨s.stack.frames, s'.caches, s'.scope, world', trail⟩) ∧
          ∀ moment ∈ trail, moment.Follows (s.machine world) := by
  let start : Machine := { s.machine world with scope := s.scope.forget module }
  have hframe : Exec.Tracks Exec.Delivers
      (Exec.withFrame module (Exec.loadFramed s.setup (Exec.resolve s.setup depth) module mode))
      (Setup.entering s.stack module fun stack =>
        s.setup.loadEntry (s.setup.resolve depth stack) (s.scope.forget module) module mode) start := by
    refine Exec.tracks_withFrame rfl (fun _ => rfl) fun pushed m _ hstack hscope => ?_
    rw [show s.scope.forget module = m.scope from hscope.symm]
    exact Exec.tracks_loadFramed (hstack ▸ Exec.follows_resolve s.setup depth pushed) module mode
  have hruns := hframe.runs s.stack.nodup
  unfold drive loadWithin
  rw [Exec.run_loadEntry]
  rw [show start.loadState = ⟨s.caches, world⟩ from rfl] at hruns
  dsimp only
  cases hload : (Setup.entering s.stack module fun stack =>
      s.setup.loadEntry (s.setup.resolve depth stack) (s.scope.forget module) module mode).run.run
        ⟨s.caches, world⟩ with
  | none =>
    rw [hload] at hruns
    exact congrArg (Option.map _) hruns
  | some p =>
    obtain ⟨r, state⟩ := p
    rw [hload] at hruns
    obtain ⟨r', scope, steps, hexec, hagree, hgrows, hsteps⟩ := hruns
    -- Stack and settled modules were the same before the module was forgotten.
    have hmoments : ∀ moment ∈ steps, moment.Follows (s.machine world) := fun moment h =>
      (hsteps moment h).of_later (List.prefix_refl _) (.refl _)
    cases r with
    | ok result =>
      obtain ⟨loaded, scope'⟩ := result
      obtain ⟨rfl, rfl⟩ := hagree
      exact ⟨rfl, nofun, hgrows, steps, congrArg (Option.map _) hexec, hmoments⟩
    | error e =>
      obtain rfl := hagree
      exact ⟨rfl, fun _ _ => rfl, hgrows, steps, congrArg (Option.map _) hexec, hmoments⟩

end Session

end ModuleLoader
