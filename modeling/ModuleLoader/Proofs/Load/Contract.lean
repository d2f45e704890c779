import ModuleLoader.Proofs.Check.Transcript
import ModuleLoader.Proofs.Load.Ensures
import ModuleLoader.Session

/-!
# What a load maintains

A load is a long way from its single steps, and whatever is to hold of all of them should be shown
of the steps alone. A `Setup.Contract` lists what has to be shown: that the steps which settle
nothing keep an invariant, that a stored interface which passes the two tests for staleness fits its
module, and that one which a check has led to does. *To fit* is up to the contract. In return,
`Setup.Contract.load` says that every load keeps the invariant, whether it succeeds or fails.

Two things hold of every contract and are shown along with it. What is settled stays settled, in the
order in which it was settled, and none of the modules in progress is settled meanwhile
(`LoadState.Extends`). And an import that is resolved is settled then, and importable
(`LoadState.Knows`).
-/

namespace ModuleLoader

/-! ## Settled modules along a load -/

namespace LoadState

/-- **Modules were settled after the others**, and none of the given ones was. -/
def Extends (frames : List ModuleName) (s s' : LoadState) : Prop :=
  ∃ new, s'.caches.visited.entries = s.caches.visited.entries ++ new ∧ ∀ e ∈ new, e.1 ∉ frames

/-- **A module can be imported**: it is settled, with an entry that allows that. -/
def Knows (s : LoadState) (module : ModuleName) (entry : VisitedEntry) : Prop :=
  s.caches.visited.get? module = some entry ∧ entry.importable = true

/-- A module is known by one entry. -/
theorem Knows.unique {s : LoadState} {module : ModuleName} {entry entry' : VisitedEntry}
    (h : s.Knows module entry) (h' : s.Knows module entry') : entry = entry' :=
  Option.some.inj (h.1.symm.trans h'.1)

namespace Extends

variable {frames : List ModuleName} {s₁ s₂ s₃ : LoadState}

theorem of_eq (h : s₂.caches.visited = s₁.caches.visited) : Extends frames s₁ s₂ :=
  ⟨[], by rw [h, List.append_nil], nofun⟩

theorem refl (frames : List ModuleName) (s : LoadState) : Extends frames s s := of_eq rfl

theorem trans (h : Extends frames s₁ s₂) (h' : Extends frames s₂ s₃) : Extends frames s₁ s₃ := by
  obtain ⟨new, heq, hnew⟩ := h
  obtain ⟨new', heq', hnew'⟩ := h'
  refine ⟨new ++ new', by rw [heq', heq, List.append_assoc], fun e he => ?_⟩
  obtain he | he := List.mem_append.1 he
  · exact hnew e he
  · exact hnew' e he

/-- With fewer modules in progress there is less to exclude. -/
theorem of_subset {frames' : List ModuleName} (hsubset : frames ⊆ frames')
    (h : Extends frames' s₁ s₂) : Extends frames s₁ s₂ := by
  obtain ⟨new, heq, hnew⟩ := h
  exact ⟨new, heq, fun e he hframe => hnew e he (hsubset hframe)⟩

/-- **What is settled stays settled.** -/
theorem get? (h : Extends frames s₁ s₂) {module : ModuleName} {entry : VisitedEntry}
    (hget : s₁.caches.visited.get? module = some entry) :
    s₂.caches.visited.get? module = some entry := by
  obtain ⟨new, heq, -⟩ := h
  unfold VisitedCache.get? at hget ⊢
  rw [heq, List.lookup_append, hget]
  rfl

/-- **A module in progress is not settled** on the way. -/
theorem get?_eq_none (h : Extends frames s₁ s₂) {module : ModuleName} (hmem : module ∈ frames)
    (hget : s₁.caches.visited.get? module = none) :
    s₂.caches.visited.get? module = none := by
  obtain ⟨new, heq, hnew⟩ := h
  unfold VisitedCache.get? at hget ⊢
  rw [heq, List.lookup_append, hget, Option.none_or, List.lookup_eq_none_iff]
  intro e he
  refine bne_iff_ne.2 ?_
  rintro rfl
  exact hnew e he hmem

theorem knows (h : Extends frames s₁ s₂) {module : ModuleName} {entry : VisitedEntry}
    (hknows : s₁.Knows module entry) : s₂.Knows module entry :=
  ⟨h.get? hknows.1, hknows.2⟩

end Extends

/-! ### The steps that change the state -/

/-- The state with one more event in the journal. -/
def record (s : LoadState) (event : Event) : LoadState :=
  { s with world := s.world.record event }

/-- The state at the next access to the disk. -/
def access (s : LoadState) : LoadState := { s with world := s.world.next }

/-- The state with an interface kept for a module. -/
def keep (s : LoadState) (module : ModuleName) (i : Interface) : LoadState :=
  { s with caches := { s.caches with decoded := s.caches.decoded.insert module i } }

/-- The state with a module settled. -/
def settle (s : LoadState) (module : ModuleName) (entry : VisitedEntry) : LoadState :=
  { s with caches := { s.caches with visited := s.caches.visited.record module entry } }

/-- A module that is settled for the first time is found with its entry. -/
theorem get?_settle {s : LoadState} {module : ModuleName}
    (h : s.caches.visited.get? module = none) (entry : VisitedEntry) :
    (s.settle module entry).caches.visited.get? module = some entry := by
  show (s.caches.visited.record module entry).get? module = some entry
  rw [VisitedCache.get?_record, h, if_pos rfl]
  rfl

/-- A module that is settled for the first time goes to the end. -/
theorem entries_settle {s : LoadState} {module : ModuleName}
    (h : s.caches.visited.get? module = none) (entry : VisitedEntry) :
    (s.settle module entry).caches.visited.entries
      = s.caches.visited.entries ++ [(module, entry)] := by
  show (s.caches.visited.record module entry).entries = _
  unfold VisitedCache.record VisitedCache.contains
  rw [h]
  rfl

/-- Settling a module that is not among those in progress. One that was settled before stays so. -/
theorem Extends.settle {frames : List ModuleName} {s : LoadState} {module : ModuleName}
    {entry : VisitedEntry} (hnew : module ∉ frames) :
    Extends frames s (s.settle module entry) := by
  cases hget : s.caches.visited.get? module with
  | none =>
    refine ⟨[(module, entry)], entries_settle hget entry, fun e he => ?_⟩
    rw [List.mem_singleton.1 he]
    exact hnew
  | some earlier =>
    refine .of_eq ?_
    show s.caches.visited.record module entry = _
    unfold VisitedCache.record VisitedCache.contains
    rw [hget]
    rfl

end LoadState

namespace Load

variable {α β : Type} {inv : LoadState → Prop} {frames : List ModuleName} {load : Load α}
  {s : LoadState} {ok ok' : α → LoadState → Prop}

/-- **A load maintains an invariant** while some modules are in progress, and what holds of its
result. -/
def Maintains (inv : LoadState → Prop) (frames : List ModuleName) (load : Load α) (s : LoadState)
    (ok : α → LoadState → Prop) : Prop :=
  load.Ensures s (fun a s' => inv s' ∧ LoadState.Extends frames s s' ∧ ok a s')
    (fun _ s' => inv s' ∧ LoadState.Extends frames s s')

namespace Maintains

theorem mono (h : load.Maintains inv frames s ok)
    (hok : ∀ a s', inv s' → LoadState.Extends frames s s' → ok a s' → ok' a s') :
    load.Maintains inv frames s ok' :=
  Ensures.mono_ok h fun a s' ⟨hinv, hext, ha⟩ => ⟨hinv, hext, hok a s' hinv hext ha⟩

/-- One load after another, the first one while more modules are in progress. -/
theorem bind_of_subset {frames' : List ModuleName} {next : α → Load β}
    {ok' : β → LoadState → Prop} (hsubset : frames ⊆ frames')
    (h : load.Maintains inv frames' s ok)
    (hnext : ∀ a s', inv s' → LoadState.Extends frames' s s' → ok a s' →
      (next a).Maintains inv frames s' ok') : (load >>= next).Maintains inv frames s ok' := by
  refine ensures_bind.2 (Ensures.mono h (fun a s' ⟨hinv, hext, ha⟩ => ?_)
    (fun e s' ⟨hinv, hext⟩ => ⟨hinv, hext.of_subset hsubset⟩))
  exact Ensures.mono (hnext a s' hinv hext ha)
    (fun b s'' ⟨hinv', hext', hb⟩ => ⟨hinv', (hext.of_subset hsubset).trans hext', hb⟩)
    (fun e s'' ⟨hinv', hext'⟩ => ⟨hinv', (hext.of_subset hsubset).trans hext'⟩)

/-- One load after another. -/
theorem bind {next : α → Load β} {ok' : β → LoadState → Prop}
    (h : load.Maintains inv frames s ok)
    (hnext : ∀ a s', inv s' → LoadState.Extends frames s s' → ok a s' →
      (next a).Maintains inv frames s' ok') : (load >>= next).Maintains inv frames s ok' :=
  h.bind_of_subset (List.Subset.refl frames) hnext

/-- A load whose outcome is plain to see, and another one after it. -/
theorem after {next : α → Load β} {ok' : β → LoadState → Prop} {a : α} {s' : LoadState}
    (hrun : load.run.run s = some (.ok a, s')) (hext : LoadState.Extends frames s s')
    (h : (next a).Maintains inv frames s' ok') :
    (load >>= next).Maintains inv frames s ok' := by
  intro r s'' hboth
  rw [run_bind, hrun] at hboth
  have hnext := h r s'' hboth
  cases r with
  | ok b => exact ⟨hnext.1, hext.trans hnext.2.1, hnext.2.2⟩
  | error e => exact ⟨hnext.1, hext.trans hnext.2⟩

/-- A load that plainly fails, whatever was to come after it. -/
theorem after_failure {next : α → Load β} {ok' : β → LoadState → Prop} {e : LoadError}
    {s' : LoadState} (hrun : load.run.run s = some (.error e, s'))
    (hext : LoadState.Extends frames s s') (hinv : inv s') :
    (load >>= next).Maintains inv frames s ok' := by
  intro r s'' hboth
  rw [run_bind, hrun] at hboth
  obtain ⟨rfl, rfl⟩ := Prod.mk.inj (Option.some.inj hboth)
  exact ⟨hinv, hext⟩

/-- A load that plainly ends, with a result of which something holds. -/
theorem of_run {a : α} {s' : LoadState} (hrun : load.run.run s = some (.ok a, s'))
    (hext : LoadState.Extends frames s s') (hinv : inv s') (hok : ok a s') :
    load.Maintains inv frames s ok :=
  Ensures.of_run hrun ⟨hinv, hext, hok⟩

theorem pure {a : α} (hinv : inv s) (hok : ok a s) : (pure a : Load α).Maintains inv frames s ok :=
  ensures_pure.2 ⟨hinv, .refl frames s, hok⟩

theorem throw {e : LoadError} (hinv : inv s) : (throw e : Load α).Maintains inv frames s ok :=
  ensures_throw.2 ⟨hinv, .refl frames s⟩

/-- A failure that is looked at is no failure any more. -/
theorem outcome (h : load.Maintains inv frames s ok) :
    load.outcome.Maintains inv frames s fun r s' => ∀ a, r = .ok a → ok a s' := by
  refine ensures_outcome.2 (Ensures.mono h (fun a s' ⟨hinv, hext, ha⟩ => ⟨hinv, hext, ?_⟩)
    (fun e s' ⟨hinv, hext⟩ => ⟨hinv, hext, nofun⟩))
  rintro a' h
  rw [← Except.ok.inj h]
  exact ha

end Maintains

end Load

namespace Setup

/-- **To import a module into a context** is to resolve it. What has come of that decides on the answer
and the context. -/
theorem importInto_eq (setup : Setup) (importer : Importer) (context : CheckContext)
    (imported : ModuleName) :
    setup.importInto importer context imported
      = (importer context.scope imported).outcome >>= fun resolved =>
        pure (context.afterImport setup.compatibility imported resolved) := by
  unfold importInto
  refine bind_congr fun resolved => ?_
  cases resolved with
  | error e => rfl
  | ok entry =>
    dsimp only [CheckContext.afterImport]
    cases context.addImport setup.compatibility imported entry <;> rfl

/-- The outcome of importing a module into a context. -/
theorem run_importInto (setup : Setup) (importer : Importer) (context : CheckContext)
    (imported : ModuleName) (s : LoadState) :
    (setup.importInto importer context imported).run.run s
      = ((importer context.scope imported).run.run s).map fun r =>
        (.ok (context.afterImport setup.compatibility imported r.1), r.2) := by
  rw [importInto_eq, Load.run_bind, Load.run_outcome]
  cases (importer context.scope imported).run.run s <;> rfl

end Setup

/-- **A way of importing maintains an invariant**, asked for modules that may be asked for: what it
answers with is known afterwards. -/
def Importer.Maintains (inv : LoadState → Prop) (wanted : ModuleName → Prop)
    (frames : List ModuleName) (importer : Importer) : Prop :=
  ∀ scope module s, wanted module → inv s →
    (importer scope module).Maintains inv frames s fun entry s' => s'.Knows module entry

/-- A target is that of a module: name and place of the module, whatever its source. -/
structure Setup.IsTarget (setup : Setup) (module : ModuleName) (target : Target) : Prop where
  /-- Its name. -/
  name : target.name = module
  /-- Whether it is built in. -/
  isPrimitive : target.isPrimitive = setup.settings.isPrimitive module

/-- **What is to be shown of the steps of a load** for an invariant to hold along all of it. -/
structure Setup.Contract (setup : Setup) (inv : LoadState → Prop) where
  /-- What holds of a target that has been located. -/
  located : Target → Prop
  /-- What holds of an interface that is stored for a target, up to date or not, when some modules
  are settled. -/
  stored : VisitedCache → Target → Interface → Prop
  /-- What holds of the entry of a module when others are settled. -/
  fit : VisitedCache → ModuleName → VisitedEntry → Prop
  /-- What checks may ask for, and what they are given. -/
  rule : Check.Rule
  /-- They abide by it. -/
  abides {target : Target} (mode : CheckMode) : located target →
    (setup.checker target.name target.source mode).Abides rule
  /-- What is known is given to them. -/
  grant {s : LoadState} {module : ModuleName} {entry : VisitedEntry} : inv s →
    s.Knows module entry → rule.granted module entry.interface
  /-- An event is recorded. -/
  record {s : LoadState} (event : Event) : inv s → inv (s.record event)
  /-- The disk is accessed. -/
  access {s : LoadState} : inv s → inv s.access
  /-- A permitted change is made. -/
  edit {s : LoadState} {change : Disk → Except DiskFault Disk} {frames : List ModuleName} :
    inv s → rule.permitted change → (Load.edit change).Maintains inv frames s fun _ _ => True
  /-- A module is located. -/
  locate {s : LoadState} {frames : List ModuleName} {module : ModuleName} : inv s →
    rule.wanted module → (setup.locate module).Maintains inv frames s fun target _ =>
      setup.IsTarget module target ∧ located target
  /-- The source of a target is read again. -/
  refresh {s : LoadState} {target : Target} {frames : List ModuleName} : inv s → located target →
    (Setup.refresh target).Maintains inv frames s fun target' _ =>
      (∀ module, setup.IsTarget module target → setup.IsTarget module target') ∧ located target'
  /-- What is stored for a target is read. -/
  read {s : LoadState} {target : Target} {frames : List ModuleName} : inv s → located target →
    (setup.stored target).Maintains inv frames s fun result s' =>
      ∀ i, result = .ok i → stored s'.caches.visited target i
  /-- The imports that a stored interface records may be asked for. -/
  recorded {visited : VisitedCache} {target : Target} {i : Interface} : stored visited target i →
    ∀ e ∈ i.imports, rule.wanted e.1
  /-- **A stored interface that is up to date fits.** -/
  reuse {s : LoadState} {target : Target} {i : Interface} : inv s → located target →
    target.isPrimitive = setup.settings.isPrimitive target.name →
    stored s.caches.visited target i →
    i.localStaleness? target.name target.source.hash setup.settings.options.fingerprint = none →
    (∀ e ∈ i.imports, ∃ entry, s.Knows e.1 entry ∧ entry.interface.fullHash = e.2) →
    fit s.caches.visited target.name ⟨i, false, target.isPrimitive⟩
  /-- **An interface that a check has led to fits.** -/
  built {s : LoadState} {target : Target} {i : Interface} {checked : CheckedModule}
      {scope : ImportedScope} {context : CheckContext} : inv s → located target →
    target.isPrimitive = setup.settings.isPrimitive target.name →
    (setup.checker target.name target.source .batch).Went setup.compatibility s.Knows
      (.start setup.settings.options scope) checked context →
    checked.name = target.name →
    (setup.interfaceOf target checked context).sealed setup.codec = .ok i →
    fit s.caches.visited target.name ⟨i, i.hasWarnings, target.isPrimitive⟩
  /-- An interface that fits is kept. -/
  keep {s : LoadState} {module : ModuleName} {i : Interface} : inv s →
    fit s.caches.visited module ⟨i, false, setup.settings.isPrimitive module⟩ →
    inv (s.keep module i)
  /-- An interface that fits is written, and what is read back is the same. -/
  persist {s : LoadState} {target : Target} {i : Interface} {frames : List ModuleName} : inv s →
    located target → target.isPrimitive = setup.settings.isPrimitive target.name →
    fit s.caches.visited target.name ⟨i, false, target.isPrimitive⟩ →
    (setup.persist target i).Maintains inv frames s fun durable _ => durable = i
  /-- An entry that fits is settled. -/
  settle {s : LoadState} {module : ModuleName} {entry : VisitedEntry} : inv s →
    s.caches.visited.get? module = none → fit s.caches.visited module entry →
    inv (s.settle module entry)
  /-- What is stored is no worse when more is settled. -/
  stored_mono {s s' : LoadState} {frames : List ModuleName} {target : Target} {i : Interface} :
    LoadState.Extends frames s s' → stored s.caches.visited target i →
    stored s'.caches.visited target i
  /-- An entry goes on fitting when more is settled. -/
  fit_mono {s s' : LoadState} {frames : List ModuleName} {module : ModuleName}
      {entry : VisitedEntry} :
    LoadState.Extends frames s s' → fit s.caches.visited module entry →
    fit s'.caches.visited module entry
  /-- What is reused as free of warnings may be settled with the warnings it has. -/
  fit_hasWarnings {s : LoadState} {module : ModuleName} {i : Interface} {isPrimitive : Bool} :
    inv s → fit s.caches.visited module ⟨i, false, isPrimitive⟩ →
    fit s.caches.visited module ⟨i, i.hasWarnings, isPrimitive⟩

end ModuleLoader
