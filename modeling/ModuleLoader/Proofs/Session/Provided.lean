import ModuleLoader.Proofs.Scope.Merge
import ModuleLoader.Proofs.Session.Fresh

/-!
# Loads that cannot fail

That a load succeeds takes three things: an interface is derived for the module, artifacts can be
written, and no two of the modules that it reaches bind a builtin differently
(`Toolchain.ConflictFree`). Then it succeeds whatever artifacts of this edition are on disk
(`Season.Orderly.exists_loads`).

Nothing can go wrong on the way. A check is granted its imports and follows its recipe to the
interface that is derived; whatever is merged agrees with the rest; what is written is up to date at
once; and no module imports one that is in progress. How deep a load goes is bounded, for going along
imports ends.
-/

namespace ModuleLoader

open Load Relation

/-- **A module is free of conflicts** if no two of the modules that it reaches bind a builtin
differently. -/
def Toolchain.ConflictFree (t : Toolchain) (edition : Edition) (module : ModuleName) : Prop :=
  ∀ x y e e', ReflTransGen (t.Imports edition) module x → ReflTransGen (t.Imports edition) module y →
    t.Derives edition x e → t.Derives edition y e' → e.interface.Agrees e'.interface

/-- There is at least one attempt to rebuild a module. -/
theorem Setup.attempts_pos (setup : Setup) : 0 < setup.attempts := by
  unfold attempts
  omega

/-- Of finitely many statements that hold from some number on, all hold from some number on. -/
theorem exists_bound {α : Type} {p : α → Nat → Prop} (list : List α)
    (h : ∀ a ∈ list, ∃ bound, ∀ n, bound ≤ n → p a n) :
    ∃ bound, ∀ a ∈ list, ∀ n, bound ≤ n → p a n := by
  induction list with
  | nil => exact ⟨0, nofun⟩
  | cons a rest ih =>
    obtain ⟨bound, ha⟩ := h a List.mem_cons_self
    obtain ⟨bound', hrest⟩ := ih fun b hb => h b (List.mem_cons_of_mem _ hb)
    refine ⟨max bound bound', fun b hb n hn => ?_⟩
    obtain rfl | hb := List.mem_cons.1 hb
    · exact ha n (Nat.le_trans (Nat.le_max_left _ _) hn)
    · exact hrest b hb n (Nat.le_trans (Nat.le_max_right _ _) hn)

namespace Season

variable {season : Season} {root module : ModuleName} {frames : List ModuleName}
  {importer : Importer} {s : LoadState} {scope : ImportedScope} {target : Target}
  {entry : VisitedEntry}

/-- **Artifacts can be written**: where a module is found, the interface that is derived for it is
written without a fault, if interfaces are written at all. -/
def Writable (season : Season) : Prop :=
  season.setup.settings.build.writeInterfaces = true → ∀ d ∈ season.disks,
    ∀ module ∈ season.modules, ∀ found, season.setup.finder module d = .ok found → ∀ entry,
      season.toolchain.Derives season.edition module entry → ∃ durable d',
        season.setup.store.write season.setup.codec
          (season.setup.store.interfacePath found.root module) entry.interface d = (.ok durable, d')

/-- **A state of an undisturbed load**, with interfaces of this edition only. -/
structure Quiet (season : Season) (s : LoadState) : Prop where
  /-- Caches and disk can be trusted. -/
  sound : season.Sound {season.edition} s
  /-- Nobody else is at work. -/
  alone : season.Alone s

/-- **A way of importing serves** while some modules are in progress. -/
structure Serves (season : Season) (frames : List ModuleName) (importer : Importer) : Prop where
  /-- It maintains what makes the caches trustworthy. -/
  maintains : importer.Maintains (season.Sound {season.edition}) (· ∈ season.modules) frames
  /-- It leaves trails. -/
  tracks : season.Tracks {season.edition} importer

/-- What is imported is known. -/
theorem Serves.imports (h : season.Serves frames importer) (scope : ImportedScope)
    (hmem : module ∈ season.modules) (hs : season.Quiet s) :
    (importer scope module).Ensures s (fun entry s' => season.Quiet s' ∧ s'.Knows module entry)
      fun _ _ => True :=
  ((h.maintains scope module s hmem hs.sound).and
    (h.tracks scope module s hmem hs.sound hs.alone)).mono
      (fun _ _ ⟨⟨hsound, _, hknows⟩, halone, _⟩ => ⟨⟨hsound, halone⟩, hknows⟩) fun _ _ _ => True.intro

/-- **A scope fits** if all of its contributions are interfaces that the root reaches. -/
def Fits (season : Season) (root : ModuleName) (scope : ImportedScope) : Prop :=
  ∀ i ∈ scope.contributions, ∃ x e, ReflTransGen (season.toolchain.Imports season.edition) root x ∧
    season.toolchain.Derives season.edition x e ∧ e.interface = i

/-- **What the root reaches can be merged** into a scope that fits. -/
theorem Fits.merge (hfits : season.Fits root scope)
    (hfree : season.toolchain.ConflictFree season.edition root)
    (hreaches : ReflTransGen (season.toolchain.Imports season.edition) root module)
    (hderives : season.toolchain.Derives season.edition module entry) :
    ∃ scope', scope.merge entry.interface = .ok scope' ∧ season.Fits root scope' := by
  obtain ⟨scope', hmerge⟩ := ImportedScope.exists_merge_eq_ok (s := scope) (i := entry.interface)
    fun j hj => by
      obtain ⟨x, e, hx, he, rfl⟩ := hfits j hj
      exact hfree x module e entry hx hreaches he hderives
  refine ⟨scope', hmerge, fun j hj => ?_⟩
  obtain hj | rfl := ImportedScope.mem_of_merge hmerge hj
  · exact hfits j hj
  · exact ⟨module, entry, hreaches, hderives, rfl⟩

/-- **A way of importing provides a module** to whatever the root reaches. -/
def Provides (season : Season) (root : ModuleName) (importer : Importer) (module : ModuleName) :
    Prop :=
  ∀ scope s, season.Fits root scope → season.Quiet s →
    (importer scope module).Succeeds s fun _ _ => True

namespace Orderly

variable (h : season.Orderly {season.edition})

/-! ## Checking -/

/-- **An import that is provided is granted.** -/
theorem succeeds_importInto (hserves : season.Serves frames importer)
    (hfree : season.toolchain.ConflictFree season.edition root)
    (hprovides : season.Provides root importer module)
    (hreaches : ReflTransGen (season.toolchain.Imports season.edition) root module)
    (hderives : season.toolchain.Derives season.edition module entry) {context : CheckContext}
    (hfits : season.Fits root context.scope) (hs : season.Quiet s) :
    (season.setup.importInto importer context module).Succeeds s fun r s' =>
      season.Quiet s' ∧ r.1 = .ok entry.interface ∧
      r.2.ledger = context.ledger.addImport season.setup.compatibility module entry ∧
      season.Fits root r.2.scope := by
  unfold Setup.importInto
  refine succeeds_bind.2 (Succeeds.outcome (((hprovides context.scope s hfits hs).and_ensures
    (hserves.imports context.scope hderives.mem hs)).mono ?_))
  rintro known s₁ ⟨-, hs₁, hknows⟩
  obtain rfl := (hs₁.sound.visited _ _ hknows.1).unique hderives
  obtain ⟨scope, hmerge, hfits'⟩ := hfits.merge hfree hreaches hderives
  cases hadd : context.addImport season.setup.compatibility module known with
  | error e => exact absurd (hmerge.symm.trans (CheckContext.addImport_eq_error hadd)) nofun
  | ok context' =>
    obtain ⟨scope', hmerge', rfl⟩ := CheckContext.addImport_eq_ok hadd
    obtain rfl := Except.ok.inj (hmerge.symm.trans hmerge')
    dsimp only
    rw [hadd]
    exact succeeds_pure.2 ⟨hs₁, rfl, rfl, hfits'⟩

include h

/-- **A check that is granted its imports comes to what its recipe comes to.** -/
theorem succeeds_run {α : Type} {check : Check α} {recipe : Recipe α}
    {known : ModuleName → VisitedEntry → Prop} {ledger ledger' : Ledger} {result : α}
    (hserves : season.Serves frames importer)
    (hfree : season.toolchain.ConflictFree season.edition root)
    (hfollows : check.Follows recipe) (habides : check.Abides season.strictRule)
    (hcomes : recipe.Comes season.setup.compatibility known ledger result ledger')
    (hknown : ∀ x e, known x e → season.toolchain.Derives season.edition x e ∧ e.importable = true ∧
      ReflTransGen (season.toolchain.Imports season.edition) root x ∧
      season.Provides root importer x)
    {context : CheckContext} (hledger : context.ledger = ledger)
    (hfits : season.Fits root context.scope) (hs : season.Quiet s) :
    (season.setup.run importer context check).Succeeds s fun r _ =>
      r.1 = result ∧ r.2.ledger = ledger' ∧ season.Fits root r.2.scope := by
  induction hfollows generalizing context s ledger with
  | done =>
    cases hcomes with
    | done => exact succeeds_pure.2 ⟨rfl, hledger, hfits⟩
  | fail => cases hcomes
  | @bring imported next rest _ ih =>
    cases hcomes with
    | @bring _ _ _ _ _ entry hentry hrest =>
      obtain ⟨hderives, himportable, hreaches, hprovides⟩ := hknown _ _ hentry
      cases habides with
      | resolve _ hgranted _ =>
        unfold Setup.run
        refine succeeds_bind.2 ((succeeds_importInto hserves hfree hprovides hreaches hderives hfits
          hs).mono ?_)
        rintro ⟨reply, context'⟩ s₁ ⟨hs₁, rfl, hledger', hfits'⟩
        exact ih entry.interface (hgranted _ ⟨entry, hderives, himportable, rfl⟩) hrest
          (hledger'.trans (by rw [hledger])) hfits' hs₁
  | see hnext ih =>
    cases hcomes with
    | see hcomes =>
      cases habides with
      | context habides =>
        subst hledger
        exact ih context (habides context) hcomes rfl hfits hs
  | setOptions hnext ih =>
    cases hcomes with
    | setOptions hcomes =>
      cases habides with
      | setOptions habides =>
        exact ih habides hcomes (by rw [← hledger]; rfl) hfits hs
  | warn hnext ih =>
    cases hcomes with
    | warn hcomes =>
      cases habides with
      | warn habides =>
        exact ih habides hcomes (by rw [← hledger]; rfl) hfits hs
  | @read path next recipe hnext ih =>
    cases habides with
    | read habides =>
      unfold Setup.run
      refine succeeds_bind.2 ⟨(s.world.disk.read path, context), s, ?_,
        ih _ (habides _) hcomes hledger hfits hs⟩
      show some (Except.ok (s.access.world.disk.read path, context), s.access) = _
      rw [hs.alone.access_eq]
      rfl
  | edit =>
    cases habides with
    | edit hpermitted _ => exact hpermitted.elim
  | @note text next recipe hnext ih =>
    cases habides with
    | note habides =>
      exact ih habides hcomes hledger hfits
        ⟨h.contract.record (.note text) hs.sound, hs.alone.of_eq rfl rfl rfl⟩

/-- **Checking a module succeeds** if the modules that it imports are provided. -/
theorem succeeds_build (hwritable : season.Writable) (hserves : season.Serves frames importer)
    (hfree : season.toolchain.ConflictFree season.edition root) (hlocated : season.Located target)
    (hderives : season.toolchain.Derives season.edition target.name entry)
    (hreaches : ReflTransGen (season.toolchain.Imports season.edition) root target.name)
    (hprovides : ∀ x, season.toolchain.Imports season.edition target.name x →
      season.Provides root importer x)
    (hfits : season.Fits root scope) (hs : season.Quiet s) :
    (season.setup.build importer target .batch scope).Succeeds s fun built _ =>
      season.Fits root built.scope := by
  obtain ⟨text, checked, ledger, htext, hcomes, hname, hsealed⟩ := hderives.restrict
  obtain rfl := Option.some.inj (htext.symm.trans hlocated.text?_eq)
  have hfollows := season.follows target.source.path hlocated.mem hlocated.text?_eq
  have hinsists := season.insists target.source.path hlocated.mem hlocated.text?_eq
  have hstrict := h.handsOff target.name hlocated.mem target.source.text hlocated.text?_eq
    target.source.path .batch
  have hs₁ := h.contract.record (.checking target.name .batch) hs.sound
  have halone₁ : season.Alone (s.record (.checking target.name .batch)) :=
    hs.alone.of_eq rfl rfl rfl
  have hledger : (CheckContext.start season.setup.settings.options scope).ledger
      = .start season.edition.options := by
    rw [season.options_eq]
    rfl
  have hrun := h.succeeds_run hserves hfree hfollows hstrict hcomes
    (fun x e ⟨hd, himportable, hlisted⟩ => ⟨hd, himportable,
      hreaches.tail (hderives.imports_iff.2 hlisted), hprovides x (hderives.imports_iff.2 hlisted)⟩)
    hledger hfits ⟨hs₁, halone₁⟩
  unfold Setup.build
  refine succeeds_bind.2 ⟨_, _, rfl, succeeds_bind.2 ((hrun.and_ensures ((h.contract.run
    hserves.maintains (h.contract.abides .batch hlocated) _ hs₁).and (h.tracked_run
      hserves.maintains hserves.tracks hfollows hinsists hstrict _ hs₁ halone₁))).mono ?_)⟩
  rintro ⟨checked', context⟩ s₂ ⟨⟨rfl, rfl, hfits'⟩, ⟨hs₂, -⟩, halone₂, -⟩
  dsimp only at hfits' ⊢
  have hseal : (season.setup.interfaceOf target checked' context).sealed season.setup.codec
      = .ok entry.interface := by
    unfold Toolchain.interfaceOf at hsealed
    rw [season.options_eq] at hsealed
    exact hsealed
  rw [if_pos hname, hseal]
  refine succeeds_bind.2 ⟨entry.interface, s₂, rfl, ?_⟩
  dsimp only
  split
  · rename_i hwrites
    unfold Setup.writes at hwrites
    rw [Bool.and_eq_true] at hwrites
    obtain ⟨found, hfound, hpath⟩ := hlocated.interfacePath
    obtain ⟨durable, d', hwrite⟩ := hwritable hwrites.2 _ hs₂.calm.disk _ hlocated.mem found
      (hfound _ hs₂.calm.disk) entry hderives
    have hpersist : (season.setup.persist target entry.interface).run.run s₂
        = some (.ok durable, (s₂.withDisk d').keep target.name durable) := by
      rw [Setup.run_persist, halone₂.access_eq, halone₂.nextDisk_eq, hpath, hwrite]
    exact succeeds_bind.2 ⟨durable, _, hpersist, succeeds_pure.2 hfits'⟩
  · exact succeeds_pure.2 hfits'

/-- What a check leaves, if it succeeds. -/
theorem quiet_build (hserves : season.Serves frames importer) (hlocated : season.Located target)
    (hprimitive : target.isPrimitive = season.setup.settings.isPrimitive target.name)
    (hframe : target.name ∈ frames) (scope : ImportedScope) (hs : season.Quiet s) :
    (season.setup.build importer target .batch scope).Ensures s
      (fun built s' => season.Quiet s' ∧
        season.toolchain.Derives season.edition target.name
          ⟨built.interface, built.interface.hasWarnings, target.isPrimitive⟩ ∧
        (built.persisted = true → season.setup.Holds s'.world.disk target.name built.interface ∧
          (∀ e ∈ built.interface.imports, importer.Recalls e.1) ∧
          s'.Current built.interface.imports))
      fun _ _ => True := by
  refine ((h.contract.build hserves.maintains hlocated hprimitive .batch scope hs.sound).and
    (h.tracked_build hserves.maintains hserves.tracks hlocated hframe scope hs.sound
      hs.alone)).mono ?_ fun _ _ _ => True.intro
  rintro built s' ⟨⟨hs', -, hfit⟩, halone', _, _, -, hpersisted, -⟩
  refine ⟨⟨hs', halone'⟩, ?_, hpersisted⟩
  have hderives := hfit rfl
  rw [hprimitive] at hderives ⊢
  exact hderives

/-- **A rebuild succeeds** at the first attempt. -/
theorem succeeds_rebuild (hwritable : season.Writable) (hserves : season.Serves frames importer)
    (hfree : season.toolchain.ConflictFree season.edition root) (hlocated : season.Located target)
    (hprimitive : target.isPrimitive = season.setup.settings.isPrimitive target.name)
    (hframe : target.name ∈ frames)
    (hderives : season.toolchain.Derives season.edition target.name entry)
    (hreaches : ReflTransGen (season.toolchain.Imports season.edition) root target.name)
    (hprovides : ∀ x, season.toolchain.Imports season.edition target.name x →
      season.Provides root importer x)
    (hfits : season.Fits root scope) (hs : season.Quiet s) {left : Nat} (hleft : 0 < left) :
    (season.setup.rebuild importer scope left target).Succeeds s fun _ _ => True := by
  obtain ⟨left, rfl⟩ := Nat.exists_eq_succ_of_ne_zero (Nat.ne_of_gt hleft)
  unfold Setup.rebuild
  refine succeeds_bind.2 (((h.succeeds_build hwritable hserves hfree hlocated hderives hreaches
    hprovides hfits hs).and_ensures (h.quiet_build hserves hlocated hprimitive hframe scope
      hs)).mono ?_)
  rintro built s₁ ⟨-, hs₁, hbuilt, hpersisted⟩
  split
  · rename_i hyes
    obtain ⟨hholds, hrecalls, hcurrent⟩ := hpersisted hyes
    obtain ⟨sources, hrefresh, hs₂⟩ := run_refresh hs₁.sound hs₁.alone hlocated
    have halone₂ : season.Alone (s₁.withSources sources) := hs₁.alone.of_eq rfl rfl rfl
    have hvalidate := run_validate hs₂.calm.disk halone₂ hlocated hholds
      (hlocated.localStaleness?_eq_none hbuilt) hrecalls hcurrent scope
    refine succeeds_bind.2 ⟨target, _, hrefresh, succeeds_bind.2 ⟨_, _, hvalidate, ?_⟩⟩
    exact succeeds_pure.2 True.intro
  · exact succeeds_pure.2 True.intro

/-! ## Validating -/

omit h in
/-- Recorded imports that are provided can be compared. -/
theorem succeeds_changedImport? (hserves : season.Serves frames importer)
    (hfits : season.Fits root scope) {imports : List (ModuleName × Digest)}
    (hprovides : ∀ e ∈ imports, e.1 ∈ season.modules ∧ season.Provides root importer e.1)
    (hs : season.Quiet s) :
    (Interface.changedImport? (Setup.currentHash importer scope) imports).Succeeds s
      fun _ _ => True := by
  induction imports generalizing s with
  | nil => exact succeeds_pure.2 True.intro
  | cons e rest ih =>
    obtain ⟨imported, recorded⟩ := e
    obtain ⟨hmem, himport⟩ := hprovides _ List.mem_cons_self
    unfold Interface.changedImport? Setup.currentHash
    rw [bind_assoc]
    refine succeeds_bind.2 (((himport scope s hfits hs).and_ensures
      (hserves.imports scope hmem hs)).mono ?_)
    rintro known s₁ ⟨-, hs₁, -⟩
    rw [pure_bind]
    split
    · exact ih (fun e he => hprovides e (List.mem_cons_of_mem _ he)) hs₁
    · exact succeeds_pure.2 True.intro

omit h in
/-- **Validating a module succeeds** if the modules that it imports are provided: what is stored was
derived in this edition, and so it lists no other imports. -/
theorem succeeds_validate (hserves : season.Serves frames importer) (hlocated : season.Located target)
    (hprovides : ∀ x, season.toolchain.Imports season.edition target.name x →
      season.Provides root importer x)
    (hfits : season.Fits root scope) (hs : season.Quiet s) :
    (season.setup.validate importer target scope).Succeeds s fun _ _ => True := by
  obtain ⟨result, hrun, hresult⟩ := run_stored hs.sound.calm.disk hs.alone hlocated
  unfold Setup.validate
  refine succeeds_bind.2 ⟨result, s, hrun, ?_⟩
  cases result with
  | error reason => exact succeeds_pure.2 True.intro
  | ok i =>
    dsimp only
    split
    · exact succeeds_pure.2 True.intro
    · rename_i hlocal
      obtain ⟨hname, -, -⟩ := Interface.localStaleness?_eq_none_iff.1 hlocal
      obtain ⟨found, -, hread⟩ := (hresult i).1 rfl
      obtain ⟨_, rfl, hderives⟩ := hs.sound.onDisk i (Interface.OnDisk.of_readInterface? hread)
      rw [hname] at hderives
      have himports : ∀ e ∈ i.imports, e.1 ∈ season.modules ∧ season.Provides root importer e.1 := by
        intro e he
        obtain ⟨imported, himported, -⟩ := hderives.imports he
        exact ⟨himported.mem, hprovides e.1 ⟨_, hderives, e.2, he⟩⟩
      refine succeeds_bind.2 ((succeeds_changedImport? hserves hfits himports hs).mono
        fun reason s₁ _ => ?_)
      cases reason with
      | some reason => exact succeeds_pure.2 True.intro
      | none => exact succeeds_bind.2 ⟨(), _, rfl, succeeds_pure.2 True.intro⟩

/-- What validating leaves. -/
theorem quiet_validate (hserves : season.Serves frames importer) (hlocated : season.Located target)
    (hprimitive : target.isPrimitive = season.setup.settings.isPrimitive target.name)
    (hframe : target.name ∈ frames) (scope : ImportedScope) (hs : season.Quiet s) :
    (season.setup.validate importer target scope).Ensures s
      (fun r s' => season.Quiet s' ∧ LoadState.Extends frames s s' ∧ ∀ i, r = .ok i →
        season.toolchain.Derives season.edition target.name ⟨i, false, target.isPrimitive⟩)
      fun _ _ => True := by
  refine ((h.contract.validate hserves.maintains hlocated hprimitive scope hs.sound).and
    (h.tracked_validate hserves.maintains hserves.tracks hlocated hframe scope hs.sound
      hs.alone)).mono ?_ fun _ _ _ => True.intro
  rintro r s' ⟨⟨hs', hext, hfit⟩, halone', -⟩
  exact ⟨⟨hs', halone'⟩, hext, hfit⟩

/-! ## Resolving -/

omit h in
/-- **Locating a module of the project succeeds** if it has a source. -/
theorem succeeds_locate (hmem : module ∈ season.modules) {text : String}
    (htext : season.edition.text? module = some text) (hs : season.Quiet s) :
    (season.setup.locate module).Succeeds s fun _ _ => True := by
  obtain ⟨target, -, -, hrun | ⟨path, hrun, -⟩⟩ :=
    exists_run_locate hs.sound.calm.disk hs.alone hs.sound.sources hmem htext
  · exact ⟨_, _, hrun, True.intro⟩
  · exact ⟨_, _, hrun, True.intro⟩

/-- What locating a module leaves. -/
theorem quiet_locate (hmem : module ∈ season.modules) (hs : season.Quiet s) :
    (season.setup.locate module).Ensures s
      (fun target s' => season.Quiet s' ∧ s'.caches.visited = s.caches.visited ∧
        season.setup.IsTarget module target ∧ season.Located target) fun _ _ => True := by
  have hlocate : (season.setup.locate module).Maintains (season.Sound {season.edition}) [] s
      fun target _ => season.setup.IsTarget module target ∧ season.Located target :=
    h.contract.locate hs.sound hmem
  refine (hlocate.and (locate_alone hs.alone module)).mono ?_ fun _ _ _ => True.intro
  rintro target _ ⟨⟨hs', -, htarget⟩, sources, rfl⟩
  exact ⟨⟨hs', hs.alone.of_eq rfl rfl rfl⟩, rfl, htarget⟩

/-- **A module is settled on request** if the modules that it imports are provided. -/
theorem succeeds_settleImport (hwritable : season.Writable) (hserves : season.Serves frames importer)
    (hfree : season.toolchain.ConflictFree season.edition root) (hframe : module ∈ frames)
    (hderives : season.toolchain.Derives season.edition module entry)
    (hreaches : ReflTransGen (season.toolchain.Imports season.edition) root module)
    (hprovides : ∀ x, season.toolchain.Imports season.edition module x →
      season.Provides root importer x)
    (hfits : season.Fits root scope) (hs : season.Quiet s) :
    (season.setup.settleImport importer scope module).Succeeds s fun _ _ => True := by
  unfold Setup.settleImport
  refine succeeds_bind.2 ⟨_, _, rfl, ?_⟩
  cases s.caches.visited.get? module with
  | some known => exact succeeds_pure.2 True.intro
  | none =>
    obtain ⟨text, htext, -⟩ := hderives.local_eq
    refine succeeds_bind.2 (((succeeds_locate hderives.mem htext hs).and_ensures
      (h.quiet_locate hderives.mem hs)).mono ?_)
    rintro target s₁ ⟨-, hs₁, -, ⟨rfl, hprimitive⟩, hlocated⟩
    have hobtain : (season.setup.obtain importer scope target).Succeeds s₁ fun _ _ => True := by
      unfold Setup.obtain
      refine succeeds_bind.2 (((succeeds_validate hserves hlocated hprovides hfits hs₁).and_ensures
        (h.quiet_validate hserves hlocated hprimitive hframe scope hs₁)).mono ?_)
      rintro r s₂ ⟨-, hs₂, -⟩
      cases r with
      | ok i => exact succeeds_pure.2 True.intro
      | error reason =>
        refine succeeds_bind.2 ((h.succeeds_rebuild hwritable hserves hfree hlocated hprimitive
          hframe hderives hreaches hprovides hfits hs₂ season.setup.attempts_pos).mono
            fun _ _ _ => succeeds_pure.2 True.intro)
    refine succeeds_bind.2 (hobtain.mono fun known s₂ _ => ?_)
    exact succeeds_bind.2 ⟨(), _, rfl, succeeds_pure.2 True.intro⟩

/-- The way of importing to some depth serves. -/
theorem serves_resolve (depth : Nat) (stack : ImportStack) :
    season.Serves stack.frames (season.setup.resolve depth stack) :=
  ⟨h.contract.resolve depth stack, h.tracked_resolve depth stack⟩

/-- One level of a resolution provides a module, given that the next one provides its imports. -/
theorem provides_resolveStep (hwritable : season.Writable) {depth : Nat} {stack : ImportStack}
    (hfree : season.toolchain.ConflictFree season.edition root)
    (hderives : season.toolchain.Derives season.edition module entry)
    (himportable : entry.importable = true)
    (hreaches : ReflTransGen (season.toolchain.Imports season.edition) root module)
    (hnot : module ∉ stack.frames)
    (hprovides : ∀ pushed : ImportStack, pushed.frames = stack.frames ++ [module] →
      ∀ x, season.toolchain.Imports season.edition module x →
        season.Provides root (season.setup.resolve depth pushed) x) :
    season.Provides root (season.setup.resolve (depth + 1) stack) module := by
  intro scope s hfits hs
  rw [Setup.resolve_succ]
  unfold Setup.resolveStep Setup.entering
  cases hpush : stack.push module with
  | error cycle => exact absurd (ImportStack.push_eq_error_iff.1 hpush).1 hnot
  | ok pushed =>
    have hframes := ImportStack.frames_of_push hpush
    have hframe : module ∈ pushed.frames := by
      rw [hframes]
      exact List.mem_append_right _ (List.mem_singleton_self _)
    have hserves := h.serves_resolve depth pushed
    have hsettles : (season.setup.settleImport (season.setup.resolve depth pushed) scope
        module).Maintains (season.Sound {season.edition}) [] s fun entry s' =>
          s'.caches.visited.get? module = some entry :=
      h.contract.settleImport hserves.maintains (List.nil_subset _) hframe List.not_mem_nil
        hderives.mem scope hs.sound
    refine succeeds_bind.2 (((h.succeeds_settleImport hwritable hserves hfree hframe hderives
      hreaches (hprovides pushed hframes) hfits hs).and_ensures hsettles).mono ?_)
    rintro known s₁ ⟨-, hs₁, -, hget⟩
    obtain rfl := (hs₁.visited _ _ hget).unique hderives
    rw [if_pos himportable]
    exact succeeds_pure.2 True.intro

/-- **What a module imports is provided** to some depth, unless something that the module reaches is
in progress. -/
theorem provides_imports (hwritable : season.Writable)
    (hfree : season.toolchain.ConflictFree season.edition root)
    (hderives : season.toolchain.Derives season.edition module entry)
    (hreaches : ReflTransGen (season.toolchain.Imports season.edition) root module) :
    ∃ bound, ∀ depth, bound ≤ depth → ∀ stack : ImportStack,
      (∀ y, TransGen (season.toolchain.Imports season.edition) module y → y ∉ stack.frames) →
      ∀ x, season.toolchain.Imports season.edition module x →
        season.Provides root (season.setup.resolve depth stack) x := by
  induction module using (Toolchain.wellFounded_imports season.toolchain
    season.edition).induction generalizing entry with
  | _ module ih =>
    have heach : ∀ e ∈ entry.interface.imports, ∃ bound, ∀ depth, bound ≤ depth →
        ∀ stack : ImportStack,
          (∀ y, TransGen (season.toolchain.Imports season.edition) module y → y ∉ stack.frames) →
          season.Provides root (season.setup.resolve depth stack) e.1 := by
      intro e he
      have himports := hderives.imports_iff.2 ⟨e.2, he⟩
      have hreaches' := hreaches.tail himports
      obtain ⟨imported, himported, himportable, -⟩ := hderives.imports he
      obtain ⟨bound, hbound⟩ := ih e.1 himports himported hreaches'
      refine ⟨bound + 1, fun depth hdepth stack hstack => ?_⟩
      obtain ⟨depth, rfl⟩ : ∃ k, depth = k + 1 := ⟨depth - 1, by omega⟩
      refine h.provides_resolveStep hwritable hfree himported himportable hreaches'
        (hstack e.1 (.single himports)) fun pushed hframes =>
          hbound depth (Nat.le_of_succ_le_succ hdepth) pushed fun y hy hframe => ?_
      rw [hframes] at hframe
      obtain hframe | hframe := List.mem_append.1 hframe
      · exact hstack y (.head himports hy) hframe
      · -- The module would import itself.
        obtain rfl := List.mem_singleton.1 hframe
        exact Toolchain.not_transGen_imports _ hy
    obtain ⟨bound, hbound⟩ := exists_bound _ heach
    refine ⟨bound, fun depth hdepth stack hstack x himport => ?_⟩
    obtain ⟨hash, hmem⟩ := hderives.imports_iff.1 himport
    exact hbound _ hmem depth hdepth stack hstack

/-! ## Entry modules -/

omit h in
/-- **What a settled interface leads to is what its module reaches.** -/
theorem reaches_of_leadsTo {editions : Set Edition} (hs : season.Sound editions s)
    (hderives : season.toolchain.Derives season.edition module entry) {j : Interface}
    (hleads : ImportedScope.LeadsTo s.caches.visited entry.interface j) :
    ∃ x e, ReflTransGen (season.toolchain.Imports season.edition) module x ∧
      season.toolchain.Derives season.edition x e ∧ e.interface = j := by
  induction hleads with
  | refl => exact ⟨module, entry, .refl, hderives, rfl⟩
  | tail _ hsettled ih =>
    obtain ⟨x, e, hreaches, he, rfl⟩ := ih
    obtain ⟨b, hb, known, hget, rfl⟩ := ImportedScope.mem_settledImports.1 hsettled
    exact ⟨b.1, known, hreaches.tail (he.imports_iff.2 ⟨b.2, hb⟩), hs.visited _ _ hget, rfl⟩

omit h in
/-- A module that is reused can be merged with everything that it imports. -/
theorem succeeds_reuse (hfree : season.toolchain.ConflictFree season.edition module)
    (hderives : season.toolchain.Derives season.edition module entry) (hs : season.Quiet s)
    (warnings : List Diagnostic) :
    (Setup.reuse ∅ entry.interface warnings).Succeeds s fun _ _ => True := by
  obtain ⟨scope, hmerge⟩ : ∃ scope, (∅ : ImportedScope).mergeWithImports s.caches.visited
      entry.interface = .ok scope := by
    refine ImportedScope.mergeWithImports_eq_ok fun j k hj hk => ?_
    obtain ⟨x, e, hx, he, rfl⟩ := reaches_of_leadsTo hs.sound hderives hj
    obtain ⟨y, e', hy, he', rfl⟩ := reaches_of_leadsTo hs.sound hderives hk
    exact hfree x y e e' hx hy he he'
  unfold Setup.reuse
  refine succeeds_bind.2 ⟨s, s, rfl, ?_⟩
  dsimp only
  rw [hmerge]
  exact succeeds_bind.2 ⟨scope, s, rfl, succeeds_pure.2 True.intro⟩

/-- **Loading an entry module succeeds** if the modules that it imports are provided. -/
theorem succeeds_loadEntry (hwritable : season.Writable) (hserves : season.Serves [module] importer)
    (hfree : season.toolchain.ConflictFree season.edition module)
    (hderives : season.toolchain.Derives season.edition module entry)
    (hprovides : ∀ x, season.toolchain.Imports season.edition module x →
      season.Provides module importer x) (hs : season.Quiet s) :
    (season.setup.loadEntry importer ∅ module .batch).Succeeds s fun _ _ => True := by
  have hfits : season.Fits module ∅ := nofun
  unfold Setup.loadEntry
  refine succeeds_bind.2 ⟨_, _, rfl, ?_⟩
  cases hget : s.caches.visited.get? module with
  | some known => exact succeeds_reuse hfree (hs.sound.visited _ _ hget) hs _
  | none =>
    obtain ⟨text, htext, -⟩ := hderives.local_eq
    unfold Setup.loadTarget
    refine succeeds_bind.2 (((succeeds_locate hderives.mem htext hs).and_ensures
      (h.quiet_locate hderives.mem hs)).mono ?_)
    rintro target s₁ ⟨-, hs₁, hvisited, ⟨rfl, hprimitive⟩, hlocated⟩
    have hframe : target.name ∈ [target.name] := List.mem_singleton_self _
    refine succeeds_bind.2 ⟨target, s₁, rfl, ?_⟩
    show (season.setup.validateEntry importer target .batch ∅).Succeeds s₁ fun _ _ => True
    unfold Setup.validateEntry
    refine succeeds_bind.2 (((succeeds_validate hserves hlocated hprovides hfits hs₁).and_ensures
      (h.quiet_validate hserves hlocated hprimitive hframe ∅ hs₁)).mono ?_)
    rintro r s₂ ⟨-, hs₂, hext, hfit⟩
    cases r with
    | ok i =>
      have hnone : s₂.caches.visited.get? target.name = none :=
        hext.get?_eq_none hframe (hvisited ▸ hget)
      have hsettled := h.contract.settle hs₂.sound hnone (hfit i rfl)
      refine succeeds_bind.2 ⟨(), _, rfl, ?_⟩
      exact succeeds_reuse hfree (hfit i rfl)
        ⟨h.contract.record (.settled target.name) hsettled, hs₂.alone.of_eq rfl rfl rfl⟩ []
    | error reason =>
      unfold Setup.buildEntry
      refine succeeds_bind.2 (((h.succeeds_build hwritable hserves hfree hlocated hderives .refl
        hprovides hfits hs₂).and_ensures (h.quiet_build hserves hlocated hprimitive hframe ∅
          hs₂)).mono ?_)
      rintro built s₃ ⟨hfits', -, hbuilt, -⟩
      obtain ⟨scope, hmerge, -⟩ := hfits'.merge hfree .refl hbuilt
      refine succeeds_bind.2 ⟨(), _, rfl, ?_⟩
      dsimp only at hmerge ⊢
      rw [hmerge]
      exact succeeds_bind.2 ⟨scope, _, rfl, succeeds_pure.2 True.intro⟩

end Orderly

end Season

/-- A load of a session whose load of the entry module has a result. -/
theorem Session.loadWithin_eq_ok {s : Session} {depth : Nat} {module : ModuleName} {mode : CheckMode}
    {world : World} {stack : ImportStack} (hpush : s.stack.push module = .ok stack)
    (h : (s.setup.loadEntry (s.setup.resolve depth stack) (s.scope.forget module) module mode).Succeeds
      ⟨s.caches, world⟩ fun _ _ => True) :
    ∃ loaded s' world', s.loadWithin depth module mode world = some (.ok loaded, s', world') := by
  obtain ⟨⟨loaded, scope⟩, state, hrun, -⟩ := h
  refine ⟨loaded, { s with caches := state.caches, scope }, state.world, ?_⟩
  unfold loadWithin Setup.entering
  rw [hpush]
  dsimp only
  rw [hrun]
  rfl

/-- **A load succeeds**, whatever artifacts of this edition are on disk, if an interface is derived
for the module, artifacts can be written, and the module is free of conflicts. -/
theorem Season.Orderly.exists_loads {season : Season} (h : season.Orderly {season.edition})
    (hwritable : season.Writable) {module : ModuleName} {entry : VisitedEntry}
    (hderives : season.toolchain.Derives season.edition module entry)
    (hfree : season.toolchain.ConflictFree season.edition module) {d : Disk}
    (hs : season.Sound {season.edition} ⟨Caches.empty, .quiet d⟩) :
    ∃ loaded s w, season.Loads d module loaded s w := by
  have hquiet : season.Quiet ⟨Caches.empty, .quiet d⟩ := ⟨hs, ⟨rfl, nofun⟩⟩
  obtain ⟨bound, hbound⟩ := h.provides_imports hwritable hfree hderives .refl
  obtain ⟨stack, hpush, hframes⟩ : ∃ stack : ImportStack,
      (∅ : ImportStack).push module = .ok stack ∧ stack.frames = [module] := ⟨_, rfl, rfl⟩
  have hprovides := hbound bound (Nat.le_refl _) stack fun y hy hframe => by
    rw [hframes] at hframe
    obtain rfl := List.mem_singleton.1 hframe
    exact Toolchain.not_transGen_imports _ hy
  have hserves := h.serves_resolve bound stack
  rw [hframes] at hserves
  obtain ⟨loaded, s, w, hload⟩ := Session.loadWithin_eq_ok (s := .start season.setup) hpush
    (h.succeeds_loadEntry hwritable hserves hfree hderives hprovides hquiet)
  exact ⟨loaded, s, w, bound, hload⟩

end ModuleLoader
