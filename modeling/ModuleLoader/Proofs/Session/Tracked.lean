import ModuleLoader.Proofs.Session.Trail

/-!
# Every load leaves a trail

A load that succeeds while nobody else is at work leaves a trail. As with the contract for its steps,
the way there follows the definition of a load, from single checks up to sessions, for a given way of
importing that leaves trails; the recursion on the depth provides it in the end.

Two things make the trail what it is. A stored interface that fails a test for staleness is not the
one that is derived, so its module has to be checked. And an interface that was just written is found
up to date at once, because its imports are answered from memory; so the module is not checked again.
-/

namespace ModuleLoader

open Load Relation

/-- A check without a result runs to none. -/
theorem Setup.run_fails {α : Type} (setup : Setup) (importer : Importer) {check : Check α}
    (h : check.Fails) (context : CheckContext) (s : LoadState) :
    (setup.run importer context check).Ensures s (fun _ _ => False) fun _ _ => True := by
  induction h generalizing context s with
  | fail error => exact ensures_throw.2 True.intro
  | ask _ ih =>
    unfold Setup.run
    exact ensures_bind.2 (Ensures.trivial.mono (fun r s' _ => ih r.1 r.2 s') fun _ _ => id)

namespace Season

/-- **What is to be known of a season** for its loads to leave trails. -/
structure Orderly (season : Season) (editions : Set Edition) : Prop where
  /-- The edition is one of those from which there may be interfaces. -/
  mem : season.edition ∈ editions
  /-- Checkers abide by the rule. -/
  abiding : season.Abiding
  /-- They leave the disk alone. -/
  handsOff : season.HandsOff
  /-- The codec can be relied on. -/
  faithful : season.setup.codec.Faithful
  /-- What is hashed has a digest of its own. -/
  collisionFree : season.toolchain.CollisionFree editions
  /-- Different modules have different artifacts. -/
  apart : season.Apart

variable {season : Season} {editions : Set Edition}

/-- Loads keep the caches trustworthy. -/
def Orderly.contract (h : season.Orderly editions) :
    season.setup.Contract (season.Sound editions) :=
  season.sound h.mem h.abiding h.faithful h.collisionFree

/-- **A way of importing leaves trails**, and recalls what it has imported. -/
def Tracks (season : Season) (editions : Set Edition) (importer : Importer) : Prop :=
  ∀ scope module s, module ∈ season.modules → season.Sound editions s → season.Alone s →
    (importer scope module).Ensures s
      (fun _ s' => season.Alone s' ∧ importer.Recalls module ∧
        ∃ new checked, season.Trail ∅ {module} s s' new checked)
      fun _ _ => True

/-- **How an entry module has been settled** by a load that has checked some modules: from its
artifact, together with everything that it imports, or by a check of its own. -/
structure Concluded (season : Season) (scope : ImportedScope) (module : ModuleName) (s : LoadState)
    (checked : List ModuleName) (r : Loaded × ImportedScope) (s' : LoadState) : Prop where
  /-- If it was not checked, its interface was merged with everything that it imports. -/
  merged : module ∉ checked → scope.mergeWithImports s'.caches.visited r.1.interface = .ok r.2
  /-- Its artifact read as that interface then, unless the module had been settled before. -/
  held : module ∉ checked → s.caches.visited.get? module = none →
    season.setup.Holds s.world.disk module r.1.interface
  /-- If it was checked, its interface comes of that check, and so does the scope. -/
  built : module ∈ checked → ∃ target built, season.setup.IsTarget module target ∧
    season.setup.ComesOf target .batch scope s' built ∧ built.interface = r.1.interface ∧
    built.scope.merge built.interface = .ok r.2

/-- The derived interface of a target passes the tests that concern the target alone. -/
theorem Located.localStaleness?_eq_none {target : Target} (h : season.Located target)
    {entry : VisitedEntry} (hderives : season.toolchain.Derives season.edition target.name entry) :
    entry.interface.localStaleness? target.name target.source.hash
      season.setup.settings.options.fingerprint = none := by
  obtain ⟨text, htext, hname, hsource, hoptions⟩ := hderives.local_eq
  rw [h.text?_eq] at htext
  rw [season.options_eq] at hoptions
  refine Interface.localStaleness?_eq_none_iff.2 ⟨hname, ?_, hoptions⟩
  rw [hsource, ← Option.some.inj htext]
  rfl

namespace Orderly

variable (h : season.Orderly editions) {frames : List ModuleName} {importer : Importer}
  {s : LoadState} {target : Target}

/-! ## Validating -/

/-- **Recorded imports that are compared leave a trail**, from as many of them as are asked for. -/
theorem tracked_changedImport?
    (himporter : importer.Maintains (season.Sound editions) (· ∈ season.modules) frames)
    (htracks : season.Tracks editions importer) (scope : ImportedScope)
    {imports : List (ModuleName × Digest)} (hwanted : ∀ e ∈ imports, e.1 ∈ season.modules)
    (hs : season.Sound editions s) (halone : season.Alone s) :
    (Interface.changedImport? (Setup.currentHash importer scope) imports).Ensures s
      (fun reason s' => season.Alone s' ∧ ∃ new checked asked,
        season.Trail ∅ {x | ∃ hash, (x, hash) ∈ asked} s s' new checked ∧
        ((reason = none ∧ asked = imports) ∨ ∃ before e after entry, reason ≠ none ∧
          imports = before ++ e :: after ∧ asked = before ++ [e] ∧ s'.Current before ∧
          s'.Knows e.1 entry ∧ entry.interface.fullHash ≠ e.2))
      fun _ _ => True := by
  induction imports generalizing s with
  | nil => exact ensures_pure.2 ⟨halone, [], [], [], .refl s, .inl ⟨rfl, rfl⟩⟩
  | cons e rest ih =>
    obtain ⟨module, recorded⟩ := e
    unfold Interface.changedImport? Setup.currentHash
    rw [bind_assoc]
    have hmem := hwanted _ List.mem_cons_self
    refine ensures_bind.2 (((himporter scope module s hmem hs).and
      (htracks scope module s hmem hs halone)).mono ?_ fun _ _ _ => True.intro)
    rintro entry s₁ ⟨⟨hs₁, -, hknows⟩, halone₁, -, new, checked, htrail⟩
    rw [pure_bind]
    have hroot : ∀ asked : List (ModuleName × Digest), season.Trail ∅
        {x | ∃ hash, (x, hash) ∈ (module, recorded) :: asked} s s₁ new checked := fun asked =>
      htrail.mono fun root hroot => ⟨recorded, hroot ▸ List.mem_cons_self⟩
    split
    · rename_i hhash
      refine (ih (fun e he => hwanted e (List.mem_cons_of_mem _ he)) hs₁ halone₁).mono_ok ?_
      rintro reason s₂ ⟨halone₂, new', checked', asked, htrail', hasked⟩
      refine ⟨halone₂, new ++ new', checked ++ checked', (module, recorded) :: asked, ?_, ?_⟩
      · refine (hroot asked).trans (htrail'.mono ?_) fun x hx => absurd hx id
        rintro root ⟨hash, hmem⟩
        exact ⟨hash, List.mem_cons_of_mem _ hmem⟩
      · obtain ⟨rfl, rfl⟩ | ⟨before, e, after, entry', hsome, rfl, rfl, hbefore, hknows', hne⟩ :=
          hasked
        · exact .inl ⟨rfl, rfl⟩
        · exact .inr ⟨(module, recorded) :: before, e, after, entry', hsome, rfl, rfl,
            LoadState.Current.cons (htrail'.knows hknows) hhash hbefore, hknows', hne⟩
    · rename_i hhash
      exact ensures_pure.2 ⟨halone₁, new, checked, [(module, recorded)], hroot [],
        .inr ⟨[], (module, recorded), rest, entry, Option.some_ne_none _, rfl, rfl,
          fun e he => absurd he List.not_mem_nil, hknows, hhash⟩⟩

include h

/-- **What validating a target tells.** An interface that is up to date is the one that the artifact
reads as. Otherwise the artifact does not read as the interface that is derived for the module, and
only imports of the module were asked for. -/
theorem tracked_validate
    (himporter : importer.Maintains (season.Sound editions) (· ∈ season.modules) frames)
    (htracks : season.Tracks editions importer) (hlocated : season.Located target)
    (hframe : target.name ∈ frames) (scope : ImportedScope) (hs : season.Sound editions s)
    (halone : season.Alone s) :
    (season.setup.validate importer target scope).Ensures s
      (fun r s' => season.Alone s' ∧ ∃ new checked roots, season.Trail ∅ roots s s' new checked ∧
        (∀ e ∈ new, e.1 ≠ target.name) ∧
        (∀ i, r = .ok i → season.setup.Holds s.world.disk target.name i ∧
          ∀ x ∈ roots, i.Lists x) ∧
        ∀ reason, r = .error reason → ∀ entry,
          season.toolchain.Derives season.edition target.name entry →
          ¬ season.setup.Holds s.world.disk target.name entry.interface ∧
          ∀ x ∈ roots, season.toolchain.Imports season.edition target.name x)
      fun _ _ => True := by
  obtain ⟨result, hrun, hresult⟩ := run_stored hs.calm.disk halone hlocated
  unfold Setup.validate
  refine Ensures.after hrun ?_
  cases result with
  | error reason =>
    refine ensures_pure.2 ⟨halone, [], [], ∅, .refl s, nofun, nofun, fun _ _ entry _ =>
      ⟨?_, nofun⟩⟩
    intro hholds
    exact absurd ((hresult entry.interface).2 hholds) nofun
  | ok i =>
    have hholds := (hresult i).1 rfl
    dsimp only
    split
    · rename_i hlocal
      refine ensures_pure.2 ⟨halone, [], [], ∅, .refl s, nofun, nofun, fun _ _ entry hderives =>
        ⟨fun hholds' => ?_, nofun⟩⟩
      have hnone := hlocated.localStaleness?_eq_none hderives
      rw [hholds'.unique hholds, hlocal] at hnone
      contradiction
    · rename_i hlocal
      obtain ⟨hname, hsource, hoptions⟩ := Interface.localStaleness?_eq_none_iff.1 hlocal
      -- What is on disk was derived in some edition.
      have hgenuine : season.toolchain.Genuine editions i := by
        obtain ⟨found, -, hread⟩ := hholds
        exact hs.onDisk i (Interface.OnDisk.of_readInterface? hread)
      obtain ⟨edition, hedition, hold⟩ := hgenuine
      rw [hname] at hold
      have hwanted : ∀ e ∈ i.imports, e.1 ∈ season.modules := fun e he => by
        obtain ⟨imported, himported, -⟩ := hold.imports he
        exact himported.mem
      refine ensures_bind.2 (((Setup.Contract.changedImport? himporter scope hwanted hs).and
        (tracked_changedImport? himporter htracks scope hwanted hs halone)).mono ?_
          fun _ _ _ => True.intro)
      rintro reason s₁ ⟨⟨hs₁, hext, -⟩, halone₁, new, checked, asked, htrail, hasked⟩
      have hnew : ∀ e ∈ new, e.1 ≠ target.name := fun e he heq =>
        htrail.not_mem_frames hext e he (heq ▸ hframe)
      obtain ⟨rfl, rfl⟩ | ⟨before, e, after, entry, hsome, hlist, rfl, hbefore, hknows, hne⟩ :=
        hasked
      · have hkept := htrail.frame _ hlocated.mem id hnew i hholds
        refine Ensures.after rfl (ensures_pure.2 ⟨halone₁.keep hlocated.mem hkept, new, checked, _,
          htrail.congr rfl rfl fun _ _ _ _ => id, hnew, fun j hj => ?_, nofun⟩)
        rw [← Except.ok.inj hj]
        exact ⟨hholds, fun x hx => hx⟩
      · cases reason with
        | none => exact absurd rfl hsome
        | some reason =>
          refine ensures_pure.2 ⟨halone₁, new, checked, _, htrail, hnew, nofun, fun _ _ entry'
            hderives => ⟨fun hholds' => ?_, ?_⟩⟩
          · -- The import that has changed is not listed in the derived interface.
            rw [← hholds'.unique hholds] at hlist
            obtain ⟨imported, himported, -, hhash⟩ :=
              hderives.imports (hlist ▸ List.mem_append_right _ List.mem_cons_self)
            rw [himported.unique (hs₁.visited _ _ hknows.1)] at hhash
            exact hne hhash
          · rintro x ⟨hash, hmem⟩
            refine hold.imports_of_current h.faithful h.collisionFree
              (fun b hb => ⟨edition, hedition, hb⟩) (fun b hb => ⟨_, h.mem, hb⟩) hderives
              hlocated.text?_eq hsource (hoptions.trans ?_) hlist (fun b hb => ?_) _ hmem
            · rw [season.options_eq]
            · obtain ⟨known, hknown, hhash⟩ := hbefore b hb
              exact ⟨known, hs₁.visited _ _ hknown.1, hhash⟩

/-! ## Checking -/

omit h in
/-- An import into a context leaves a trail, unless it is refused. -/
theorem tracked_importInto
    (himporter : importer.Maintains (season.Sound editions) (· ∈ season.modules) frames)
    (htracks : season.Tracks editions importer) (context : CheckContext) {imported : ModuleName}
    (hmem : imported ∈ season.modules) (hs : season.Sound editions s) (halone : season.Alone s) :
    (season.setup.importInto importer context imported).Ensures s
      (fun r s' => (∃ e, r.1 = .error e) ∨ ∃ entry new checked,
        r.1 = .ok entry.interface ∧ season.Sound editions s' ∧ season.Alone s' ∧
        s'.Knows imported entry ∧ importer.Recalls imported ∧
        r.2.imports = CheckContext.listImport context.imports imported entry.interface.fullHash ∧
        season.Trail ∅ {imported} s s' new checked)
      fun _ _ => True := by
  unfold Setup.importInto
  refine ensures_bind.2 (ensures_outcome.2 (((himporter context.scope imported s hmem hs).and
    (htracks context.scope imported s hmem hs halone)).mono ?_ fun e s₁ _ => ?_))
  · rintro entry s₁ ⟨⟨hs₁, -, hknows⟩, halone₁, hrecalls, new, checked, htrail⟩
    dsimp only
    split
    · exact ensures_pure.2 (.inl ⟨_, rfl⟩)
    · rename_i context' hadd
      obtain ⟨scope, -, rfl⟩ := CheckContext.addImport_eq_ok hadd
      exact ensures_pure.2
        (.inr ⟨entry, new, checked, rfl, hs₁, halone₁, hknows, hrecalls, rfl, htrail⟩)
  · exact ensures_pure.2 (.inl ⟨e, rfl⟩)

/-- **The run of a check leaves a trail** from the modules that it lists as imports, and these are
recalled. -/
theorem tracked_run {α : Type} {check : Check α} {recipe : Recipe α}
    (himporter : importer.Maintains (season.Sound editions) (· ∈ season.modules) frames)
    (htracks : season.Tracks editions importer) (hfollows : check.Follows recipe)
    (hinsists : check.Insists) (habides : check.Abides season.strictRule) (context : CheckContext)
    (hs : season.Sound editions s) (halone : season.Alone s) :
    (season.setup.run importer context check).Ensures s
      (fun r s' => season.Alone s' ∧ context.imports ⊆ r.2.imports ∧
        (∀ e ∈ r.2.imports, e ∈ context.imports ∨ importer.Recalls e.1) ∧
        ∃ new checked, season.Trail ∅ {x | ∃ hash, (x, hash) ∈ r.2.imports} s s' new checked)
      fun _ _ => True := by
  induction hfollows generalizing context s with
  | done result =>
    exact ensures_pure.2 ⟨halone, List.Subset.refl _, fun e he => .inl he, [], [], .refl s⟩
  | fail error => exact ensures_throw.2 True.intro
  | @bring imported next rest hok ih =>
    cases hinsists with
    | resolve hnext hfails =>
      cases habides with
      | resolve hwanted hgranted _ =>
        unfold Setup.run
        refine ensures_bind.2 ((tracked_importInto himporter htracks context hwanted hs halone).mono
          (fun r s₁ hr => ?_) fun _ _ _ => True.intro)
        obtain ⟨e, he⟩ | ⟨entry, new, checked, hr, hs₁, halone₁, hknows, hrecalls, himports,
          htrail⟩ := hr
        · obtain ⟨reply, context'⟩ := r
          obtain rfl : reply = .error e := he
          exact (Setup.run_fails season.setup importer (hfails e) context' s₁).mono
            (fun _ _ hfalse => hfalse.elim) fun _ _ => id
        · obtain ⟨reply, context'⟩ := r
          obtain rfl : reply = .ok entry.interface := hr
          have hderives := hs₁.visited _ _ hknows.1
          refine (ih entry.interface (hnext _) (hgranted _ ⟨entry, hderives, hknows.2, rfl⟩) context'
            hs₁ halone₁).mono_ok ?_
          rintro r s₂ ⟨halone₂, hsubset, hall, new', checked', htrail'⟩
          rw [himports] at hsubset hall
          refine ⟨halone₂, List.Subset.trans (CheckContext.prefix_listImport _ _ _).subset hsubset,
            fun e he => ?_, new ++ new', checked ++ checked', ?_⟩
          · obtain hlisted | hrecalled := hall e he
            · obtain hbefore | rfl := CheckContext.mem_listImport hlisted
              · exact .inl hbefore
              · exact .inr hrecalls
            · exact .inr hrecalled
          · refine (htrail.mono ?_).trans htrail' fun x hx => absurd hx id
            rintro root rfl
            obtain ⟨hash, hlisted⟩ := CheckContext.exists_mem_listImport context.imports root
              entry.interface.fullHash
            exact ⟨hash, hsubset hlisted⟩
  | see _ ih =>
    cases hinsists with
    | context hinsists =>
      cases habides with
      | context habides => exact ih context (hinsists context) (habides context) context hs halone
  | setOptions _ ih =>
    cases hinsists with
    | setOptions hinsists =>
      cases habides with
      | setOptions habides => exact ih hinsists habides { context with options := _ } hs halone
  | warn _ ih =>
    cases hinsists with
    | warn hinsists =>
      cases habides with
      | warn habides => exact ih hinsists habides { context with warnings := _ } hs halone
  | @read path next recipe _ ih =>
    cases hinsists with
    | read hinsists =>
      cases habides with
      | read habides =>
        have hnext := ih (s.world.disk.read path) (hinsists _) (habides _) context hs halone
        unfold Setup.run
        refine Ensures.after (a := (s.world.disk.read path, context)) ?_ hnext
        show some (Except.ok (s.access.world.disk.read path, context), s.access) = _
        rw [halone.access_eq]
        rfl
  | edit _ _ =>
    cases habides with
    | edit hpermitted _ => exact hpermitted.elim
  | @note text next recipe _ ih =>
    cases hinsists with
    | note hinsists =>
      cases habides with
      | note habides =>
        have hs₁ := h.contract.record (.note text) hs
        refine (ih hinsists habides context hs₁ (halone.of_eq rfl rfl rfl)).mono_ok ?_
        rintro r s₂ ⟨halone₂, hsubset, hall, new, checked, htrail⟩
        exact ⟨halone₂, hsubset, hall, new, checked,
          htrail.since rfl (s.world.checks_record_note text) rfl⟩

/-- **What building a target leaves**: the module itself is checked before its imports, and if the
interface was written, it is up to date. -/
theorem tracked_build
    (himporter : importer.Maintains (season.Sound editions) (· ∈ season.modules) frames)
    (htracks : season.Tracks editions importer) (hlocated : season.Located target)
    (hframe : target.name ∈ frames) (scope : ImportedScope) (hs : season.Sound editions s)
    (halone : season.Alone s) :
    (season.setup.build importer target .batch scope).Ensures s
      (fun built s' => season.Alone s' ∧ ∃ new checked,
        season.Trail {target.name} {x | built.interface.Lists x} s s' new
          (target.name :: checked) ∧
        (built.persisted = true → season.setup.Holds s'.world.disk target.name built.interface ∧
          (∀ e ∈ built.interface.imports, importer.Recalls e.1) ∧
          s'.Current built.interface.imports) ∧
        (season.setup.settings.build.writeInterfaces = true →
          built.interface.hasWarnings = false → built.persisted = true))
      fun _ _ => True := by
  have hs₁ := h.contract.record (.checking target.name .batch) hs
  have halone₁ : season.Alone (s.record (.checking target.name .batch)) :=
    halone.of_eq rfl rfl rfl
  have hfollows := season.follows target.source.path hlocated.mem hlocated.text?_eq
  have hinsists := season.insists target.source.path hlocated.mem hlocated.text?_eq
  have hstrict := h.handsOff target.name hlocated.mem target.source.text hlocated.text?_eq
    target.source.path .batch
  unfold Setup.build
  refine Ensures.after rfl (ensures_bind.2 (((h.contract.run himporter
    (h.contract.abides .batch hlocated) _ hs₁).and (h.tracked_run himporter htracks hfollows
      hinsists hstrict _ hs₁ halone₁)).mono ?_ fun _ _ _ => True.intro))
  rintro ⟨checked, context⟩ s₂ ⟨⟨hs₂, hext, hwent⟩, halone₂, -, hrecalls, new, checks, htrail⟩
  dsimp only at hwent hrecalls htrail ⊢
  split
  · cases hsealed : (season.setup.interfaceOf target checked context).sealed season.setup.codec with
    | error e => exact Ensures.of_failure rfl True.intro
    | ok i =>
      have himports : i.imports = context.imports := by
        obtain ⟨body, -, rfl⟩ := Interface.sealed_eq_ok hsealed
        rfl
      have hnew : ∀ e ∈ new, e.1 ≠ target.name := fun e he heq =>
        htrail.not_mem_frames hext e he (heq ▸ hframe)
      have hown : season.Trail {target.name} {x | i.Lists x} s s₂ new (target.name :: checks) := by
        unfold Interface.Lists
        rw [himports]
        exact htrail.after_checking hnew
      have hrecalled : ∀ e ∈ i.imports, importer.Recalls e.1 := fun e he =>
        (hrecalls e (himports ▸ he)).resolve_left List.not_mem_nil
      have hcurrent : s₂.Current i.imports := fun e he =>
        (hwent.known_of_mem_imports (himports ▸ he)).resolve_left List.not_mem_nil
      refine Ensures.after rfl ?_
      split
      · refine ensures_bind.2 fun r s₃ hrun => ?_
        cases r with
        | error e => exact True.intro
        | ok durable =>
          obtain ⟨rfl, hvisited, hjournal, halone₃, hholds, hother⟩ :=
            run_persist hs₂ halone₂ h.apart h.faithful hlocated hrun
          refine ensures_pure.2 ⟨halone₃, new, checks, ?_, fun _ => ⟨hholds, hrecalled, ?_⟩,
            fun _ _ => rfl⟩
          · refine hown.congr hvisited ?_ hother
            unfold World.checks
            rw [hjournal]
          · intro e he
            obtain ⟨entry, hknows, hhash⟩ := hcurrent e he
            exact ⟨entry, ⟨hvisited ▸ hknows.1, hknows.2⟩, hhash⟩
      · rename_i hwrites
        refine ensures_pure.2 ⟨halone₂, new, checks, hown, nofun, fun hwrite hwarnings => ?_⟩
        refine absurd ?_ hwrites
        unfold Setup.writes
        rw [hwrite, hwarnings]
        rfl
  · exact ensures_throw.2 True.intro

/-- **A rebuild checks its module once**: what it has written is found up to date. -/
theorem tracked_rebuild
    (himporter : importer.Maintains (season.Sound editions) (· ∈ season.modules) frames)
    (htracks : season.Tracks editions importer) (hlocated : season.Located target)
    (hprimitive : target.isPrimitive = season.setup.settings.isPrimitive target.name)
    (hframe : target.name ∈ frames) (scope : ImportedScope) (left : Nat)
    (hs : season.Sound editions s) (halone : season.Alone s) :
    (season.setup.rebuild importer scope left target).Ensures s
      (fun i s' => season.Alone s' ∧ ∃ new checked,
        season.Trail {target.name} {x | i.Lists x} s s' new (target.name :: checked) ∧
        (season.setup.settings.build.writeInterfaces = true → i.hasWarnings = false →
          season.setup.Holds s'.world.disk target.name i))
      fun _ _ => True := by
  cases left with
  | zero => exact ensures_throw.2 True.intro
  | succ left =>
    unfold Setup.rebuild
    refine ensures_bind.2 (((h.contract.build himporter hlocated hprimitive .batch scope hs).and
      (h.tracked_build himporter htracks hlocated hframe scope hs halone)).mono ?_
        fun _ _ _ => True.intro)
    rintro built s₁ ⟨⟨hs₁, -, hderives⟩, halone₁, new, checked, htrail, hpersisted, hwritten⟩
    split
    · rename_i hyes
      obtain ⟨hholds, hrecalls, hcurrent⟩ := hpersisted hyes
      obtain ⟨sources, hrefresh, hs₂⟩ := run_refresh hs₁ halone₁ hlocated
      have halone₂ : season.Alone (s₁.withSources sources) := halone₁.of_eq rfl rfl rfl
      refine Ensures.after hrefresh (Ensures.after (run_validate hs₂.calm.disk halone₂ hlocated hholds
        (hlocated.localStaleness?_eq_none (hderives rfl)) hrecalls hcurrent scope) ?_)
      exact ensures_pure.2 ⟨halone₂.keep hlocated.mem hholds, new, checked,
        htrail.congr rfl rfl fun _ _ _ _ => id, fun _ _ => hholds⟩
    · rename_i hno
      exact ensures_pure.2 ⟨halone₁, new, checked, htrail,
        fun hwrite hwarnings => absurd (hwritten hwrite hwarnings) hno⟩

/-! ## Resolving -/

/-- **A module for which an entry has been obtained is ready to be settled.** -/
theorem tracked_obtain
    (himporter : importer.Maintains (season.Sound editions) (· ∈ season.modules) frames)
    (htracks : season.Tracks editions importer) (hlocated : season.Located target)
    (hprimitive : target.isPrimitive = season.setup.settings.isPrimitive target.name)
    (hframe : target.name ∈ frames) (scope : ImportedScope) (hs : season.Sound editions s)
    (halone : season.Alone s) :
    (season.setup.obtain importer scope target).Ensures s
      (fun entry s' => season.Alone s' ∧ ∃ new checked,
        season.Ready target.name entry s s' new checked)
      fun _ _ => True := by
  unfold Setup.obtain
  refine ensures_bind.2 (((h.contract.validate himporter hlocated hprimitive scope hs).and
    (h.tracked_validate himporter htracks hlocated hframe scope hs halone)).mono ?_
      fun _ _ _ => True.intro)
  rintro r s₁ ⟨⟨hs₁, -, hfit⟩, halone₁, new, checked, roots, htrail, hnew, hok, herror⟩
  cases r with
  | ok i =>
    have hderives := hfit i rfl
    obtain ⟨hholds, hroots⟩ := hok i rfl
    exact ensures_pure.2 ⟨halone₁, new, checked, htrail.ready_of_reuse hnew hderives
      (fun x hx => hderives.imports_iff.2 (hroots x hx)) hholds⟩
  | error reason =>
    refine ensures_bind.2 (((h.contract.rebuild himporter scope target.name season.setup.attempts
      ⟨rfl, hprimitive⟩ hlocated hs₁).and (h.tracked_rebuild himporter htracks hlocated hprimitive
        hframe scope season.setup.attempts hs₁ halone₁)).mono ?_ fun _ _ _ => True.intro)
    rintro i s₂ ⟨⟨-, -, hderives⟩, halone₂, new', checked', htrail', hstored⟩
    rw [← hprimitive] at hderives
    obtain ⟨hstale, hroots⟩ := herror reason rfl _ hderives
    exact ensures_pure.2 ⟨halone₂, _, _,
      htrail.ready_of_build hnew hderives hroots hstale htrail' hstored⟩

/-- Locating a module leaves no trail: only what is remembered of sources changes. -/
theorem tracked_locate {module : ModuleName} (hmem : module ∈ season.modules)
    (hs : season.Sound editions s) (halone : season.Alone s) :
    (season.setup.locate module).Ensures s
      (fun target s' => (season.setup.IsTarget module target ∧ season.Located target) ∧
        season.Sound editions s' ∧ ∃ sources, s' = s.withSources sources)
      fun _ _ => True := by
  have hlocate : (season.setup.locate module).Maintains (season.Sound editions) [] s
      fun target _ => season.setup.IsTarget module target ∧ season.Located target :=
    h.contract.locate hs hmem
  refine (hlocate.and (locate_alone halone module)).mono ?_ fun _ _ _ => True.intro
  rintro target s' ⟨⟨hs', -, hlocated⟩, hsources⟩
  exact ⟨hlocated, hs', hsources⟩

/-- **A module that is settled leaves a trail from itself.** -/
theorem tracked_settleImport
    (himporter : importer.Maintains (season.Sound editions) (· ∈ season.modules) frames)
    (htracks : season.Tracks editions importer) {module : ModuleName} (hframe : module ∈ frames)
    (hmem : module ∈ season.modules) (scope : ImportedScope) (hs : season.Sound editions s)
    (halone : season.Alone s) :
    (season.setup.settleImport importer scope module).Ensures s
      (fun _ s' => season.Alone s' ∧ ∃ new checked, season.Trail ∅ {module} s s' new checked)
      fun _ _ => True := by
  unfold Setup.settleImport
  refine Ensures.after rfl ?_
  cases hvisited : s.caches.visited.get? module with
  | some entry => exact ensures_pure.2 ⟨halone, [], [], .refl s⟩
  | none =>
    refine ensures_bind.2 ((h.tracked_locate hmem hs halone).mono_ok ?_)
    rintro target _ ⟨⟨⟨rfl, hprimitive⟩, hlocated⟩, hs₁, sources, rfl⟩
    have halone₁ : season.Alone (s.withSources sources) := halone.of_eq rfl rfl rfl
    refine ensures_bind.2 (((h.contract.obtain himporter ⟨rfl, hprimitive⟩ hlocated scope hs₁).and
      (h.tracked_obtain himporter htracks hlocated hprimitive hframe scope hs₁ halone₁)).mono ?_
        fun _ _ _ => True.intro)
    rintro entry s₂ ⟨⟨-, hext, -⟩, halone₂, new, checked, hready⟩
    exact Ensures.of_run rfl ⟨halone₂.of_eq rfl rfl rfl, _, _,
      (hready.settle (hext.get?_eq_none hframe hvisited)).since rfl rfl rfl⟩

/-- One level of a resolution, given the next one. -/
theorem tracked_resolveStep {next : Resolver} {stack : ImportStack}
    (himporter : ∀ stack : ImportStack,
      (next stack).Maintains (season.Sound editions) (· ∈ season.modules) stack.frames)
    (htracks : ∀ stack, season.Tracks editions (next stack)) (scope : ImportedScope)
    {module : ModuleName} (hmem : module ∈ season.modules) (hs : season.Sound editions s)
    (halone : season.Alone s) :
    (season.setup.resolveStep next stack scope module).Ensures s
      (fun _ s' => season.Alone s' ∧ ∃ new checked, season.Trail ∅ {module} s s' new checked)
      fun _ _ => True := by
  unfold Setup.resolveStep Setup.entering
  cases hpush : stack.push module with
  | error cycle => exact Ensures.of_failure rfl True.intro
  | ok pushed =>
    have hframe : module ∈ pushed.frames := by
      rw [ImportStack.frames_of_push hpush]
      exact List.mem_append_right _ (List.mem_singleton_self _)
    refine ensures_bind.2 ((h.tracked_settleImport (himporter pushed) (htracks pushed) hframe hmem
      scope hs halone).mono_ok fun entry s₁ htrail => ?_)
    split
    · exact ensures_pure.2 htrail
    · exact ensures_throw.2 True.intro

/-- **Resolving an import leaves a trail**, to every depth. -/
theorem tracked_resolve (depth : Nat) (stack : ImportStack) :
    season.Tracks editions (season.setup.resolve depth stack) := by
  induction depth generalizing stack with
  | zero => exact fun _ _ _ _ _ _ => ensures_exhausted
  | succ depth ih =>
    intro scope module s hmem hs halone r s' hrun
    have htrail := h.tracked_resolveStep (h.contract.resolve depth) ih scope hmem hs halone r s' hrun
    cases r with
    | error e => exact True.intro
    | ok entry => exact ⟨htrail.1, Setup.recalls_of_run hrun, htrail.2⟩

/-! ## Entry modules -/

/-- What a load of an entry module leaves: a trail from the module, which tells how the module has
been settled. -/
abbrev Ended (season : Season) (scope : ImportedScope) (module : ModuleName) (s : LoadState)
    (r : Loaded × ImportedScope) (s' : LoadState) : Prop :=
  season.Alone s' ∧ ∃ new checked, season.Trail ∅ {module} s s' new checked ∧
    season.Concluded scope module s checked r s'

/-- An entry module that is validated, or else checked in place. -/
theorem tracked_validateEntry
    (himporter : importer.Maintains (season.Sound editions) (· ∈ season.modules) frames)
    (htracks : season.Tracks editions importer) (hlocated : season.Located target)
    (hprimitive : target.isPrimitive = season.setup.settings.isPrimitive target.name)
    (hframe : target.name ∈ frames) (scope : ImportedScope) (hs : season.Sound editions s)
    (halone : season.Alone s) (hunsettled : s.caches.visited.get? target.name = none) :
    (season.setup.validateEntry importer target .batch scope).Ensures s
      (Ended season scope target.name s) fun _ _ => True := by
  unfold Setup.validateEntry
  refine ensures_bind.2 (((h.contract.validate himporter hlocated hprimitive scope hs).and
    (h.tracked_validate himporter htracks hlocated hframe scope hs halone)).mono ?_
      fun _ _ _ => True.intro)
  rintro r s₁ ⟨⟨hs₁, hext, hfit⟩, halone₁, new, checked, roots, htrail, hnew, hok, herror⟩
  have hnone : s₁.caches.visited.get? target.name = none := hext.get?_eq_none hframe hunsettled
  cases r with
  | ok i =>
    have hderives := hfit i rfl
    obtain ⟨hholds, hroots⟩ := hok i rfl
    have hready := htrail.ready_of_reuse hnew hderives
      (fun x hx => hderives.imports_iff.2 (hroots x hx)) hholds
    refine Ensures.after rfl ?_
    have hreuse : (Setup.reuse scope i []).Maintains (fun _ => True) []
        ((s₁.settle target.name ⟨i, false, target.isPrimitive⟩).record (.settled target.name)) _ :=
      Setup.Contract.endReusing scope i [] True.intro
    refine Ensures.mono hreuse ?_ fun _ _ _ => True.intro
    rintro ⟨_, merged⟩ s₂ ⟨-, -, rfl, rfl, hmerged⟩
    exact ⟨halone₁.of_eq rfl rfl rfl, _, _, hready.settle hnone, fun _ => hmerged,
      fun _ _ => hholds, fun hchecked => absurd hchecked (htrail.not_mem_checked id hnew)⟩
  | error reason =>
    unfold Setup.buildEntry
    refine ensures_bind.2 (((h.contract.build_comesOf himporter hlocated hprimitive .batch scope
      hs₁).and (h.tracked_build himporter htracks hlocated hframe scope hs₁ halone₁)).mono ?_
        fun _ _ _ => True.intro)
    rintro built s₂ ⟨⟨hs₂, hext', hcomes⟩, halone₂, new', checked', htrail', hpersisted, hwritten⟩
    have hderives := h.contract.fit_of_comesOf hs₂ hlocated hprimitive hcomes
    obtain ⟨hstale, hroots⟩ := herror reason rfl _ hderives
    have hready := htrail.ready_of_build hnew hderives hroots hstale htrail'
      fun hwrite hwarnings => (hpersisted (hwritten hwrite hwarnings)).1
    have hunsettled := hext'.get?_eq_none hframe hnone
    have hsettle : LoadState.Extends [] s₂ (s₂.settle target.name
        ⟨built.interface, built.interface.hasWarnings, target.isPrimitive⟩) :=
      .settle List.not_mem_nil
    refine Ensures.after rfl ?_
    cases hmerge : built.scope.merge built.interface with
    | error e => exact Ensures.of_failure rfl True.intro
    | ok merged =>
      have hchecked : target.name ∈ checked ++ target.name :: checked' :=
        List.mem_append_right _ List.mem_cons_self
      exact ensures_pure.2 ⟨halone₂.of_eq rfl rfl rfl, _, _, hready.settle hunsettled,
        fun hnot => absurd hchecked hnot, fun hnot => absurd hchecked hnot,
        fun _ => ⟨target, built, ⟨rfl, hprimitive⟩, hcomes.mono hsettle, rfl, hmerge⟩⟩

/-- **Loading an entry module leaves a trail** from the module. -/
theorem tracked_loadEntry {module : ModuleName}
    (himporter : importer.Maintains (season.Sound editions) (· ∈ season.modules) [module])
    (htracks : season.Tracks editions importer) (hmem : module ∈ season.modules)
    (scope : ImportedScope) (hs : season.Sound editions s) (halone : season.Alone s) :
    (season.setup.loadEntry importer scope module .batch).Ensures s
      (Ended season scope module s) fun _ _ => True := by
  unfold Setup.loadEntry
  refine Ensures.after rfl ?_
  cases hvisited : s.caches.visited.get? module with
  | some entry =>
    have hreuse : (Setup.reuse scope entry.interface entry.interface.warnings).Maintains
        (fun _ => True) [] s _ :=
      Setup.Contract.endReusing scope entry.interface entry.interface.warnings True.intro
    refine Ensures.mono hreuse ?_ fun _ _ _ => True.intro
    rintro ⟨_, merged⟩ s₁ ⟨-, -, rfl, rfl, hmerged⟩
    refine ⟨halone, [], [], .refl _, fun _ => hmerged, fun _ hnone => ?_, nofun⟩
    exact absurd hnone (by simp [hvisited])
  | none =>
    unfold Setup.loadTarget
    refine ensures_bind.2 ((h.tracked_locate hmem hs halone).mono_ok ?_)
    rintro target _ ⟨⟨⟨rfl, hprimitive⟩, hlocated⟩, hs₁, sources, rfl⟩
    refine Ensures.after rfl ?_
    have hended := h.tracked_validateEntry himporter htracks hlocated hprimitive
      (List.mem_singleton_self _) scope hs₁ (halone.of_eq rfl rfl rfl) hvisited
    refine Ensures.mono_ok hended ?_
    rintro r s₂ ⟨halone₂, new, checked, htrail, hconcluded⟩
    exact ⟨halone₂, new, checked, htrail.since rfl rfl rfl, hconcluded.merged, hconcluded.held,
      hconcluded.built⟩

end Orderly

end Season

end ModuleLoader
