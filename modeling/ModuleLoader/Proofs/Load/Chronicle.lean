import ModuleLoader.Proofs.Artifact.Place
import ModuleLoader.Proofs.Interface.Seal
import ModuleLoader.Proofs.Load.Course

/-!
# The chronicle of a disk

The loader shares its disk with other programs, and the checkers that it calls may change files too.
What it does to the disk itself is little: it writes artifacts, and a write that fails may have
taken an artifact away. A `Setup.Chronicle` tells what happened to a disk, change by change, and
names the author of each; what the loader writes must be an interface that it may write
(`Setup.Issues`): clean, sealed, of a module that was checked before, and to the path at which the
artifact of this module lies on one of the disks that there were meanwhile.

Every load has a chronicle (`Setup.acts_loadEntry`), with no assumption on checkers, codecs, finders
or files. Modules in progress matter here as well. None of them is checked again by what is resolved
for it, so while a module is in progress its artifact is written for the check in progress only.
-/

namespace ModuleLoader

open Load

/-- **A change of the disk that a check may ask for**, depending on how it is answered. -/
inductive Check.Edits {α : Type} : Check α → (Disk → Except DiskFault Disk) → Prop where
  /-- It asks for it now. -/
  | now {change : Disk → Except DiskFault Disk} {next : Except DiskFault Unit → Check α} :
      Edits (.ask (.edit change) next) change
  /-- It asks for it after some answer. -/
  | later {request : Request} {next : request.Answer → Check α}
      {change : Disk → Except DiskFault Disk} (answer : request.Answer) :
      Edits (next answer) change → Edits (.ask request next) change

/-- A check that abides by a rule under every answer asks for permitted changes only. -/
theorem Check.Abides.permitted_of_edits {α : Type} {rule : Check.Rule}
    (hgranted : ∀ module i, rule.granted module i) {check : Check α} (h : check.Abides rule)
    {change : Disk → Except DiskFault Disk} (hedits : check.Edits change) :
    rule.permitted change := by
  induction hedits with
  | now =>
    cases h with
    | edit hpermitted _ => exact hpermitted
  | later answer _ ih =>
    cases h with
    | resolve _ hok herror =>
      cases answer with
      | ok i => exact ih (hok i (hgranted _ i))
      | error e => exact ih (herror e)
    | context hnext => exact ih (hnext answer)
    | setOptions hnext => exact ih hnext
    | warn hnext => exact ih hnext
    | read hnext => exact ih (hnext answer)
    | edit _ hnext => exact ih (hnext answer)
    | note hnext => exact ih hnext

namespace Setup

/-! ## Who changes a disk -/

/-- A change of the disk that some check may ask for. -/
def MayEdit (setup : Setup) (change : Disk → Except DiskFault Disk) : Prop :=
  ∃ module source mode, (setup.checker module source mode).Edits change

/-- **Somebody else changes the disk**: another program, or a checker. -/
def Others (setup : Setup) (outside : List (Disk → Disk)) (d d' : Disk) : Prop :=
  (∃ change ∈ outside, change d = d') ∨ ∃ change, setup.MayEdit change ∧ change d = .ok d'

/-- Fewer programs change less. -/
theorem Others.mono {setup : Setup} {outside outside' : List (Disk → Disk)}
    (hsuffix : outside' <:+ outside) {d d' : Disk} (h : setup.Others outside' d d') :
    setup.Others outside d d' := by
  obtain ⟨change, hmem, heq⟩ | hchecker := h
  · exact .inl ⟨change, hsuffix.subset hmem, heq⟩
  · exact .inr hchecker

/-- **What the loader may write**: with writing enabled, a clean and sealed interface to the path at
which the artifact of its module lies, once that was located and checked. -/
structure Issues (setup : Setup) (located : ModuleName → Path → Prop) (checked : ModuleName → Prop)
    (path : Path) (i : Interface) : Prop where
  /-- Interfaces are written. -/
  enabled : setup.settings.build.writeInterfaces = true
  /-- The path is the one at which the artifact of the module lies. -/
  located : located i.name path
  /-- The module was checked. -/
  checked : checked i.name
  /-- There are no warnings. -/
  clean : i.hasWarnings = false
  /-- The full digest is that of the interface. -/
  computeHash_eq : i.computeHash setup.codec = .ok i.fullHash

/-- **A chronicle of a disk**: what has happened to it since the start. It lists the disks that there
were after the start, the changes that were made by others, each as the disk before and after it, and
what the loader has written. -/
inductive Chronicle (setup : Setup) (others : Disk → Disk → Prop)
    (located : ModuleName → Path → Prop) (checked : ModuleName → Prop) (start : Disk) :
    List Disk → List (Disk × Disk) → List (Path × Interface) → Disk → Prop where
  /-- Nothing has happened. -/
  | refl : Chronicle setup others located checked start [] [] [] start
  /-- Somebody else has changed the disk. -/
  | changed {disks : List Disk} {changes : List (Disk × Disk)} {written : List (Path × Interface)}
      {d d' : Disk} :
      Chronicle setup others located checked start disks changes written d → others d d' →
      Chronicle setup others located checked start (disks ++ [d']) (changes ++ [(d, d')]) written d'
  /-- The loader has written an interface. -/
  | wrote {disks : List Disk} {changes : List (Disk × Disk)} {written : List (Path × Interface)}
      {path : Path} {i j : Interface} {d d' : Disk} :
      Chronicle setup others located checked start disks changes written d →
      setup.Issues located checked path i →
      setup.store.write setup.codec path i d = (.ok j, d') →
      Chronicle setup others located checked start (disks ++ [d']) changes
        (written ++ [(path, i)]) d'
  /-- The loader has failed to write an interface. -/
  | failed {disks : List Disk} {changes : List (Disk × Disk)} {written : List (Path × Interface)}
      {path : Path} {i : Interface} {e : CacheError} {d d' : Disk} :
      Chronicle setup others located checked start disks changes written d →
      setup.Issues located checked path i →
      setup.store.write setup.codec path i d = (.error e, d') →
      Chronicle setup others located checked start (disks ++ [d']) changes written d'

variable {setup : Setup} {others others' : Disk → Disk → Prop}
  {located located' : ModuleName → Path → Prop} {checked checked' : ModuleName → Prop}
  {start d d' : Disk} {disks disks' : List Disk} {changes changes' : List (Disk × Disk)}
  {written written' : List (Path × Interface)}

/-- With more modules located and checked more may be written. -/
theorem Issues.mono {path : Path} {i : Interface} (hlocated : ∀ x p, located x p → located' x p)
    (hchecked : ∀ x, checked x → checked' x) (h : setup.Issues located checked path i) :
    setup.Issues located' checked' path i :=
  ⟨h.enabled, hlocated _ _ h.located, hchecked _ h.checked, h.clean, h.computeHash_eq⟩

namespace Chronicle

theorem mono (hothers : ∀ d d', others d d' → others' d d')
    (hlocated : ∀ x p, located x p → located' x p) (hchecked : ∀ x, checked x → checked' x)
    (h : setup.Chronicle others located checked start disks changes written d) :
    setup.Chronicle others' located' checked' start disks changes written d := by
  induction h with
  | refl => exact .refl
  | changed _ hchange ih => exact .changed ih (hothers _ _ hchange)
  | wrote _ hissues hwrite ih => exact .wrote ih (hissues.mono hlocated hchecked) hwrite
  | failed _ hissues hwrite ih => exact .failed ih (hissues.mono hlocated hchecked) hwrite

/-- One chronicle after another. -/
theorem trans (h : setup.Chronicle others located checked start disks changes written d)
    (h' : setup.Chronicle others located checked d disks' changes' written' d') :
    setup.Chronicle others located checked start (disks ++ disks') (changes ++ changes')
      (written ++ written') d' := by
  induction h' with
  | refl => rwa [List.append_nil, List.append_nil, List.append_nil]
  | changed _ hchange ih =>
    rw [← List.append_assoc, ← List.append_assoc]
    exact .changed ih hchange
  | wrote _ hissues hwrite ih =>
    rw [← List.append_assoc, ← List.append_assoc]
    exact .wrote ih hissues hwrite
  | failed _ hissues hwrite ih =>
    rw [← List.append_assoc]
    exact .failed ih hissues hwrite

/-- The disk that there is now is one of those that there were. -/
theorem mem_disks (h : setup.Chronicle others located checked start disks changes written d) :
    d ∈ start :: disks := by
  cases h with
  | refl => exact List.mem_cons_self
  | changed | wrote | failed => exact List.mem_cons_of_mem _ (by simp)

/-- All that others change is changed by others. -/
theorem others_of_mem (h : setup.Chronicle others located checked start disks changes written d)
    {change : Disk × Disk} (hmem : change ∈ changes) : others change.1 change.2 := by
  induction h with
  | refl => exact absurd hmem List.not_mem_nil
  | changed _ hchange ih =>
    obtain hmem | hlast := List.mem_append.1 hmem
    · exact ih hmem
    · rw [List.mem_singleton.1 hlast]
      exact hchange
  | wrote _ _ _ ih => exact ih hmem
  | failed _ _ _ ih => exact ih hmem

/-- **All that is written may be written.** -/
theorem issues (h : setup.Chronicle others located checked start disks changes written d)
    {path : Path} {i : Interface} (hmem : (path, i) ∈ written) : setup.Issues located checked path i := by
  induction h with
  | refl => exact absurd hmem List.not_mem_nil
  | changed _ _ ih => exact ih hmem
  | wrote _ hissues _ ih =>
    obtain hmem | hlast := List.mem_append.1 hmem
    · exact ih hmem
    · obtain ⟨rfl, rfl⟩ := Prod.mk.inj (List.mem_singleton.1 hlast)
      exact hissues
  | failed _ _ _ ih => exact ih hmem

/-- **No interface of a module is new** that was not checked, unless somebody else has put one on
disk. -/
theorem onDisk_of_not_checked (hcodec : setup.codec.Faithful) {module : ModuleName}
    (hchecked : ¬ checked module) {i : Interface} (hi : i.name = module)
    (hothers : ∀ d d', others d d' → i.OnDisk compilerVersion setup.codec d' →
      i.OnDisk compilerVersion setup.codec d)
    (h : setup.Chronicle others located checked start disks changes written d)
    (hdisk : i.OnDisk compilerVersion setup.codec d) :
    i.OnDisk compilerVersion setup.codec start := by
  have hwrite : ∀ {path : Path} {j : Interface} {d : Disk}, setup.Issues located checked path j →
      i.OnDisk compilerVersion setup.codec (setup.store.write setup.codec path j d).2 →
      i.OnDisk compilerVersion setup.codec d := by
    intro path j d hissues hafter
    refine (Interface.OnDisk.of_write setup.readable_store hcodec hafter).resolve_right ?_
    rintro rfl
    exact hchecked (hi ▸ hissues.checked)
  induction h with
  | refl => exact hdisk
  | changed _ hchange ih => exact ih (hothers _ _ hchange hdisk)
  | wrote _ hissues heq ih => exact ih (hwrite hissues (by rw [heq]; exact hdisk))
  | failed _ hissues heq ih => exact ih (hwrite hissues (by rw [heq]; exact hdisk))

end Chronicle

end Setup

/-! ## Along a load -/

/-- **What a load has done** from one state to another while some modules are in progress, some being
*known* to be checked, and known where their artifacts lie. None of those in progress was settled or
checked, and there is a chronicle of the disk. -/
structure LoadState.Acts (setup : Setup) (located : ModuleName → Path → Prop)
    (known : ModuleName → Prop) (frames : List ModuleName) (s s' : LoadState) : Prop where
  /-- Modules were settled after the others. -/
  settled : LoadState.Extends frames s s'
  /-- Events were recorded after the others, other programs may have done some of what they are
  going to do, and the disk has changed accordingly. -/
  deeds : ∃ events disks changes written, s'.world.journal = s.world.journal ++ events ∧
    s'.world.outside <:+ s.world.outside ∧
    (∀ x mode, .checking x mode ∈ events → x ∉ frames) ∧
    setup.Chronicle (setup.Others s.world.outside)
      (fun x path => located x path ∨ setup.LiesOn (s.world.disk :: disks) x path)
      (fun x => known x ∨ .checking x .batch ∈ events)
      s.world.disk disks changes written s'.world.disk

namespace LoadState.Acts

variable {setup : Setup} {located located' : ModuleName → Path → Prop}
  {known known' : ModuleName → Prop} {frames frames' : List ModuleName} {s s₁ s₂ s₃ : LoadState}

/-- Where nothing is settled and the world stays as it is nothing was done. -/
theorem of_eq (hvisited : s₂.caches.visited = s₁.caches.visited) (hworld : s₂.world = s₁.world) :
    Acts setup located known frames s₁ s₂ := by
  refine ⟨.of_eq hvisited, [], [], [], [], ?_, ?_, nofun, ?_⟩
  · rw [hworld, List.append_nil]
  · exact hworld ▸ List.suffix_refl s₂.world.outside
  · rw [hworld]
    exact .refl

theorem refl (s : LoadState) : Acts setup located known frames s s := of_eq rfl rfl

theorem trans (h : Acts setup located known frames s₁ s₂)
    (h' : Acts setup located known frames s₂ s₃) : Acts setup located known frames s₁ s₃ := by
  obtain ⟨hsettled, events, disks, changes, written, hjournal, houtside, hnew, hchronicle⟩ := h
  obtain ⟨hsettled', events', disks', changes', written', hjournal', houtside', hnew',
    hchronicle'⟩ := h'
  have hdisks : s₁.world.disk :: disks ⊆ s₁.world.disk :: (disks ++ disks') :=
    List.cons_subset_cons _ (List.subset_append_left disks disks')
  -- The second part begins with a disk that there was in the first.
  have hdisks' : s₂.world.disk :: disks' ⊆ s₁.world.disk :: (disks ++ disks') :=
    List.cons_subset.2 ⟨List.mem_append_left disks' hchronicle.mem_disks,
      fun d hd => List.mem_cons_of_mem _ (List.mem_append_right _ hd)⟩
  have hfirst := hchronicle.mono (fun _ _ => id)
    (fun _ _ => Or.imp_right (Setup.LiesOn.mono hdisks))
    (fun _ => Or.imp_right (List.mem_append_left events'))
  have hsecond := hchronicle'.mono (fun _ _ => Setup.Others.mono houtside)
    (fun _ _ => Or.imp_right (Setup.LiesOn.mono hdisks'))
    (fun _ => Or.imp_right (List.mem_append_right events))
  refine ⟨hsettled.trans hsettled', events ++ events', disks ++ disks', changes ++ changes',
    written ++ written', ?_, houtside'.trans houtside, ?_, hfirst.trans hsecond⟩
  · rw [hjournal', hjournal, List.append_assoc]
  · intro x mode hmem
    obtain hmem | hmem := List.mem_append.1 hmem
    · exact hnew x mode hmem
    · exact hnew' x mode hmem

/-- With fewer modules in progress less is excluded. -/
theorem of_subset (hsubset : frames ⊆ frames') (h : Acts setup located known frames' s₁ s₂) :
    Acts setup located known frames s₁ s₂ := by
  obtain ⟨hsettled, events, disks, changes, written, hjournal, houtside, hnew, hchronicle⟩ := h
  exact ⟨hsettled.of_subset hsubset, events, disks, changes, written, hjournal, houtside,
    fun x mode hmem hx => hnew x mode hmem (hsubset hx), hchronicle⟩

/-- With more modules known more may be written. -/
theorem mono (hlocated : ∀ x path, located x path → located' x path)
    (hknown : ∀ x, known x → known' x) (h : Acts setup located known frames s₁ s₂) :
    Acts setup located' known' frames s₁ s₂ := by
  obtain ⟨hsettled, events, disks, changes, written, hjournal, houtside, hnew, hchronicle⟩ := h
  exact ⟨hsettled, events, disks, changes, written, hjournal, houtside, hnew,
    hchronicle.mono (fun _ _ => id) (fun x path => Or.imp_left (hlocated x path))
      fun x => Or.imp_left (hknown x)⟩

/-- What other programs are going to do comes to its end. -/
theorem outside (h : Acts setup located known frames s₁ s₂) :
    s₂.world.outside <:+ s₁.world.outside := by
  obtain ⟨-, -, -, -, -, -, houtside, -, -⟩ := h
  exact houtside

/-- Another program gets in before an access. -/
theorem access (s : LoadState) : Acts setup located known frames s s.access := by
  cases houtside : s.world.outside with
  | nil =>
    refine of_eq rfl ?_
    show s.world.next = s.world
    unfold World.next
    rw [houtside]
  | cons change rest =>
    have hnext : s.access.world
        = { s.world with disk := change s.world.disk, outside := rest } := by
      show s.world.next = _
      unfold World.next
      rw [houtside]
    refine ⟨.of_eq rfl, [], [change s.world.disk], [(s.world.disk, change s.world.disk)], [], ?_,
      ?_, nofun, ?_⟩
    · rw [hnext, List.append_nil]
    · rw [hnext, houtside]
      exact List.suffix_cons change rest
    · rw [hnext, houtside]
      exact .changed .refl (.inl ⟨change, List.mem_cons_self, rfl⟩)

/-- An event that is no call of a checker is recorded. -/
theorem record (s : LoadState) {event : Event} (hevent : ∀ x mode, event ≠ .checking x mode) :
    Acts setup located known frames s (s.record event) := by
  refine ⟨.of_eq rfl, [event], [], [], [], rfl, List.suffix_refl _, fun x mode hmem => ?_, .refl⟩
  exact absurd (List.mem_singleton.1 hmem).symm (hevent x mode)

/-- A module that is not in progress is settled, unless it was settled before. -/
theorem settle {x : ModuleName} (hnew : x ∉ frames) (entry : VisitedEntry) (s : LoadState) :
    Acts setup located known frames s (s.settle x entry) := by
  have hnothing : Acts setup located known frames s s := of_eq rfl rfl
  exact ⟨.settle hnew, hnothing.deeds⟩

/-- **A module is located**: on the disk that there is now its artifact lies at a path, and from then
on this is known. -/
theorem locating {x : ModuleName} {path : Path} (hlies : setup.LiesOn [s.world.disk] x path)
    (h : Acts setup (fun y p => located y p ∨ y = x ∧ p = path) known frames s s₂) :
    Acts setup located known frames s s₂ := by
  obtain ⟨hsettled, events, disks, changes, written, hjournal, houtside, hnew, hchronicle⟩ := h
  refine ⟨hsettled, events, disks, changes, written, hjournal, houtside, hnew,
    hchronicle.mono (fun _ _ => id) (fun y p hy => ?_) fun _ => id⟩
  obtain (hy | ⟨rfl, rfl⟩) | hy := hy
  · exact .inl hy
  · exact .inr (hlies.mono (List.cons_subset_cons _ (List.nil_subset disks)))
  · exact .inr hy

/-- **A checker is called on a module** that is not in progress. After a call that settles, the
module is known to be checked. -/
theorem checking {x : ModuleName} {mode : CheckMode} (hnew : x ∉ frames)
    (h : Acts setup located (fun y => known y ∨ y = x ∧ mode = .batch) frames
      (s.record (.checking x mode)) s₂) : Acts setup located known frames s s₂ := by
  obtain ⟨hsettled, events, disks, changes, written, hjournal, houtside, hnew', hchronicle⟩ := h
  refine ⟨hsettled, .checking x mode :: events, disks, changes, written, ?_, houtside,
    fun y mode' hmem => ?_, ?_⟩
  · rw [hjournal]
    exact List.append_assoc _ _ _
  · obtain heq | hmem := List.mem_cons.1 hmem
    · obtain ⟨rfl, rfl⟩ := Event.checking.inj heq
      exact hnew
    · exact hnew' y mode' hmem
  · refine hchronicle.mono (fun _ _ => id) (fun _ _ => id) fun y hy => ?_
    obtain (hy | ⟨rfl, rfl⟩) | hy := hy
    · exact .inl hy
    · exact .inr List.mem_cons_self
    · exact .inr (List.mem_cons_of_mem _ hy)

/-- A checker changes the disk. -/
theorem withDisk {d : Disk} {change : Disk → Except DiskFault Disk} (hedits : setup.MayEdit change)
    (h : change s.world.disk = .ok d) : Acts setup located known frames s (s.withDisk d) :=
  ⟨.of_eq rfl, [], _, _, [], (List.append_nil _).symm, List.suffix_refl _, nofun,
    .changed .refl (.inr ⟨change, hedits, h⟩)⟩

/-- **An interface is written**, or that fails. -/
theorem write {path : Path} {i : Interface} (hissues : setup.Issues located known path i)
    (s : LoadState) : Acts setup located known frames s
      (s.withDisk (setup.store.write setup.codec path i s.world.disk).2) := by
  have hissues' : ∀ disks, setup.Issues
      (fun x path => located x path ∨ setup.LiesOn (s.world.disk :: disks) x path)
      (fun x => known x ∨ Event.checking x .batch ∈ []) path i :=
    fun _ => hissues.mono (fun _ _ => Or.inl) fun _ => Or.inl
  refine ⟨.of_eq rfl, ?_⟩
  cases hwrite : setup.store.write setup.codec path i s.world.disk with
  | mk result d =>
    cases result with
    | ok j =>
      exact ⟨[], _, [], _, (List.append_nil _).symm, List.suffix_refl _, nofun,
        .wrote .refl (hissues' _) hwrite⟩
    | error e =>
      exact ⟨[], _, [], _, (List.append_nil _).symm, List.suffix_refl _, nofun,
        .failed .refl (hissues' _) hwrite⟩

/-- **No interface of a module in progress is new**, unless somebody else has put one on disk. -/
theorem onDisk (h : Acts setup located (fun _ => False) frames s₁ s₂)
    (hcodec : setup.codec.Faithful) {i : Interface} (hi : i.name ∈ frames)
    (hothers : ∀ d d', setup.Others s₁.world.outside d d' →
      i.OnDisk Setup.compilerVersion setup.codec d' → i.OnDisk Setup.compilerVersion setup.codec d)
    (hdisk : i.OnDisk Setup.compilerVersion setup.codec s₂.world.disk) :
    i.OnDisk Setup.compilerVersion setup.codec s₁.world.disk := by
  obtain ⟨-, events, disks, changes, written, -, -, hnew, hchronicle⟩ := h
  refine hchronicle.onDisk_of_not_checked hcodec ?_ rfl hothers hdisk
  rintro (hfalse | hmem)
  · exact hfalse
  · exact hnew _ _ hmem hi

end LoadState.Acts

namespace Load

variable {α β : Type} {setup : Setup} {located : ModuleName → Path → Prop}
  {known : ModuleName → Prop} {frames : List ModuleName} {load : Load α}

/-- **What a load does, whatever state it starts in and however it ends.** -/
def Acts (setup : Setup) (located : ModuleName → Path → Prop) (known : ModuleName → Prop)
    (frames : List ModuleName) (load : Load α) : Prop :=
  ∀ s r s', load.run.run s = some (r, s') → LoadState.Acts setup located known frames s s'

/-- What holds of the result of a load, whatever state it starts in. -/
def Yields (ok : α → Prop) (load : Load α) : Prop :=
  ∀ s a s', load.run.run s = some (.ok a, s') → ok a

namespace Acts

theorem of_run {a : LoadState → α} {s' : LoadState → LoadState}
    (hrun : ∀ s, load.run.run s = some (.ok (a s), s' s))
    (h : ∀ s, LoadState.Acts setup located known frames s (s' s)) :
    load.Acts setup located known frames := by
  intro s r t hload
  obtain ⟨rfl, rfl⟩ := Prod.mk.inj (Option.some.inj ((hrun s).symm.trans hload))
  exact h s

theorem pure (a : α) : (pure a : Load α).Acts setup located known frames :=
  of_run (fun _ => rfl) LoadState.Acts.refl

theorem throw (e : LoadError) : (throw e : Load α).Acts setup located known frames := by
  intro s r s' hrun
  obtain ⟨rfl, rfl⟩ := Prod.mk.inj (Option.some.inj hrun)
  exact .refl s

theorem ofExcept (result : Except LoadError α) :
    (ofExcept result).Acts setup located known frames := by
  cases result with
  | ok a => exact pure a
  | error e => exact throw e

/-- One load after another, the first with a result of which something holds. -/
theorem bind_of {ok : α → Prop} (hok : load.Yields ok) (h : load.Acts setup located known frames)
    {next : α → Load β} (hnext : ∀ a, ok a → (next a).Acts setup located known frames) :
    (load >>= next).Acts setup located known frames := by
  intro s r s'' hrun
  rw [run_bind] at hrun
  obtain ⟨⟨r₁, s'⟩, hrun₁, hrun⟩ := Option.bind_eq_some_iff.1 hrun
  have hfirst := h s r₁ s' hrun₁
  cases r₁ with
  | ok a => exact hfirst.trans (hnext a (hok s a s' hrun₁) s' r s'' hrun)
  | error e =>
    obtain ⟨rfl, rfl⟩ := Prod.mk.inj (Option.some.inj hrun)
    exact hfirst

/-- One load after another. -/
theorem bind (h : load.Acts setup located known frames) {next : α → Load β}
    (hnext : ∀ a, (next a).Acts setup located known frames) :
    (load >>= next).Acts setup located known frames := by
  have hany : load.Yields fun _ => True := fun _ _ _ _ => trivial
  exact bind_of hany h fun a _ => hnext a

/-- A failure that is looked at is no failure any more. -/
theorem outcome (h : load.Acts setup located known frames) :
    load.outcome.Acts setup located known frames := by
  intro s r s' hrun
  rw [run_outcome] at hrun
  obtain ⟨⟨r₁, s₁⟩, hload, heq⟩ := Option.map_eq_some_iff.1 hrun
  obtain ⟨rfl, rfl⟩ := Prod.mk.inj heq
  exact h s r₁ s₁ hload

theorem mono {located' : ModuleName → Path → Prop} {known' : ModuleName → Prop}
    (hlocated : ∀ x path, located x path → located' x path) (hknown : ∀ x, known x → known' x)
    (h : load.Acts setup located known frames) : load.Acts setup located' known' frames :=
  fun s r s' hrun => (h s r s' hrun).mono hlocated hknown

theorem of_subset {frames' : List ModuleName} (hsubset : frames ⊆ frames')
    (h : load.Acts setup located known frames') : load.Acts setup located known frames :=
  fun s r s' hrun => (h s r s' hrun).of_subset hsubset

theorem disk : disk.Acts setup located known frames := of_run run_disk LoadState.Acts.access

end Acts

end Load

namespace Setup

variable {setup : Setup} {located : ModuleName → Path → Prop} {known : ModuleName → Prop}
  {frames : List ModuleName} {importer : Importer} {target : Target} {module : ModuleName}
  {mode : CheckMode}

/-! ### Steps -/

theorem acts_locate : (setup.locate module).Acts setup located known frames := by
  intro s r s' hrun
  have htwice : LoadState.Acts setup located known frames s s.access.access :=
    (LoadState.Acts.access s).trans (.access s.access)
  cases locates_of_run hrun with
  | missing _ => exact .access s
  | unreadable _ _ => exact htwice
  | located _ _ => exact htwice.trans (.of_eq rfl rfl)

theorem acts_refresh : (refresh target).Acts setup located known frames := by
  intro s r s' hrun
  cases refreshes_of_run hrun with
  | unreadable _ => exact .access s
  | refreshed _ => exact (LoadState.Acts.access s).trans (.of_eq rfl rfl)

theorem acts_stored : (setup.stored target).Acts setup located known frames := by
  intro s r s' hrun
  have hlooked : LoadState.Acts setup located known frames s (setup.lookedUp s target) :=
    (LoadState.Acts.access s).trans (.of_eq rfl rfl)
  have htwice := (hlooked.trans (.access _)).trans (.access _)
  cases looksUp_of_run hrun with
  | decoded _ _ _ => exact hlooked
  | absent _ => exact hlooked.trans (.access _)
  | unreadable _ => exact htwice
  | read _ => exact htwice

theorem acts_keep {i : Interface} : (Load.keep module i).Acts setup located known frames :=
  Acts.of_run (fun _ => rfl) fun _ => .of_eq rfl rfl

theorem acts_note (text : String) : (Load.record (.note text)).Acts setup located known frames := by
  have hrun : ∀ s, (Load.record (.note text)).run.run s = some (.ok (), s.record (.note text)) :=
    fun _ => rfl
  exact Acts.of_run hrun fun s => .record s fun _ _ => nofun

theorem acts_persist {i : Interface} (hissues : setup.Issues located known target.interfacePath i) :
    (setup.persist target i).Acts setup located known frames := by
  intro s r s' hrun
  have hwrite : LoadState.Acts setup located known frames s (s.access.withDisk
      (setup.store.write setup.codec target.interfacePath i s.nextDisk).2) :=
    (LoadState.Acts.access s).trans (.write hissues s.access)
  cases persists_of_run hrun with
  | written hwritten =>
    rw [hwritten] at hwrite
    exact hwrite.trans (.of_eq rfl rfl)
  | failed hfailed =>
    rw [hfailed] at hwrite
    exact hwrite

/-- A module that is located has its name and its artifact where that lies. -/
theorem yields_locate :
    (setup.locate module).Yields fun target => target.name = module ∧ setup.Placed target := by
  intro s target s' hrun
  obtain ⟨found, file, _, hfound, -, rfl, -⟩ := locate_eq_ok hrun
  exact ⟨rfl, setup.placed_targetAt hfound file⟩

/-- **Once a module is located** it is known where its artifact lies, and whatever is done next may
make use of that. -/
theorem acts_locating {α : Type} {next : Target → Load α}
    (hnext : ∀ (target : Target) (located' : ModuleName → Path → Prop), target.name = module →
      (∀ x path, located x path → located' x path) → located' target.name target.interfacePath →
      (next target).Acts setup located' known frames) :
    (setup.locate module >>= next).Acts setup located known frames := by
  intro s r s'' hrun
  rw [Load.run_bind] at hrun
  obtain ⟨⟨outcome, s'⟩, hlocate, hrun⟩ := Option.bind_eq_some_iff.1 hrun
  cases outcome with
  | error e =>
    obtain ⟨rfl, rfl⟩ := Prod.mk.inj (Option.some.inj hrun)
    exact acts_locate _ _ _ hlocate
  | ok target =>
    obtain ⟨found, file, sources, hfound, -, rfl, rfl⟩ := locate_eq_ok hlocate
    have hlies : setup.LiesOn [s.access.world.disk] module
        (setup.targetAt module found file).interfacePath :=
      ⟨_, List.mem_singleton_self _, found, hfound, setup.interfacePath_targetAt module found file⟩
    have hrest := hnext (setup.targetAt module found file)
      (fun x path => located x path ∨ x = module ∧
        path = (setup.targetAt module found file).interfacePath) rfl
      (fun _ _ => Or.inl) (.inr ⟨rfl, rfl⟩) _ _ _ hrun
    refine (LoadState.Acts.access s).trans (.locating hlies ?_)
    refine ((LoadState.Acts.access s.access).trans ?_).trans hrest
    exact .of_eq rfl rfl

/-- A target that is read again is the same but for its source. -/
theorem yields_refresh :
    (refresh target).Yields fun target' => ∃ source, target' = { target with source } := by
  intro s target' s' hrun
  cases refreshes_of_run hrun with
  | refreshed _ => exact ⟨_, rfl⟩

/-! ### The functions of the loader -/

section Importing

variable (himporter : ∀ scope m, (importer scope m).Acts setup located known frames)

include himporter

theorem acts_importInto (context : CheckContext) (imported : ModuleName) :
    (setup.importInto importer context imported).Acts setup located known frames := by
  rw [importInto_eq]
  exact (himporter context.scope imported).outcome.bind fun _ => Acts.pure _

/-- A request is answered: of the changes it may ask for. -/
theorem acts_answer (context : CheckContext) (request : Request)
    (hedits : ∀ change, request = .edit change → setup.MayEdit change) :
    (setup.answer importer context request).Acts setup located known frames := by
  cases request with
  | resolve imported => exact acts_importInto himporter context imported
  | context => exact Acts.pure _
  | setOptions options => exact Acts.pure _
  | warn warning => exact Acts.pure _
  | read path => exact Acts.disk.bind fun _ => Acts.pure _
  | edit change =>
    refine Acts.bind ?_ fun _ => Acts.pure _
    intro s r s' hrun
    cases edits_of_run hrun with
    | changed hchange =>
      exact (LoadState.Acts.access s).trans (.withDisk (hedits change rfl) hchange)
    | refused _ => exact .access s
  | note text =>
    exact (acts_note text).bind fun _ => Acts.pure _

/-- **A check acts through its requests**, by induction on them. -/
theorem acts_run {α : Type} (check : Check α) (context : CheckContext)
    (hedits : ∀ change, check.Edits change → setup.MayEdit change) :
    (setup.run importer context check).Acts setup located known frames := by
  induction check generalizing context with
  | done result => exact Acts.pure _
  | fail error => exact Acts.throw _
  | ask request next ih =>
    refine (acts_answer himporter context request ?_).bind fun r => ?_
    · rintro change rfl
      exact hedits change .now
    · exact ih r.1 r.2 fun change h => hedits change (.later r.1 h)

theorem acts_changedImport? (scope : ImportedScope) (imports : List (ModuleName × Digest)) :
    (Interface.changedImport? (currentHash importer scope) imports).Acts setup located known
      frames := by
  induction imports with
  | nil => exact Acts.pure _
  | cons e rest ih =>
    obtain ⟨imported, recorded⟩ := e
    unfold Interface.changedImport? currentHash
    refine ((himporter scope imported).bind fun _ => Acts.pure _).bind fun digest => ?_
    split
    · exact ih
    · exact Acts.pure _

theorem acts_validate (target : Target) (scope : ImportedScope) :
    (setup.validate importer target scope).Acts setup located known frames := by
  unfold validate
  refine acts_stored.bind fun r => ?_
  cases r with
  | error reason => exact Acts.pure _
  | ok i =>
    dsimp only
    split
    · exact Acts.pure _
    · refine (acts_changedImport? himporter scope i.imports).bind fun reason => ?_
      cases reason with
      | some reason => exact Acts.pure _
      | none => exact acts_keep.bind fun _ => Acts.pure _

end Importing

variable (himporter : ∀ scope m, (importer scope m).Acts setup located known frames)

include himporter

/-- **A target is checked, and what comes of it may be written**, as long as it is not in progress
elsewhere. -/
theorem acts_build (hlocated : located target.name target.interfacePath)
    (hnew : target.name ∉ frames) (mode : CheckMode) (scope : ImportedScope) :
    (setup.build importer target mode scope).Acts setup located known frames := by
  intro s r s' hrun
  unfold build at hrun
  rw [Load.run_bind] at hrun
  refine LoadState.Acts.checking hnew (Acts.bind ?_ (fun p => ?_) _ _ _ hrun)
  · exact acts_run (fun scope m => (himporter scope m).mono (fun _ _ => id) fun _ => Or.inl) _ _
      fun change h => ⟨target.name, target.source, mode, h⟩
  obtain ⟨checked, context⟩ := p
  dsimp only
  split
  · rename_i hname
    have hyields : (Load.ofExcept (((setup.interfaceOf target checked context).sealed
        setup.codec).mapError .cache)).Yields fun i =>
          (setup.interfaceOf target checked context).sealed setup.codec = .ok i := by
      intro t i t' h
      cases hsealed : (setup.interfaceOf target checked context).sealed setup.codec with
      | error e => rw [hsealed] at h; exact absurd (congrArg Prod.fst (Option.some.inj h)) nofun
      | ok j =>
        rw [hsealed] at h
        exact congrArg Except.ok (Except.ok.inj (congrArg Prod.fst (Option.some.inj h)))
    refine Acts.bind_of hyields (Acts.ofExcept _) fun i hsealed => ?_
    split
    · rename_i hwrites
      unfold writes at hwrites
      simp only [Bool.and_eq_true, CheckMode.persists_iff, Bool.not_eq_true'] at hwrites
      obtain ⟨⟨hmode, hclean⟩, henabled⟩ := hwrites
      have hi : i.name = target.name := by
        obtain ⟨body, -, rfl⟩ := Interface.sealed_eq_ok hsealed
        exact hname
      have hissues : setup.Issues located (fun y => known y ∨ y = target.name ∧ mode = .batch)
          target.interfacePath i := by
        exact ⟨henabled, hi.symm ▸ hlocated, .inr ⟨hi, hmode⟩, hclean,
          Interface.computeHash_of_sealed hsealed⟩
      exact (acts_persist hissues).bind fun _ => Acts.pure _
    · exact Acts.pure _
  · exact Acts.throw _

theorem acts_rebuild (scope : ImportedScope) (left : Nat)
    (hlocated : located target.name target.interfacePath) (hnew : target.name ∉ frames) :
    (setup.rebuild importer scope left target).Acts setup located known frames := by
  induction left generalizing target with
  | zero => exact Acts.throw _
  | succ left ih =>
    unfold rebuild
    refine (acts_build himporter hlocated hnew .batch scope).bind fun built => ?_
    split
    · refine Acts.bind_of yields_refresh acts_refresh ?_
      rintro _ ⟨source, rfl⟩
      refine (acts_validate himporter _ scope).bind fun r => ?_
      cases r with
      | ok i => exact Acts.pure _
      | error reason => exact ih hlocated hnew
    · exact Acts.pure _

theorem acts_obtain (scope : ImportedScope) (hlocated : located target.name target.interfacePath)
    (hnew : target.name ∉ frames) :
    (setup.obtain importer scope target).Acts setup located known frames := by
  unfold obtain
  refine (acts_validate himporter target scope).bind fun r => ?_
  cases r with
  | ok i => exact Acts.pure _
  | error reason =>
    exact (acts_rebuild himporter scope setup.attempts hlocated hnew).bind fun _ => Acts.pure _

omit himporter in
theorem acts_visited? : (Load.visited? module).Acts setup located known frames :=
  Acts.of_run (fun _ => rfl) LoadState.Acts.refl

omit himporter in
theorem acts_settle (hnew : module ∉ frames) (entry : VisitedEntry) :
    (Load.settle module entry).Acts setup located known frames := by
  have hrun : ∀ s, (Load.settle module entry).run.run s
      = some (.ok (), (s.settle module entry).record (.settled module)) := fun _ => rfl
  exact Acts.of_run hrun fun s =>
    (LoadState.Acts.settle hnew entry s).trans (.record _ fun _ _ => nofun)

/-- A module is settled on request, if it is not in progress. -/
theorem acts_settleImport (hnew : module ∉ frames) (scope : ImportedScope) :
    (setup.settleImport importer scope module).Acts setup located known frames := by
  unfold settleImport
  refine acts_visited?.bind fun known? => ?_
  cases known? with
  | some entry => exact Acts.pure _
  | none =>
    refine acts_locating fun target located' hname hmore hlocated => ?_
    obtain rfl := hname
    have himporter' := fun scope m => (himporter scope m).mono hmore fun _ => id
    refine (acts_obtain himporter' scope hlocated hnew).bind fun entry => ?_
    exact (acts_settle hnew entry).bind fun _ => Acts.pure _

omit himporter in
/-- **Resolving an import acts on modules only that are not in progress**, to every depth. -/
theorem acts_resolve (depth : Nat) (stack : ImportStack) (scope : ImportedScope)
    (module : ModuleName) :
    (setup.resolve depth stack scope module).Acts setup located known stack.frames := by
  induction depth generalizing stack scope module with
  | zero => exact fun _ _ _ hrun => nomatch hrun
  | succ depth ih =>
    rw [resolve_succ]
    unfold resolveStep entering
    refine Acts.bind ?_ fun entry => ?_
    · cases hpush : stack.push module with
      | error cycle => exact Acts.throw _
      | ok pushed =>
        have hsubset : stack.frames ⊆ pushed.frames :=
          ImportStack.frames_of_push hpush ▸ List.subset_append_left _ _
        exact acts_settleImport (fun scope m => (ih pushed scope m).of_subset hsubset)
          (ImportStack.notMem_of_push hpush) scope
    · split
      · exact Acts.pure _
      · exact Acts.throw _

/-! ### Entry modules -/

omit himporter in
theorem acts_settleEntry (hnew : module ∉ frames) (entry : VisitedEntry) :
    (settleEntry mode module entry).Acts setup located known frames := by
  unfold settleEntry
  split
  · exact acts_settle hnew entry
  · exact Acts.pure _

omit himporter in
theorem acts_reuse (scope : ImportedScope) (i : Interface) (warnings : List Diagnostic) :
    (reuse scope i warnings).Acts setup located known frames := by
  unfold reuse
  refine Acts.bind (Acts.of_run run_get LoadState.Acts.refl) fun s => ?_
  exact (Acts.ofExcept _).bind fun _ => Acts.pure _

theorem acts_buildEntry (hlocated : located target.name target.interfacePath)
    (hnew : target.name ∉ frames) (scope : ImportedScope) :
    (setup.buildEntry importer target mode scope).Acts setup located known frames := by
  unfold buildEntry
  refine (acts_build himporter hlocated hnew mode scope).bind fun built => ?_
  exact (acts_settleEntry hnew _).bind fun _ => (Acts.ofExcept _).bind fun _ => Acts.pure _

theorem acts_validateEntry (hlocated : located target.name target.interfacePath)
    (hnew : target.name ∉ frames) (scope : ImportedScope) :
    (setup.validateEntry importer target mode scope).Acts setup located known frames := by
  unfold validateEntry
  refine (acts_validate himporter target scope).bind fun r => ?_
  cases r with
  | ok i => exact (acts_settleEntry hnew _).bind fun _ => acts_reuse scope i []
  | error reason => exact acts_buildEntry himporter hlocated hnew scope

omit himporter in
theorem acts_refreshFor : (refreshFor mode target).Acts setup located known frames := by
  unfold refreshFor
  split
  · exact Acts.pure _
  · exact acts_refresh

omit himporter in
/-- Reading the source again, or not, leaves a target the same otherwise. -/
theorem yields_refreshFor :
    (refreshFor mode target).Yields fun target' => ∃ source, target' = { target with source } := by
  unfold refreshFor
  split
  · intro s target' s' hrun
    exact ⟨target.source, (Except.ok.inj (congrArg Prod.fst (Option.some.inj hrun))).symm⟩
  · exact yields_refresh

/-- **What the load of an entry module does**, while the module is in progress but nothing else that
is excluded. -/
theorem acts_loadEntry (hnew : module ∉ frames) (scope : ImportedScope) :
    (setup.loadEntry importer scope module mode).Acts setup located known frames := by
  unfold loadEntry
  refine acts_visited?.bind fun known? => ?_
  split
  · exact acts_reuse _ _ _
  · unfold loadTarget
    refine acts_locating fun target located' hname hmore hlocated => ?_
    obtain rfl := hname
    have himporter' := fun scope m => (himporter scope m).mono hmore fun _ => id
    refine Acts.bind_of yields_refreshFor acts_refreshFor ?_
    rintro _ ⟨source, rfl⟩
    have hlocated' : located' ({ target with source } : Target).name
        ({ target with source } : Target).interfacePath := hlocated
    split
    · exact acts_buildEntry himporter' hlocated' hnew scope
    · exact acts_validateEntry himporter' hlocated' hnew scope

end Setup

end ModuleLoader
