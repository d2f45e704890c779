import ModuleLoader.Proofs.Load.Conduct

/-!
# What a load leaves alone

While modules are in progress, whatever is resolved for them avoids them (`Setup.avoidance`): none
of them is settled, what is decoded of them stays as it is, and what the loader writes to disk are
interfaces of other modules, where the artifacts of those lie.

The disk is another matter, since the loader is not alone with it. A `Setup.Passage` says how one
disk has become another: by changes that others made and by writes of the loader, both of them
listed. Other than in a chronicle, a write that fails is listed too, for it may have made
directories, and it takes away the file that it found. So if a property of disks survives what is
listed then it survives the passage (`Setup.Passage.keeps`).
-/

namespace ModuleLoader

open Load

namespace Setup

/-- **A passage of a disk** since the start: the changes that others have made, each as the disk
before and after it, and the interfaces that the loader has written or has failed to write, each
where the artifact of its module lies. -/
inductive Passage (setup : Setup) (others : Disk → Disk → Prop) (start : Disk) :
    List (Disk × Disk) → List (Path × Interface) → Disk → Prop where
  /-- Nothing has happened. -/
  | refl : Passage setup others start [] [] start
  /-- Somebody else has changed the disk. -/
  | changed {changes : List (Disk × Disk)} {tried : List (Path × Interface)} {d d' : Disk} :
      Passage setup others start changes tried d → others d d' →
      Passage setup others start (changes ++ [(d, d')]) tried d'
  /-- The loader has written an interface, or has failed to. -/
  | wrote {changes : List (Disk × Disk)} {tried : List (Path × Interface)} {path : Path}
      {i : Interface} {result : Except CacheError Interface} {d d' : Disk} :
      Passage setup others start changes tried d → setup.Lies i.name path →
      setup.store.write setup.codec path i d = (result, d') →
      Passage setup others start changes (tried ++ [(path, i)]) d'

namespace Passage

variable {setup : Setup} {others others' : Disk → Disk → Prop} {start d d' : Disk}
  {changes changes' : List (Disk × Disk)} {tried tried' : List (Path × Interface)}

theorem mono (hothers : ∀ d d', others d d' → others' d d')
    (h : setup.Passage others start changes tried d) :
    setup.Passage others' start changes tried d := by
  induction h with
  | refl => exact .refl
  | changed _ hchange ih => exact .changed ih (hothers _ _ hchange)
  | wrote _ hlies hwrite ih => exact .wrote ih hlies hwrite

/-- One passage after another. -/
theorem trans (h : setup.Passage others start changes tried d)
    (h' : setup.Passage others d changes' tried' d') :
    setup.Passage others start (changes ++ changes') (tried ++ tried') d' := by
  induction h' with
  | refl => rwa [List.append_nil, List.append_nil]
  | changed _ hchange ih =>
    rw [← List.append_assoc]
    exact .changed ih hchange
  | wrote _ hlies hwrite ih =>
    rw [← List.append_assoc]
    exact .wrote ih hlies hwrite

/-- All that others change is changed by others. -/
theorem others_of_mem (h : setup.Passage others start changes tried d) {change : Disk × Disk}
    (hmem : change ∈ changes) : others change.1 change.2 := by
  induction h with
  | refl => exact absurd hmem List.not_mem_nil
  | changed _ hchange ih =>
    obtain hmem | hlast := List.mem_append.1 hmem
    · exact ih hmem
    · rw [List.mem_singleton.1 hlast]
      exact hchange
  | wrote _ _ _ ih => exact ih hmem

/-- **Everything that is written lies where an artifact of its module does.** -/
theorem lies_of_mem (h : setup.Passage others start changes tried d) {path : Path} {i : Interface}
    (hmem : (path, i) ∈ tried) : setup.Lies i.name path := by
  induction h with
  | refl => exact absurd hmem List.not_mem_nil
  | changed _ _ ih => exact ih hmem
  | wrote _ hlies _ ih =>
    obtain hmem | hlast := List.mem_append.1 hmem
    · exact ih hmem
    · obtain ⟨rfl, rfl⟩ := Prod.mk.inj (List.mem_singleton.1 hlast)
      exact hlies

/-- **What the changes of others keep, and the writes of the loader, is kept.** -/
theorem keeps {P : Disk → Prop} (h : setup.Passage others start changes tried d)
    (hchanges : ∀ change ∈ changes, P change.1 → P change.2)
    (hwrites : ∀ e ∈ tried, ∀ d, P d → P (setup.store.write setup.codec e.1 e.2 d).2)
    (hstart : P start) : P d := by
  induction h with
  | refl => exact hstart
  | changed _ _ ih =>
    obtain ⟨hbefore, hlast⟩ := List.forall_mem_append.1 hchanges
    exact hlast _ (List.mem_singleton_self _) (ih hbefore hwrites)
  | wrote _ _ hwrite ih =>
    obtain ⟨hbefore, hlast⟩ := List.forall_mem_append.1 hwrites
    have hwritten := hlast _ (List.mem_singleton_self _) _ (ih hchanges hbefore)
    rwa [hwrite] at hwritten

end Passage

end Setup

/-! ## Along a load -/

/-- **Before an access nobody but other programs changes the disk.** -/
theorem Setup.passage_access (setup : Setup) (s : LoadState) : ∃ changes,
    setup.Passage (setup.Others s.world.outside) s.world.disk changes [] s.access.world.disk := by
  show ∃ changes, setup.Passage _ s.world.disk changes [] s.world.next.disk
  unfold World.next
  split
  · exact ⟨[], .refl⟩
  · rename_i change rest houtside
    refine ⟨[(s.world.disk, change s.world.disk)], .changed .refl (.inl ⟨change, ?_, rfl⟩)⟩
    rw [houtside]
    exact List.mem_cons_self

namespace LoadState

/-- **What happens on the way from one state to another** while some modules are in progress: none
of them is settled, and there is a passage of the disk in which none of them is written. -/
structure Passes (setup : Setup) (frames : List ModuleName) (s s' : LoadState) : Prop where
  /-- Modules were settled after the others. -/
  settled : Extends frames s s'
  /-- Other programs may have done some of what they are going to do. -/
  outside : s'.world.outside <:+ s.world.outside
  /-- The disk has changed accordingly. -/
  passage : ∃ changes tried, setup.Passage (setup.Others s.world.outside) s.world.disk changes tried
    s'.world.disk ∧ ∀ e ∈ tried, e.2.name ∉ frames

namespace Passes

variable {setup : Setup} {frames frames' : List ModuleName} {s s₁ s₂ s₃ : LoadState}

/-- Where nothing is settled, and the disk stays as it is, nothing happens. -/
theorem of_eq (hvisited : s₂.caches.visited = s₁.caches.visited)
    (hdisk : s₂.world.disk = s₁.world.disk) (houtside : s₂.world.outside = s₁.world.outside) :
    Passes setup frames s₁ s₂ := by
  refine ⟨.of_eq hvisited, houtside ▸ List.suffix_refl _, [], [], ?_, nofun⟩
  rw [hdisk]
  exact .refl

theorem trans (h : Passes setup frames s₁ s₂) (h' : Passes setup frames s₂ s₃) :
    Passes setup frames s₁ s₃ := by
  obtain ⟨changes, tried, hpassage, hnew⟩ := h.passage
  obtain ⟨changes', tried', hpassage', hnew'⟩ := h'.passage
  exact ⟨h.settled.trans h'.settled, h'.outside.trans h.outside, _, _,
    hpassage.trans (hpassage'.mono fun _ _ => .mono h.outside),
    List.forall_mem_append.2 ⟨hnew, hnew'⟩⟩

/-- With fewer modules in progress less is excluded. -/
theorem of_subset (hsubset : frames ⊆ frames') (h : Passes setup frames' s₁ s₂) :
    Passes setup frames s₁ s₂ := by
  obtain ⟨changes, tried, hpassage, hnew⟩ := h.passage
  exact ⟨h.settled.of_subset hsubset, h.outside, changes, tried, hpassage,
    fun e he hmem => hnew e he (hsubset hmem)⟩

/-- Another program gets in before an access. -/
theorem access (s : LoadState) : Passes setup frames s s.access := by
  obtain ⟨changes, hpassage⟩ := setup.passage_access s
  refine ⟨.of_eq rfl, ?_, changes, [], hpassage, nofun⟩
  show s.world.next.outside <:+ s.world.outside
  unfold World.next
  split
  · exact List.suffix_refl _
  · rename_i change rest houtside
    rw [houtside]
    exact List.suffix_cons change rest

end Passes

/-- **The modules in progress are avoided**: besides what may happen at all, what is decoded of them
stays as it is. -/
structure Avoids (setup : Setup) (frames : List ModuleName) (s s' : LoadState) : Prop extends
    Passes setup frames s s' where
  /-- What is decoded of them is the same. -/
  decoded : ∀ x ∈ frames, s'.caches.decoded.get? x = s.caches.decoded.get? x

end LoadState

namespace Setup

open LoadState

/-- **The modules in progress are avoided** by whatever is done for them. -/
def avoidance (setup : Setup) : setup.Conduct where
  obeys := Avoids setup
  refl frames s := ⟨.of_eq rfl rfl rfl, fun _ _ => rfl⟩
  trans h h' := ⟨h.toPasses.trans h'.toPasses,
    fun x hx => (h'.decoded x hx).trans (h.decoded x hx)⟩
  of_subset hsubset h := ⟨h.toPasses.of_subset hsubset, fun x hx => h.decoded x (hsubset hx)⟩
  access frames s := ⟨.access s, fun _ _ => rfl⟩
  record s _ := ⟨.of_eq rfl rfl rfl, fun _ _ => rfl⟩
  sources frames s _ _ _ _ _ := ⟨.of_eq rfl rfl rfl, fun _ _ => rfl⟩
  edit {frames s change d} hedits hchange :=
    ⟨⟨.of_eq rfl, List.suffix_refl _, _, [], .changed .refl (.inr ⟨change, hedits, hchange⟩),
      nofun⟩, fun _ _ => rfl⟩
  lookUp {frames x} s onDisk hnew := by
    refine ⟨.of_eq rfl rfl rfl, fun y hy => ?_⟩
    exact s.caches.decoded.get?_getCurrent?_of_ne onDisk (ne_of_mem_of_not_mem hy hnew)
  keep {frames x} s i hnew := by
    refine ⟨.of_eq rfl rfl rfl, fun y hy => ?_⟩
    show (s.caches.decoded.insert x i).get? y = _
    rw [DecodedCache.get?_insert, if_neg (ne_of_mem_of_not_mem hy hnew)]
  write hnew hlies hwrite :=
    ⟨⟨.of_eq rfl, List.suffix_refl _, [], _, .wrote .refl hlies hwrite,
      List.forall_mem_singleton.2 hnew⟩, fun _ _ => rfl⟩
  settle _ _ hnew :=
    ⟨⟨.settle hnew, List.suffix_refl _, [], [], .refl, nofun⟩, fun _ _ => rfl⟩

end Setup

end ModuleLoader
