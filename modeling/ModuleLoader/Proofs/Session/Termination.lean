import ModuleLoader.Proofs.Load.Depth
import ModuleLoader.Proofs.Script.Naming

/-!
# Loading terminates

A session loads a module by following imports, and whoever wrote the artifacts and the sources may
have written anything: they may list each other in circles, or modules that do not exist. Loading a
module returns nevertheless, from any disk, with whatever is remembered, with any number of retries
and in every mode (`Session.load_returns`).

What keeps it from going on is that the modules of a chain of nested resolutions are distinct and,
but for the first one, named as imports before the load begins. So no chain has more modules than
there are names, and one. It takes checkers that end, which ours do once their imports are answered,
and that name nothing new by the changes they make to files; and nobody else may change files
meanwhile. With these it would be easy to keep a load busy forever.
-/

namespace ModuleLoader

open Load

namespace Session

/-- **A chain of nested resolutions** in the load of an entry module, when some
modules are named. -/
structure IsChain (entry : ModuleName) (named : Set ModuleName) (chain : List ModuleName) :
    Prop where
  /-- It begins with the entry module. -/
  head : chain.head? = some entry
  /-- Its modules are pairwise distinct. -/
  distinct : chain.Nodup
  /-- Each of them is the entry module or named. -/
  mem : ∀ x ∈ chain, x = entry ∨ x ∈ named
  /-- It has at most one more module than there are names. -/
  short : chain.length ≤ named.ncard + 1

/-- **An import is asked for along a chain**: what is in progress is a chain, above what had been in
progress before the load; the import is the entry module or named; and if it is not in progress then
it prolongs the chain to another one. -/
structure Nested (s : Session) (entry : ModuleName) (named : Set ModuleName) (stack : ImportStack)
    (imported : ModuleName) : Prop where
  /-- What is in progress. -/
  chain : ∃ chain, stack.frames = s.stack.frames ++ chain ∧ IsChain entry named chain ∧
    (imported ∉ stack.frames → IsChain entry named (chain ++ [imported]))
  /-- What is asked for. -/
  asked : imported = entry ∨ imported ∈ named

variable {s : Session} {entry : ModuleName} {named : Set ModuleName} {stack pushed : ImportStack}
  {chain : List ModuleName} {x : ModuleName}

/-- A list of distinct names that begins with the entry module is as short as a chain. -/
theorem IsChain.of_distinct (hfinite : named.Finite) (hhead : chain.head? = some entry)
    (hdistinct : chain.Nodup) (hnamed : ∀ x ∈ chain, x = entry ∨ x ∈ named) :
    IsChain entry named chain := by
  have hsubset : (chain.toFinset : Set ModuleName) ⊆ insert entry named := by
    intro x hx
    exact hnamed x (List.mem_toFinset.1 hx)
  refine ⟨hhead, hdistinct, hnamed, ?_⟩
  calc chain.length = chain.toFinset.card := (List.toFinset_card_of_nodup hdistinct).symm
    _ = (chain.toFinset : Set ModuleName).ncard := (Set.ncard_coe_finset _).symm
    _ ≤ (insert entry named).ncard := Set.ncard_le_ncard hsubset (hfinite.insert entry)
    _ ≤ named.ncard + 1 := Set.ncard_insert_le entry named

/-- What is in progress is a chain, above what had been in progress before. -/
def Underway (s : Session) (entry : ModuleName) (named : Set ModuleName) (stack : ImportStack) :
    Prop :=
  ∃ chain, stack.frames = s.stack.frames ++ chain ∧ IsChain entry named chain

namespace Underway

/-- An entry module is a chain. -/
theorem of_push (hfinite : named.Finite) (hpush : s.stack.push entry = .ok pushed) :
    s.Underway entry named pushed :=
  ⟨[entry], ImportStack.frames_of_push hpush, .of_distinct hfinite rfl (List.nodup_singleton entry)
    fun _ hx => .inl (List.mem_singleton.1 hx)⟩

/-- **A module that is entered prolongs the chain.** -/
theorem push (hfinite : named.Finite) (hframes : stack.frames = s.stack.frames ++ chain)
    (h : IsChain entry named chain) (hx : x = entry ∨ x ∈ named)
    (hpush : stack.push x = .ok pushed) :
    pushed.frames = s.stack.frames ++ (chain ++ [x]) ∧ IsChain entry named (chain ++ [x]) := by
  have hpushed : pushed.frames = s.stack.frames ++ (chain ++ [x]) := by
    rw [ImportStack.frames_of_push hpush, hframes, List.append_assoc]
  have hdistinct : (chain ++ [x]).Nodup :=
    (hpushed ▸ pushed.nodup).sublist (List.sublist_append_right _ _)
  refine ⟨hpushed, .of_distinct hfinite ?_ hdistinct fun y hy => ?_⟩
  · rw [List.head?_append, h.head]
    rfl
  · obtain hy | hy := List.mem_append.1 hy
    · exact h.mem y hy
    · rw [List.mem_singleton.1 hy]
      exact hx

/-- An import is asked for along the chain. -/
theorem nested (h : s.Underway entry named stack) (hfinite : named.Finite)
    (hx : x = entry ∨ x ∈ named) : s.Nested entry named stack x := by
  obtain ⟨chain, hframes, hchain⟩ := h
  refine ⟨⟨chain, hframes, hchain, fun hnot => ?_⟩, hx⟩
  cases hpush : stack.push x with
  | ok pushed => exact (push hfinite hframes hchain hx hpush).2
  | error cycle => exact absurd (ImportStack.push_eq_error_iff.1 hpush).1 hnot

end Underway

/-- **The modules that are named before a load**, on disk and by what the session remembers. -/
def names (s : Session) (imports : String → List ModuleName) (d : Disk) : Set ModuleName :=
  { x | s.setup.Named imports s.caches d x }

variable {imports : String → List ModuleName} {disks : Set Disk}

/-- There are finitely many of them. -/
theorem finite_names (s : Session) (imports : String → List ModuleName) (d : Disk) :
    (s.names imports d).Finite :=
  s.setup.finite_named imports s.caches d

/-- When a module is about to be loaded, whatever is named is the module or one of these. -/
theorem namesWithin_names (imports : String → List ModuleName) (hfiled : s.caches.sources.Filed)
    {world : World} (houtside : world.outside = []) (hdisk : world.disk ∈ disks)
    (module : ModuleName) :
    s.setup.NamesWithin imports disks (insert module (s.names imports world.disk))
      ⟨s.caches, world⟩ :=
  ⟨houtside, hdisk, hfiled, fun _ hx => .inr (.onDisk hx),
    fun _ _ hget _ hx => .inr (.remembered hget hx), fun _ _ hget _ hx => .inr (.decoded hget hx)⟩

open Classical in
/-- With an entry module on the stack, its load has an outcome, and it is the same if imports are
asked for along chains only. -/
theorem returns_entry (h : s.setup.Announces imports disks) (hfinite : named.Finite)
    {state : LoadState} (hstate : s.setup.NamesWithin imports disks (insert entry named) state)
    (mode : CheckMode) (hpush : s.stack.push entry = .ok pushed) (scope : ImportedScope) :
    ∃ r, ∀ depth, named.ncard < depth →
      (s.setup.loadEntry (s.setup.resolve depth pushed) scope entry mode).run.run state = some r ∧
      (s.setup.loadEntry (s.setup.resolveIf (fun stack imported _ => s.Nested entry named stack
        imported) depth pushed) scope entry mode).run.run state = some r := by
  have hinsert := hfinite.insert entry
  have hwanted : ∀ x, x ∈ insert entry named → x ∈ hinsert.toFinset :=
    fun x hx => hinsert.mem_toFinset.2 hx
  have hnext : ∀ stack x pushed, s.Underway entry named stack → x ∈ insert entry named →
      stack.push x = .ok pushed → s.Underway entry named pushed :=
    fun stack x pushed ⟨chain, hframes, hchain⟩ hx hpush =>
      ⟨chain ++ [x], Underway.push hfinite hframes hchain hx hpush⟩
  have hnested : ∀ stack x (_ : Disk), s.Underway entry named stack → x ∈ insert entry named →
      s.Nested entry named stack x := fun stack x _ hunderway hx => hunderway.nested hfinite hx
  obtain ⟨r, hr⟩ := (s.setup.announcement h (insert entry named)).returns_loadEntry hwanted hnext
    hnested (.of_push hfinite hpush) scope (.inl rfl) mode hstate
  -- The entry module is on the stack, so only modules that are named are left to enter.
  have hleft : (pushed.left hinsert.toFinset).card ≤ named.ncard := by
    rw [Set.ncard_eq_toFinset_card named hfinite]
    refine Finset.card_le_card fun x hx => ?_
    obtain ⟨hx, hnot⟩ := Finset.mem_filter.1 hx
    rw [ImportStack.frames_of_push hpush] at hnot
    obtain rfl | hx := hinsert.mem_toFinset.1 hx
    · exact absurd (List.mem_append_right _ (List.mem_singleton_self x)) hnot
    · exact hfinite.mem_toFinset.2 hx
  exact ⟨r, fun depth hdepth => hr depth (Nat.lt_of_le_of_lt hleft hdepth)⟩

/-- **A load names nothing new**: whatever is named after it was named before, or is the module that
was loaded. What a load is said to return for holds of the next one too. -/
theorem names_subset_of_load (h : s.setup.Announces imports disks)
    (hfiled : s.caches.sources.Filed) (hstack : s.stack = ∅) {world world' : World}
    (houtside : world.outside = []) (hdisk : world.disk ∈ disks) {depth : Nat}
    {module : ModuleName} {mode : CheckMode} {result : Except LoadError Loaded} {s' : Session}
    (hload : s.loadWithin depth module mode world = some (result, s', world')) :
    s'.names imports world'.disk ⊆ insert module (s.names imports world.disk) ∧
      s'.caches.sources.Filed ∧ world'.outside = [] ∧ world'.disk ∈ disks := by
  obtain ⟨_, _, -, -, -, hsetup, -, -⟩ := loadWithin_eq_some hstack hload
  have hafter := (maintains_loadWithin rfl
    (s.setup.announcement h (insert module (s.names imports world.disk))) hstack (.inl rfl)
    (namesWithin_names imports hfiled houtside hdisk module) hload).1
  refine ⟨fun x hx => ?_, hafter.filed, hafter.quiet, hafter.disk⟩
  unfold names at hx
  rw [hsetup] at hx
  cases hx with
  | onDisk hx => exact hafter.onDisk x hx
  | remembered hget hx => exact hafter.remembered _ _ hget x hx
  | decoded hget hx => exact hafter.decoded _ _ hget x hx

open Classical in
/-- For every depth that exceeds the number of modules that are named, a load has one and the same
outcome, and imports are asked for along chains only. -/
theorem exists_loadWithin (h : s.setup.Announces imports disks) (hfiled : s.caches.sources.Filed)
    {world : World} (houtside : world.outside = []) (hdisk : world.disk ∈ disks)
    (module : ModuleName) (mode : CheckMode) :
    ∃ r, ∀ depth, (s.names imports world.disk).ncard < depth →
      s.loadWithin depth module mode world = some r ∧
      s.loadBy (s.setup.resolveIf (fun stack imported _ =>
        s.Nested module (s.names imports world.disk) stack imported) depth) module mode world
          = some r := by
  have hstate := namesWithin_names imports hfiled houtside hdisk module
  simp only [loadWithin_eq_loadBy, loadBy_eq_map]
  unfold Setup.entering
  cases hpush : s.stack.push module with
  | error cycle => exact ⟨_, fun _ _ => ⟨rfl, rfl⟩⟩
  | ok pushed =>
    obtain ⟨r, hr⟩ := returns_entry h (s.finite_names imports world.disk) hstate mode hpush
      (s.scope.forget module)
    refine ⟨s.concluded r, fun depth hdepth => ?_⟩
    obtain ⟨hwithin, hnested⟩ := hr depth hdepth
    dsimp only
    rw [hwithin, hnested]
    exact ⟨rfl, rfl⟩

open Classical in
/-- **Loading a module returns**, to the same outcome for every depth that exceeds the number of
modules that are named, of which there are finitely many. In this load, every import is asked for
along a chain of nested resolutions: the load is the same if none may begin otherwise. -/
theorem load_returns (h : s.setup.Announces imports disks) (hfiled : s.caches.sources.Filed)
    {world : World} (houtside : world.outside = []) (hdisk : world.disk ∈ disks)
    (module : ModuleName) (mode : CheckMode) :
    (s.names imports world.disk).Finite ∧
    ∃ r, ∀ depth, (s.names imports world.disk).ncard < depth →
      s.loadWithin depth module mode world = some r ∧
      s.loadBy (s.setup.resolveIf (fun stack imported _ =>
        s.Nested module (s.names imports world.disk) stack imported) depth) module mode world
          = some r :=
  ⟨s.finite_names imports world.disk, exists_loadWithin h hfiled houtside hdisk module mode⟩

/-- A directory with three scripts. Two of them ask for each other, and there is one that touches
itself and one that touches another. -/
def circularDisk : Disk :=
  ⟨[(["p"], .directory),
    (["p", "A.lm"], .file (Bytes.ofText ("touch-self\ntry-import B\nimport C" ++ "\n"))),
    (["p", "B.lm"], .file (Bytes.ofText ("import A" ++ "\n"))),
    (["p", "C.lm"], .file (Bytes.ofText ("touch p/B.lm\ndef c" ++ "\n")))]⟩

theorem circularDisk_mem (setup : Setup) : circularDisk ∈ Script.linedDisks setup := by
  intro q content _ hfile
  have hmem := Disk.mem_entries_of_at? hfile
  simp only [circularDisk, List.mem_cons, Prod.mk.injEq, Entry.file.injEq, reduceCtorEq, and_false,
    false_or, List.not_mem_nil, or_false] at hmem
  obtain ⟨-, rfl⟩ | ⟨-, rfl⟩ | ⟨-, rfl⟩ := hmem
  · exact ⟨_, rfl⟩
  · exact ⟨_, rfl⟩
  · exact ⟨_, rfl⟩

/-- A session that begins in this directory. -/
def circularStart : Session := start (Script.tameSetup {} [⟨"p"⟩])

open Classical in
set_option maxRecDepth 100000 in
/-- The load of the first script ends, with the circular import refused and the
other one granted. -/
theorem load_returns_circular :
    ∃ r, r.2.2.log = ["check A batch", "check B batch", "refused B ImportCycle", "check C batch",
        "import C [c]"] ∧
      ∀ depth, 3 < depth →
        circularStart.loadWithin depth ⟨"A"⟩ .batch (.quiet circularDisk) = some r ∧
        circularStart.loadBy (circularStart.setup.resolveIf (fun stack imported _ =>
          circularStart.Nested ⟨"A"⟩ (circularStart.names Script.requested circularDisk) stack
            imported) depth) ⟨"A"⟩ .batch (.quiet circularDisk) = some r := by
  have hquiet : (World.quiet circularDisk).outside = [] := rfl
  obtain ⟨-, r, hr⟩ := load_returns (s := circularStart) (Script.announces_tame {} [⟨"p"⟩]) nofun
    hquiet (circularDisk_mem _) ⟨"A"⟩ .batch
  have hmentions : (circularStart.setup.mentions Script.requested circularStart.caches
      circularDisk).length = 3 := by
    decide +kernel
  have hcard : (circularStart.names Script.requested circularDisk).ncard ≤ 3 :=
    hmentions ▸ Setup.ncard_named_le fun _ hx => hx.mem_mentions
  have hlog : (circularStart.loadWithin 4 ⟨"A"⟩ .batch (.quiet circularDisk)).map
      (fun r => r.2.2.log) = some ["check A batch", "check B batch", "refused B ImportCycle",
        "check C batch", "import C [c]"] := by
    decide +kernel
  rw [(hr 4 (Nat.lt_succ_of_le hcard)).1] at hlog
  exact ⟨r, Option.some.inj hlog, fun depth hdepth => hr depth (Nat.lt_of_le_of_lt hcard hdepth)⟩

end Session

end ModuleLoader
