import Mathlib.Data.List.Induction
import Mathlib.Data.List.Infix
import ModuleLoader.ImportStack

/-!
# Stacks that are forked

Whoever enters a module on a stack is handed a frame, and gives it back to leave the module. A frame
knows no module, only how high the stack was; to give it back is to cut the stack down to what was
below. A stack is forked to go on with a copy of it, and the copy is given up when that is done. Frames
stay with the stack on which they were handed out: a copy begins with none.

So it takes the whole run to see that a frame always removes the module it was handed out for, and no
other. Here is any run of entering, leaving, forking and going back, with entries that fail among them
(`Forks.after`). The modules that a stack holds are, at all times, those that it was forked with and
then one for each of its frames (`Nests`), and everything else follows from that
(`Forks.lawful_after`).
-/

namespace ModuleLoader

namespace ImportStack

/-- The modules above the first occurrence of one, and those below it. -/
theorem exists_split_of_mem {s : ImportStack} {module : ModuleName} (h : module ∈ s.frames) :
    ∃ below above, s.frames = below ++ module :: above ∧
      (s.cycleAt module).chain = module :: above ++ [module] := by
  have hnodup := s.nodup
  unfold cycleAt
  obtain ⟨below, above, hsplit⟩ := List.append_of_mem h
  rw [hsplit] at hnodup ⊢
  have hbelow : ∀ x ∈ below, decide (x ≠ module) = true := by
    intro x hx
    have hne : x ≠ module := (List.nodup_append.1 hnodup).2.2 x hx module List.mem_cons_self
    simpa using hne
  refine ⟨below, above, rfl, ?_⟩
  rw [List.dropWhile_append_of_pos hbelow, List.dropWhile_cons_of_neg (by simp)]

/-! ## Runs -/

/-- **A frame**: what is handed out for a module that was entered. -/
structure Frame where
  /-- How high the stack was with the module on it. -/
  depth : Nat
  /-- What was on the stack before. This is a note on the side, which nobody reads. -/
  before : List ModuleName

/-- A stack in use. -/
structure Level where
  /-- The stack. -/
  stack : ImportStack
  /-- The frames that were handed out on it and not given back, the last one first. -/
  entered : List Frame

/-- The level once a module has been entered: it has the stack with the module on it, and one more frame
is handed out. -/
def Level.grow (level : Level) (stack : ImportStack) : Level :=
  ⟨stack, ⟨stack.size, level.stack.frames⟩ :: level.entered⟩

/-- **A stack that may have been forked**, and those that it was forked from. -/
structure Forks where
  /-- The stack that is worked on. -/
  current : Level
  /-- Those that it was forked from, the last one first. -/
  below : List Level

/-- What is done with a stack. -/
inductive Act where
  /-- A module is entered. -/
  | push (module : ModuleName)
  /-- The last frame that was handed out on the stack is given back. -/
  | pop
  /-- The stack is forked, and the copy is worked on. -/
  | fork
  /-- A copy is given up. -/
  | back

/-- What comes of it. -/
inductive Reply where
  /-- The module was entered. -/
  | pushed
  /-- The module was on the stack. -/
  | circular (cycle : ImportCycle)
  /-- The frame was given back. -/
  | popped
  /-- There was no frame. -/
  | nothingToPop
  /-- The stack was forked. -/
  | forked
  /-- The stack that was forked is worked on again, if there is one. -/
  | back
  deriving DecidableEq

namespace Forks

/-- An empty stack. -/
def start : Forks := ⟨⟨∅, []⟩, []⟩

/-- All stacks, the one that is worked on first. -/
def levels (f : Forks) : List Level := f.current :: f.below

/-- **One act**: what comes of it, and the stacks then. A frame that is given back cuts the stack down
to what was below its module. -/
def step (f : Forks) : Act → Reply × Forks
  | .push module =>
    match f.current.stack.push module with
    | .ok stack => (.pushed, { f with current := f.current.grow stack })
    | .error cycle => (.circular cycle, f)
  | .pop =>
    match f.current.entered with
    | frame :: rest =>
      (.popped, { f with current := ⟨f.current.stack.truncate (frame.depth - 1), rest⟩ })
    | [] => (.nothingToPop, f)
  | .fork => (.forked, ⟨⟨f.current.stack, []⟩, f.levels⟩)
  | .back =>
    match f.below with
    | level :: rest => (.back, ⟨level, rest⟩)
    | [] => (.back, f)

/-- The stacks after some acts. -/
def run (f : Forks) (acts : List Act) : Forks := acts.foldl (fun f act => (f.step act).2) f

/-- **The stacks after some acts**, starting with an empty one. -/
def after (acts : List Act) : Forks := start.run acts

variable {f : Forks} {module : ModuleName}

/-- One more act. -/
theorem run_concat (f : Forks) (acts : List Act) (act : Act) :
    f.run (acts ++ [act]) = ((f.run acts).step act).2 := by
  simp [run]

/-- A module that is entered, and its frame. -/
theorem step_push_of_ok {stack : ImportStack} (h : f.current.stack.push module = .ok stack) :
    f.step (.push module) = (.pushed, { f with current := f.current.grow stack }) := by
  simp only [step, h]

/-- A module that cannot be entered. -/
theorem step_push_of_error {cycle : ImportCycle} (h : f.current.stack.push module = .error cycle) :
    f.step (.push module) = (.circular cycle, f) := by
  simp only [step, h]

/-- A frame that is given back. -/
theorem step_pop_of_cons {frame : Frame} {rest : List Frame}
    (h : f.current.entered = frame :: rest) :
    f.step .pop =
      (.popped, { f with current := ⟨f.current.stack.truncate (frame.depth - 1), rest⟩ }) := by
  simp only [step, h]

/-- There is no frame to give back. -/
theorem step_pop_of_nil (h : f.current.entered = []) : f.step .pop = (.nothingToPop, f) := by
  simp only [step, h]

/-- A fork that is given up. -/
theorem step_back_of_cons {level : Level} {rest : List Level} (h : f.below = level :: rest) :
    f.step .back = (.back, ⟨level, rest⟩) := by
  simp only [step, h]

/-- There is no fork to give up. -/
theorem step_back_of_nil (h : f.below = []) : f.step .back = (.back, f) := by
  simp only [step, h]

/-! ## What frames are for -/

/-- **A stack nests its frames**: it holds the modules that it was forked with, and one for each of
its frames, which says how high the stack was then. -/
inductive Nests (base : List ModuleName) : List ModuleName → List Frame → Prop where
  /-- No module has been entered. -/
  | base : Nests base base []
  /-- One more module has been entered. -/
  | push {frames : List ModuleName} {entered : List Frame} (module : ModuleName) :
      Nests base frames entered →
      Nests base (frames ++ [module]) (⟨frames.length + 1, frames⟩ :: entered)

/-- What a stack was forked with is at its bottom. -/
theorem Nests.isPrefix {base frames : List ModuleName} {entered : List Frame}
    (h : Nests base frames entered) : base <+: frames := by
  induction h with
  | base => exact List.prefix_refl base
  | push module _ ih => exact ih.trans (List.prefix_append _ _)

/-- **Stacks nest their frames**, each one above what it was forked with. -/
inductive Stacked : List Level → Prop where
  /-- A stack that was not forked from another one. -/
  | ground {level : Level} : Nests [] level.stack.frames level.entered → Stacked [level]
  /-- A stack that was. -/
  | fork {level origin : Level} {rest : List Level} :
      Nests origin.stack.frames level.stack.frames level.entered → Stacked (origin :: rest) →
      Stacked (level :: origin :: rest)

namespace Stacked

variable {level origin : Level} {rest : List Level}

/-- What the stack that is worked on was forked with, and that the others are as they should be. -/
theorem exists_nests (h : Stacked (level :: rest)) :
    ∃ base, Nests base level.stack.frames level.entered ∧
      ∀ level' : Level, Nests base level'.stack.frames level'.entered → Stacked (level' :: rest) := by
  cases h with
  | ground hnests => exact ⟨[], hnests, fun _ => .ground⟩
  | fork hnests hrest => exact ⟨_, hnests, fun _ h => .fork h hrest⟩

/-- **What a stack was forked from is at its bottom**, and so on further down. -/
theorem isPrefix (h : Stacked (level :: rest)) :
    ∀ origin ∈ rest, origin.stack.frames <+: level.stack.frames := by
  induction rest generalizing level with
  | nil => exact nofun
  | cons next rest ih =>
    cases h with
    | fork hnests hrest =>
      intro origin horigin
      obtain rfl | horigin := List.mem_cons.1 horigin
      · exact hnests.isPrefix
      · exact (ih hrest origin horigin).trans hnests.isPrefix

/-- **Giving a frame back removes one module**: the one that it was handed out for. -/
theorem pop (h : Stacked (level :: rest)) {frame : Frame} {entered : List Frame}
    (hentered : level.entered = frame :: entered) :
    frame.depth = level.stack.size ∧ level.stack.pop.frames = frame.before ∧
      Stacked (⟨level.stack.pop, entered⟩ :: rest) := by
  have ⟨base, hnests, hrest⟩ := h.exists_nests
  generalize hframes : level.stack.frames = frames at hnests
  rw [hentered] at hnests
  cases hnests with
  | @push before _ module hbefore =>
    have hpop : level.stack.pop.frames = before := by
      show level.stack.frames.take (level.stack.frames.length - 1) = before
      simp [hframes]
    refine ⟨?_, hpop, hrest _ ?_⟩
    · show before.length + 1 = level.stack.frames.length
      simp [hframes]
    · show Nests base level.stack.pop.frames entered
      rwa [hpop]

end Stacked

/-- An empty stack has no frames. -/
theorem stacked_start : Stacked start.levels := .ground .base

/-- **An act keeps the frames nested.** -/
theorem stacked_step (h : Stacked f.levels) (act : Act) : Stacked (f.step act).2.levels := by
  cases act with
  | push module =>
    cases hpush : f.current.stack.push module with
    | error cycle => rwa [step_push_of_error hpush]
    | ok stack =>
      have ⟨base, hnests, hrest⟩ := h.exists_nests
      rw [step_push_of_ok hpush]
      refine hrest _ ?_
      show Nests base stack.frames (⟨stack.frames.length, _⟩ :: f.current.entered)
      rw [frames_of_push hpush, List.length_append, List.length_singleton]
      exact .push module hnests
  | pop =>
    cases hentered : f.current.entered with
    | nil => rwa [step_pop_of_nil hentered]
    | cons frame entered =>
      have ⟨hdepth, _, hstacked⟩ := h.pop hentered
      rw [step_pop_of_cons hentered, hdepth]
      exact hstacked
  | fork => exact .fork .base h
  | back =>
    cases hbelow : f.below with
    | nil => rwa [step_back_of_nil hbelow]
    | cons origin rest =>
      rw [step_back_of_cons hbelow]
      rw [levels, hbelow] at h
      cases h with
      | fork _ horigin => exact horigin

/-- **Frames are nested after every run.** -/
theorem stacked_run (h : Stacked f.levels) (acts : List Act) : Stacked (f.run acts).levels := by
  induction acts using List.reverseRecOn with
  | nil => exact h
  | append_singleton init act ih =>
    rw [run_concat]
    exact stacked_step ih act

/-! ## Forks and what they were forked from -/

/-- **An act changes no stack but the one that is worked on**: those below it stay below it, unless it
is given up itself. -/
theorem below_step (f : Forks) (act : Act) :
    f.below <:+ (f.step act).2.below ∨ (f.step act).2.levels = f.below := by
  cases act with
  | push module =>
    cases hpush : f.current.stack.push module with
    | error cycle => simp [step_push_of_error hpush]
    | ok stack => simp [step_push_of_ok hpush]
  | pop =>
    cases hentered : f.current.entered with
    | nil => simp [step_pop_of_nil hentered]
    | cons frame entered => simp [step_pop_of_cons hentered]
  | fork => exact .inl (List.suffix_cons f.current f.below)
  | back =>
    cases hbelow : f.below with
    | nil => simp [step_back_of_nil hbelow]
    | cons origin rest => simp [step_back_of_cons hbelow, levels]

/-- **As long as a fork is there, nothing becomes of the stacks that were there before it**, whatever
is done with it and with forks of it. -/
theorem below_run (f : Forks) {acts : List Act}
    (hthere : ∀ front, front <+: acts → f.below.length ≤ (f.run front).below.length) :
    f.below <:+ (f.run acts).below := by
  induction acts using List.reverseRecOn with
  | nil => exact List.suffix_refl _
  | append_singleton init act ih =>
    have hinit := ih fun front hfront => hthere front (hfront.trans (List.prefix_append init [act]))
    have hlength := hthere (init ++ [act]) (List.prefix_refl _)
    rw [run_concat] at hlength ⊢
    rcases (f.run init).below_step act with hmore | hback
    · exact hinit.trans hmore
    · have hless : ((f.run init).step act).2.below <:+ (f.run init).below := by
        rw [← hback]
        exact List.suffix_cons _ _
      exact List.suffix_of_suffix_length_le hinit hless hlength

/-- **A fork that is given up leaves the stack that it was forked from**, whatever was done with it. -/
theorem step_back_of_fork (f : Forks) {acts : List Act}
    (hthere : ∀ front, front <+: acts →
      f.levels.length ≤ ((f.step .fork).2.run front).below.length)
    (hend : ((f.step .fork).2.run acts).below.length = f.levels.length) :
    ((f.step .fork).2.run acts).step .back = (.back, f) := by
  have hbelow : f.levels <:+ ((f.step .fork).2.run acts).below := below_run (f.step .fork).2 hthere
  exact step_back_of_cons (hbelow.eq_of_length hend.symm).symm

/-! ## The laws -/

/-- A module that is not on the stack goes on top. -/
theorem step_push_of_notMem (h : module ∉ f.current.stack.frames) :
    ∃ stack : ImportStack, stack.frames = f.current.stack.frames ++ [module] ∧
      f.step (.push module) = (.pushed, { f with current := f.current.grow stack }) := by
  cases hpush : f.current.stack.push module with
  | error cycle => exact absurd (push_eq_error_iff.1 hpush).1 h
  | ok stack => exact ⟨stack, frames_of_push hpush, step_push_of_ok hpush⟩

/-- A module that is on the stack cannot be entered. -/
theorem step_push_of_mem (h : module ∈ f.current.stack.frames) :
    f.step (.push module) = (.circular (f.current.stack.cycleAt module), f) :=
  step_push_of_error (push_eq_error_iff.2 ⟨h, rfl⟩)

/-- **A cycle is a way from a module to itself**: through the modules above it on the stack, each of
them once. -/
structure Closes (stack : ImportStack) (module : ModuleName) (cycle : ImportCycle) : Prop where
  /-- It is the stack from the module upwards, and the module again. -/
  chain : ∃ below above, stack.frames = below ++ module :: above ∧
    cycle.chain = module :: above ++ [module] ∧
    ∀ x, cycle.involves x = true ↔ x ∈ module :: above
  /-- It begins with the module. -/
  head : cycle.chain.head? = some module
  /-- It ends with the module. -/
  last : cycle.chain.getLast? = some module
  /-- No module but that one occurs in it twice. -/
  nodup : cycle.chain.dropLast.Nodup

/-- The cycle of a module on the stack. -/
theorem closes_cycleAt {stack : ImportStack} (h : module ∈ stack.frames) :
    Closes stack module (stack.cycleAt module) := by
  have ⟨below, above, hsplit, hchain⟩ := stack.exists_split_of_mem h
  refine ⟨⟨below, above, hsplit, hchain, ?_⟩, ?_, ?_, ?_⟩
  · intro x
    simp only [ImportCycle.involves, hchain]
    grind
  · rw [hchain]
    rfl
  · rw [hchain, List.getLast?_concat]
  · have hnodup := stack.nodup
    rw [hsplit] at hnodup
    rw [hchain, List.dropLast_concat]
    exact (List.nodup_append.1 hnodup).2.1

/-- **The laws of stacks that are forked.** -/
structure Lawful (f : Forks) : Prop where
  /-- No stack holds a module twice. -/
  nodup : ∀ level ∈ f.levels, level.stack.frames.Nodup
  /-- A module that is not on the stack is entered: it goes on top, and the frame says so. -/
  push : ∀ module, module ∉ f.current.stack.frames →
    ∃ stack : ImportStack, stack.frames = f.current.stack.frames ++ [module] ∧
      f.step (.push module) = (.pushed, { f with current := f.current.grow stack })
  /-- A module that is on the stack is not entered, and everything stays as it was. -/
  circular : ∀ module ∈ f.current.stack.frames, ∃ cycle,
    f.step (.push module) = (.circular cycle, f) ∧ Closes f.current.stack module cycle
  /-- The last frame that was handed out is that of the module on top, and giving it back restores
  what was on the stack before. -/
  pop : ∀ frame rest, f.current.entered = frame :: rest →
    frame.depth = f.current.stack.size ∧
      ∃ stack : ImportStack, stack.frames = frame.before ∧
        f.step .pop = (.popped, { f with current := ⟨stack, rest⟩ })
  /-- A fork begins with the modules of the stack, and with no frames. -/
  fork : f.step .fork = (.forked, ⟨⟨f.current.stack, []⟩, f.levels⟩)
  /-- As long as a fork is there, what is done with it, and with forks of it, changes none of the
  stacks that were there before. -/
  untouched : ∀ acts,
    (∀ front, front <+: acts → f.levels.length ≤ ((f.step .fork).2.run front).below.length) →
      f.levels <:+ ((f.step .fork).2.run acts).below
  /-- When it is given up, everything is as it was before the fork. -/
  back : ∀ acts,
    (∀ front, front <+: acts → f.levels.length ≤ ((f.step .fork).2.run front).below.length) →
      ((f.step .fork).2.run acts).below.length = f.levels.length →
        ((f.step .fork).2.run acts).step .back = (.back, f)
  /-- The modules of the stacks that it was forked from are on a fork, so none of them can be
  entered. -/
  detected : ∀ level ∈ f.below, level.stack.frames <+: f.current.stack.frames ∧
    ∀ module ∈ level.stack.frames, ∃ cycle, f.step (.push module) = (.circular cycle, f)

/-- Stacks that nest their frames are lawful. -/
theorem lawful_of_stacked (h : Stacked f.levels) : f.Lawful where
  nodup level _ := level.stack.nodup
  push _ hmem := step_push_of_notMem hmem
  circular module hmem := ⟨_, step_push_of_mem hmem, closes_cycleAt hmem⟩
  pop frame rest hentered := by
    have ⟨hdepth, hbefore, _⟩ := h.pop hentered
    refine ⟨hdepth, f.current.stack.pop, hbefore, ?_⟩
    rw [step_pop_of_cons hentered, hdepth]
    rfl
  fork := rfl
  untouched _ hthere := below_run (f.step .fork).2 hthere
  back _ hthere hend := f.step_back_of_fork hthere hend
  detected level hlevel := by
    have hisPrefix := h.isPrefix level hlevel
    refine ⟨hisPrefix, fun module hmodule => ⟨_, step_push_of_mem ?_⟩⟩
    exact hisPrefix.subset hmodule

/-- **The laws hold after every run** of entering, leaving, forking and going back. -/
theorem lawful_after (acts : List Act) : (after acts).Lawful :=
  lawful_of_stacked (stacked_run stacked_start acts)

/-- A fork cannot enter a module that was entered before the fork. -/
example : ((after [.push ⟨"A"⟩, .fork, .push ⟨"B"⟩]).step (.push ⟨"A"⟩)).1 =
    .circular ⟨[⟨"A"⟩, ⟨"B"⟩, ⟨"A"⟩]⟩ := by
  decide +kernel

end Forks

end ImportStack

end ModuleLoader
