import ModuleLoader.ModuleName

/-!
# Import stacks and cycles

The modules whose resolution is in progress, each one waiting for the next. A module that is asked
for while it is on the stack imports itself through the modules above it: that part of the stack,
closed by the module itself, is the cycle to report.

A stack never holds a module twice, because that is what entering a module checks; the type says
so.
-/

namespace ModuleLoader

/-- The way from a module back to itself. -/
structure ImportCycle where
  /-- The modules in the order of their imports; the first is also the last. -/
  chain : List ModuleName
  deriving DecidableEq, Repr

namespace ImportCycle

/-- Whether a module is on the cycle. -/
def involves (c : ImportCycle) (module : ModuleName) : Bool := c.chain.contains module

/-- The message for a cycle. -/
def message (c : ImportCycle) : String :=
  "import cycle: " ++ String.intercalate " -> " (c.chain.map ModuleName.text)

end ImportCycle

/-- **The modules being resolved**, outermost first. -/
structure ImportStack where
  /-- The modules. -/
  frames : List ModuleName
  /-- No module waits for itself. -/
  nodup : frames.Nodup

namespace ImportStack

/-- Nothing in progress. -/
def empty : ImportStack := ⟨[], .nil⟩

instance : EmptyCollection ImportStack := ⟨empty⟩

instance : Inhabited ImportStack := ⟨empty⟩

/-- Whether a module is being resolved. -/
def contains (s : ImportStack) (module : ModuleName) : Bool := s.frames.contains module

/-- The module that is resolved innermost. -/
def current? (s : ImportStack) : Option ModuleName := s.frames.getLast?

/-- The number of modules. -/
def size (s : ImportStack) : Nat := s.frames.length

/-- The cycle that entering a module on the stack closes. -/
def cycleAt (s : ImportStack) (module : ModuleName) : ImportCycle :=
  ⟨s.frames.dropWhile (· ≠ module) ++ [module]⟩

/-- **Enters a module**, unless it is being resolved already. -/
def push (s : ImportStack) (module : ModuleName) : Except ImportCycle ImportStack :=
  if h : module ∈ s.frames then .error (s.cycleAt module)
  else .ok ⟨s.frames ++ [module], by
    refine List.nodup_append.2 ⟨s.nodup, by simp, ?_⟩
    intro a ha b hb
    rw [List.mem_singleton.1 hb]
    exact fun e => h (e ▸ ha)⟩

@[ext] theorem ext {s t : ImportStack} (h : s.frames = t.frames) : s = t := by
  cases s; cases t; simp_all

/-- A module that is entered goes on top. -/
theorem frames_of_push {s t : ImportStack} {module : ModuleName} (h : s.push module = .ok t) :
    t.frames = s.frames ++ [module] := by
  unfold push at h
  split at h
  · contradiction
  · rw [← Except.ok.inj h]

/-- A module that is entered was not on the stack. -/
theorem notMem_of_push {s t : ImportStack} {module : ModuleName} (h : s.push module = .ok t) :
    module ∉ s.frames := by
  intro hmem
  unfold push at h
  rw [dif_pos hmem] at h
  contradiction

/-- **Entering fails for the modules on the stack** and for no others. -/
theorem push_eq_error_iff {s : ImportStack} {module : ModuleName} {cycle : ImportCycle} :
    s.push module = .error cycle ↔ module ∈ s.frames ∧ s.cycleAt module = cycle := by
  unfold push
  split
  · rename_i h
    rw [Except.error.injEq]
    exact (and_iff_right h).symm
  · rename_i h
    exact iff_of_false (fun h' => nomatch h') fun h' => h h'.1

/-- Leaves all modules above a depth. -/
def truncate (s : ImportStack) (depth : Nat) : ImportStack :=
  ⟨s.frames.take depth, s.nodup.sublist (List.take_sublist depth s.frames)⟩

/-- Leaves the innermost module. -/
def pop (s : ImportStack) : ImportStack := s.truncate (s.size - 1)

/-- Leaving the module just entered restores the stack. -/
theorem pop_of_push {s t : ImportStack} {module : ModuleName} (h : s.push module = .ok t) :
    t.pop = s := by
  refine ext ?_
  show t.frames.take (t.frames.length - 1) = s.frames
  rw [frames_of_push h, List.length_append, List.length_singleton, Nat.add_sub_cancel]
  exact List.take_left

end ImportStack

end ModuleLoader
