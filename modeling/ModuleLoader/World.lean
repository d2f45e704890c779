import ModuleLoader.Check

/-!
# The world around a load

A load works on a disk that it does not own. Other programs may change files while it runs: the
world holds what they are going to do, one change before each of the loader's next accesses to the
disk. A world in which nothing is left to come is *quiet*.

An access is one operation of the loader: looking for the source of a module, reading a file, making
a change that a checker asks for, or writing an artifact. The last one makes directories, writes the
file, reads it back, and takes it away if any of this fails, and nobody gets in between these: the
world says nothing of programs that change an artifact while it is being written.

The world also keeps a journal of what happened, in order. Nothing is ever taken out of it, and the
loader never reads it.
-/

namespace ModuleLoader

/-- Something that happened during a load. -/
inductive Event where
  /-- A checker was called on a module. -/
  | checking (module : ModuleName) (mode : CheckMode)
  /-- A module was settled. -/
  | settled (module : ModuleName)
  /-- A checker left a note. -/
  | note (text : String)
  deriving DecidableEq, Repr

/-- The line that an event leaves in the log of a checker: its calls and its notes do. -/
def Event.line? : Event → Option String
  | checking module mode => some s!"check {module} {mode}"
  | settled _ => none
  | note text => some text

/-- **The world around a load.** -/
structure World where
  /-- The disk as it is now. -/
  disk : Disk
  /-- What other programs are going to do to it, one change for each access. -/
  outside : List (Disk → Disk)
  /-- What has happened so far, first thing first. -/
  journal : List Event

namespace World

/-- A world in which nobody but the loader changes the disk. -/
def quiet (disk : Disk) : World := ⟨disk, [], []⟩

instance : Inhabited World := ⟨quiet ∅⟩

/-- The world at the loader's next access: other programs get in before it. -/
def next (w : World) : World :=
  match w.outside with
  | [] => w
  | change :: rest => { w with disk := change w.disk, outside := rest }

/-- The world with one more event in the journal. -/
def record (w : World) (event : Event) : World := { w with journal := w.journal ++ [event] }

/-- The log of the checkers. -/
def log (w : World) : List String := w.journal.filterMap Event.line?

end World

end ModuleLoader
