import ModuleLoader.Interface
import ModuleLoader.Lookup

/-!
# Settled modules

Once a session has decided on the interface of a module, the module is settled: every later request
in that session gets exactly that interface. The table of settled modules keeps the order in which
they were settled, and recording a module again changes nothing.
-/

namespace ModuleLoader

/-- What a session knows of a settled module. -/
structure VisitedEntry where
  /-- Its interface. -/
  interface : Interface
  /-- Whether it was checked with warnings. -/
  hasWarnings : Bool
  /-- Whether it is built in. -/
  isPrimitive : Bool
  deriving DecidableEq

/-- Whether other modules may import this one: it has no warnings, or it is built in. -/
def VisitedEntry.importable (e : VisitedEntry) : Bool := !e.hasWarnings || e.isPrimitive

/-- **The settled modules of a session**, in the order in which they were settled. -/
structure VisitedCache where
  /-- The modules with what is known of them. -/
  entries : List (ModuleName × VisitedEntry)

namespace VisitedCache

/-- Nothing settled. -/
def empty : VisitedCache := ⟨[]⟩

instance : EmptyCollection VisitedCache := ⟨empty⟩

instance : Inhabited VisitedCache := ⟨empty⟩

/-- What is known of a module. -/
def get? (c : VisitedCache) (module : ModuleName) : Option VisitedEntry := c.entries.lookup module

/-- Whether a module is settled. -/
def contains (c : VisitedCache) (module : ModuleName) : Bool := (c.get? module).isSome

/-- The number of settled modules. -/
def size (c : VisitedCache) : Nat := c.entries.length

/-- **Settles a module**, unless it is settled already. -/
def record (c : VisitedCache) (module : ModuleName) (entry : VisitedEntry) : VisitedCache :=
  if c.contains module then c else ⟨c.entries ++ [(module, entry)]⟩

@[simp] theorem get?_empty (module : ModuleName) : empty.get? module = none := rfl

/-- Recording a module settles it if nothing is known of it, and leaves every other alone. -/
theorem get?_record (c : VisitedCache) (module : ModuleName) (entry : VisitedEntry)
    (m : ModuleName) :
    (c.record module entry).get? m
      = (c.get? m).or (if m = module then some entry else none) := by
  unfold record
  split
  · rename_i h
    by_cases hm : m = module
    · subst hm
      obtain ⟨known, hknown⟩ := Option.isSome_iff_exists.1 h
      rw [hknown]
      rfl
    · rw [if_neg hm, Option.or_none]
  · exact lookup_append_pair c.entries module entry m

/-- What is settled after a module has been recorded was settled before or is what was recorded. -/
theorem get?_record_eq_some {c : VisitedCache} {module m : ModuleName} {entry known : VisitedEntry}
    (h : (c.record module entry).get? m = some known) :
    c.get? m = some known ∨ m = module ∧ known = entry := by
  rw [get?_record] at h
  obtain hbefore | ⟨-, hnew⟩ := Option.or_eq_some_iff.1 h
  · exact .inl hbefore
  · split at hnew
    · rename_i hm
      exact .inr ⟨hm, (Option.some.inj hnew).symm⟩
    · contradiction

/-- **What is settled stays settled**, whatever is recorded afterwards. -/
theorem get?_record_of_get? {c : VisitedCache} {m : ModuleName} {known : VisitedEntry}
    (h : c.get? m = some known) (module : ModuleName) (entry : VisitedEntry) :
    (c.record module entry).get? m = some known := by
  rw [get?_record, h]
  rfl

end VisitedCache

end ModuleLoader
