import ModuleLoader.Interface
import ModuleLoader.Lookup

/-!
# Decoded interfaces

Decoding an interface is the expensive part of reading it, so a session keeps the interfaces it
decoded or wrote, and hands them to the next session. An interface kept like this is trusted only
while the artifact on disk carries the same full digest; as soon as it does not, it is dropped.
-/

namespace ModuleLoader

/-- **The interfaces decoded or written so far**, one for each module at most. -/
structure DecodedCache where
  /-- The modules with their interfaces. -/
  entries : List (ModuleName × Interface)

namespace DecodedCache

/-- Nothing decoded. -/
def empty : DecodedCache := ⟨[]⟩

instance : EmptyCollection DecodedCache := ⟨empty⟩

instance : Inhabited DecodedCache := ⟨empty⟩

/-- The interface kept for a module. -/
def get? (c : DecodedCache) (module : ModuleName) : Option Interface := c.entries.lookup module

/-- The number of interfaces. -/
def size (c : DecodedCache) : Nat := c.entries.length

/-- The cache without a module. -/
def erase (c : DecodedCache) (module : ModuleName) : DecodedCache :=
  ⟨c.entries.filter fun e => e.1 ≠ module⟩

/-- The cache with an interface for a module, in place of any other. -/
def insert (c : DecodedCache) (module : ModuleName) (i : Interface) : DecodedCache :=
  ⟨(module, i) :: (c.erase module).entries⟩

@[simp] theorem get?_empty (module : ModuleName) : empty.get? module = none := rfl

@[simp] theorem get?_erase (c : DecodedCache) (module m : ModuleName) :
    (c.erase module).get? m = if m = module then none else c.get? m :=
  lookup_filter_ne c.entries module m

@[simp] theorem get?_insert (c : DecodedCache) (module : ModuleName) (i : Interface)
    (m : ModuleName) :
    (c.insert module i).get? m = if m = module then some i else c.get? m :=
  lookup_replace c.entries module i m

/-- What is kept after an insertion was kept before or is what was inserted. -/
theorem get?_insert_eq_some {c : DecodedCache} {module m : ModuleName} {i j : Interface}
    (h : (c.insert module i).get? m = some j) : c.get? m = some j ∨ m = module ∧ j = i := by
  rw [get?_insert] at h
  split at h
  · rename_i hm
    exact .inr ⟨hm, (Option.some.inj h).symm⟩
  · exact .inl h

/-- **The interface kept for a module, if the artifact on disk has the same full digest.** One that
does not is dropped. -/
def getCurrent? (c : DecodedCache) (module : ModuleName) (onDisk : Option Digest) :
    Option Interface × DecodedCache :=
  match c.get? module with
  | none => (none, c)
  | some i => if onDisk = some i.fullHash then (some i, c) else (none, c.erase module)

/-- Where nothing is kept there is no answer. -/
theorem getCurrent?_of_get?_eq_none {c : DecodedCache} {module : ModuleName}
    (h : c.get? module = none) (onDisk : Option Digest) :
    c.getCurrent? module onDisk = (none, c) := by
  unfold getCurrent?
  rw [h]

/-- What is kept is the answer if it has the digest on disk, and it stays. -/
theorem getCurrent?_of_get?_eq_some {c : DecodedCache} {module : ModuleName} {i : Interface}
    (h : c.get? module = some i) : c.getCurrent? module (some i.fullHash) = (some i, c) := by
  unfold getCurrent?
  rw [h]
  exact if_pos rfl

/-- What is answered was kept and has the digest on disk. -/
theorem fullHash_of_getCurrent? {c : DecodedCache} {module : ModuleName} {onDisk : Option Digest}
    {i : Interface} (h : (c.getCurrent? module onDisk).1 = some i) :
    c.get? module = some i ∧ onDisk = some i.fullHash := by
  unfold getCurrent? at h
  split at h
  · contradiction
  · rename_i kept hkept
    split at h
    · rename_i hdisk
      rw [← Option.some.inj h]
      exact ⟨hkept, hdisk⟩
    · contradiction

/-- What is kept after an answer was kept before it. -/
theorem get?_of_getCurrent? {c : DecodedCache} {module m : ModuleName} {onDisk : Option Digest}
    {i : Interface} (h : (c.getCurrent? module onDisk).2.get? m = some i) : c.get? m = some i := by
  unfold getCurrent? at h
  split at h
  · exact h
  · split at h
    · exact h
    · rw [get?_erase] at h
      split at h
      · contradiction
      · exact h

/-- Asking for one module leaves the others alone. -/
theorem get?_getCurrent?_of_ne (c : DecodedCache) {module m : ModuleName}
    (onDisk : Option Digest) (h : m ≠ module) :
    (c.getCurrent? module onDisk).2.get? m = c.get? m := by
  unfold getCurrent?
  split
  · rfl
  · split
    · rfl
    · rw [get?_erase, if_neg h]

/-- The module that was asked for is kept as it was, or is dropped. -/
theorem get?_getCurrent?_self (c : DecodedCache) (module : ModuleName) (onDisk : Option Digest) :
    (c.getCurrent? module onDisk).2.get? module = c.get? module ∨
      (c.getCurrent? module onDisk).2.get? module = none := by
  unfold getCurrent?
  split
  · exact .inl rfl
  · split
    · exact .inl rfl
    · right
      rw [get?_erase, if_pos rfl]

end DecodedCache

end ModuleLoader
