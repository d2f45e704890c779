import ModuleLoader.Digest
import ModuleLoader.Disk
import ModuleLoader.Lookup

/-!
# Source files

A session reads a source file once and keeps it. Later requests for the same place – whatever the
spelling of the path – are answered with what was read, until the file is asked for afresh. A
request that fails changes nothing, so a file that has disappeared is still remembered.
-/

namespace ModuleLoader

/-- A source file as it was read. -/
structure SourceFile where
  /-- The path under which it was read. -/
  path : Path
  /-- The text. -/
  text : String
  deriving DecidableEq

/-- The digest of the text. -/
def SourceFile.hash (f : SourceFile) : Digest := Digest.ofText f.text

/-- **The source files read so far**, by the components of their paths. -/
structure SourceCache where
  /-- The files with their keys. -/
  files : List (List Path.Component × SourceFile)

namespace SourceCache

/-- Nothing read yet. -/
def empty : SourceCache := ⟨[]⟩

instance : EmptyCollection SourceCache := ⟨empty⟩

instance : Inhabited SourceCache := ⟨empty⟩

/-- The number of files. -/
def size (c : SourceCache) : Nat := c.files.length

/-- The file at a path, as it was read. -/
def get? (c : SourceCache) (path : Path) : Option SourceFile := c.files.lookup path.components

/-- The cache with a file just read. -/
def insert (c : SourceCache) (file : SourceFile) : SourceCache :=
  let key := file.path.components
  ⟨(key, file) :: c.files.filter fun f => f.1 ≠ key⟩

@[simp] theorem get?_empty (path : Path) : empty.get? path = none := rfl

/-- A file that was just read is found under every spelling of its path. -/
@[simp] theorem get?_insert (c : SourceCache) (file : SourceFile) (path : Path) :
    (c.insert file).get? path = if path.Same file.path then some file else c.get? path :=
  lookup_replace c.files file.path.components file path.components

/-- What is remembered after a file was read was remembered before or is this file. -/
theorem get?_insert_eq_some {c : SourceCache} {file found : SourceFile} {path : Path}
    (h : (c.insert file).get? path = some found) :
    c.get? path = some found ∨ file.path.Same path ∧ found = file := by
  rw [get?_insert] at h
  split at h
  · rename_i hsame
    exact .inr ⟨Eq.symm hsame, (Option.some.inj h).symm⟩
  · exact .inl h

/-- Reads a file from disk, in place of what was read before. -/
def reload (c : SourceCache) (disk : Disk) (path : Path) :
    Except DiskFault (SourceFile × SourceCache) :=
  match disk.readText path with
  | .ok text => .ok (⟨path, text⟩, c.insert ⟨path, text⟩)
  | .error fault => .error fault

/-- The file at a path, read from disk unless it was read before. -/
def load (c : SourceCache) (disk : Disk) (path : Path) :
    Except DiskFault (SourceFile × SourceCache) :=
  match c.get? path with
  | some file => .ok (file, c)
  | none => c.reload disk path

/-- What is read again is what the file holds now. -/
theorem of_reload {c c' : SourceCache} {disk : Disk} {path : Path} {file : SourceFile}
    (h : c.reload disk path = .ok (file, c')) :
    file.path = path ∧ disk.readText path = .ok file.text ∧ c' = c.insert file := by
  unfold reload at h
  split at h
  · rename_i text hread
    obtain ⟨rfl, rfl⟩ := Prod.mk.inj (Except.ok.inj h)
    exact ⟨rfl, hread, rfl⟩
  · contradiction

/-- What is read was remembered, and nothing changes, or it is read as if again. -/
theorem of_load {c c' : SourceCache} {disk : Disk} {path : Path} {file : SourceFile}
    (h : c.load disk path = .ok (file, c')) :
    c.get? path = some file ∧ c' = c ∨ c.reload disk path = .ok (file, c') := by
  unfold load at h
  split at h
  · rename_i found hget
    obtain ⟨rfl, rfl⟩ := Prod.mk.inj (Except.ok.inj h)
    exact .inl ⟨hget, rfl⟩
  · exact .inr h

end SourceCache

end ModuleLoader
