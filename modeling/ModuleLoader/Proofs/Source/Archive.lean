import Mathlib.Data.Finset.Card
import Mathlib.Data.List.Induction
import ModuleLoader.Source

/-!
# Sources as they were read

Whoever compares the digest of a source with one that was recorded has to know which version of the
text the digest is of. Here is a store of sources with the digests taken when they were read, and
with the reading of a file as an effect (`SourceStore.load`, `SourceStore.reload`). On a disk, and
apart from the digests, it is the cache of source files (`SourceStore.load_cache`).

The store is put into an archive: beside it there are the files, which anyone may change at any
time, and a log of all readings, which nobody looks at. After any sequence of requests and changes
the store is what its log says, reading by reading (`Archive.recorded_run`). So it holds of each
place what was read there last, it looks at no file that it has read, and it counts the places that
were read (`Archive.faithful_after`).
-/

namespace ModuleLoader

/-! ## A store of sources -/

/-- **A copy of a source file**, with the digest taken when it was read. -/
structure SourceCopy where
  /-- The file as it was read. -/
  file : SourceFile
  /-- The digest of its text. -/
  digest : Digest
  deriving DecidableEq

/-- The copy of a file that has just been read. -/
def SourceCopy.of (file : SourceFile) : SourceCopy := ⟨file, Digest.ofText file.text⟩

/-- **The copies of the files read so far**, by the components of their paths. -/
structure SourceStore where
  /-- The copies with their keys. -/
  copies : List (List Path.Component × SourceCopy)

namespace SourceStore

variable {s : SourceStore} {copy : SourceCopy} {path : Path}

/-- Nothing read yet. -/
def empty : SourceStore := ⟨[]⟩

instance : EmptyCollection SourceStore := ⟨empty⟩

/-- The number of copies. -/
def size (s : SourceStore) : Nat := s.copies.length

/-- The keys of the copies. -/
def keys (s : SourceStore) : List (List Path.Component) := s.copies.map Prod.fst

/-- The copy of the file at a path. -/
def get? (s : SourceStore) (path : Path) : Option SourceCopy := s.copies.lookup path.components

/-- The store with a copy of a file just read. -/
def insert (s : SourceStore) (copy : SourceCopy) : SourceStore :=
  let key := copy.file.path.components
  ⟨(key, copy) :: s.copies.filter fun e => e.1 ≠ key⟩

section Effects

variable {m : Type → Type} [Monad m]

/-- Reads a file, in place of what was read before. -/
def reload (read : Path → m (Except DiskFault String)) (s : SourceStore) (path : Path) :
    m (Except DiskFault SourceCopy × SourceStore) := do
  match ← read path with
  | .ok text =>
    let copy := SourceCopy.of ⟨path, text⟩
    return (.ok copy, s.insert copy)
  | .error fault => return (.error fault, s)

/-- The copy of the file at a path. The file is read unless it was read before. -/
def load (read : Path → m (Except DiskFault String)) (s : SourceStore) (path : Path) :
    m (Except DiskFault SourceCopy × SourceStore) :=
  match s.get? path with
  | some copy => return (.ok copy, s)
  | none => s.reload read path

end Effects

@[simp] theorem get?_empty (path : Path) : empty.get? path = none := rfl

/-- A copy is found under every spelling of its path. -/
@[simp] theorem get?_insert (s : SourceStore) (copy : SourceCopy) (path : Path) :
    (s.insert copy).get? path = if path.Same copy.file.path then some copy else s.get? path :=
  lookup_replace s.copies copy.file.path.components copy path.components

/-- What is found does not depend on how a path is spelled. -/
theorem get?_of_same {path' : Path} (s : SourceStore) (h : path.Same path') :
    s.get? path = s.get? path' :=
  congrArg (fun key => s.copies.lookup key) h

/-- The keys with those of one more copy. -/
theorem keys_insert (s : SourceStore) (copy : SourceCopy) :
    (s.insert copy).keys
      = copy.file.path.components :: s.keys.filter (· ≠ copy.file.path.components) := by
  simp [keys, insert, List.filter_map, Function.comp_def]

/-- No key occurs twice. -/
theorem nodup_keys_insert (h : s.keys.Nodup) (copy : SourceCopy) : (s.insert copy).keys.Nodup := by
  rw [keys_insert]
  exact List.nodup_cons.2 ⟨by simp, h.filter _⟩

/-! ### The store without its digests -/

/-- The files of a store, without their digests. -/
def cache (s : SourceStore) : SourceCache := ⟨s.copies.map fun e => (e.1, e.2.file)⟩

/-- There are as many files as copies. -/
@[simp] theorem size_cache (s : SourceStore) : s.cache.size = s.size := List.length_map _

/-- The file of a copy is found where the copy is. -/
theorem get?_cache (s : SourceStore) (path : Path) :
    s.cache.get? path = (s.get? path).map SourceCopy.file :=
  lookup_map_value SourceCopy.file s.copies path.components

/-- One more copy is one more file. -/
theorem cache_insert (s : SourceStore) (copy : SourceCopy) :
    (s.insert copy).cache = s.cache.insert copy.file := by
  simp [cache, insert, SourceCache.insert, List.filter_map, Function.comp_def]

/-- What a request comes to without digests. -/
def answer : Except DiskFault SourceCopy × SourceStore → Except DiskFault (SourceFile × SourceCache)
  | (.ok copy, s) => .ok (copy.file, s.cache)
  | (.error fault, _) => .error fault

/-- **Reading a file afresh** is the same without digests. -/
theorem reload_cache (s : SourceStore) (disk : Disk) (path : Path) :
    s.cache.reload disk path = answer (Id.run (s.reload disk.readText path)) := by
  unfold SourceCache.reload reload
  cases hread : disk.readText path with
  | error fault => rfl
  | ok text =>
    show Except.ok (_, s.cache.insert (SourceCopy.of ⟨path, text⟩).file) = _
    rw [← cache_insert]
    rfl

/-- **Asking for a file** is the same without digests. -/
theorem load_cache (s : SourceStore) (disk : Disk) (path : Path) :
    s.cache.load disk path = answer (Id.run (s.load disk.readText path)) := by
  unfold SourceCache.load load
  rw [get?_cache]
  cases s.get? path with
  | some copy => rfl
  | none => exact s.reload_cache disk path

end SourceStore

/-! ## Files that are looked at -/

namespace Archive

/-- **A reading**: a look at a file, and what came of it. -/
structure Reading where
  /-- The path. -/
  path : Path
  /-- The text, or why there is none. -/
  outcome : Except DiskFault String

/-- The file that was read, if it was. -/
def Reading.file? (r : Reading) : Option SourceFile :=
  match r.outcome with
  | .ok text => some ⟨r.path, text⟩
  | .error _ => none

/-- **Files, and who looked at them.** -/
structure Shelf where
  /-- What reading a file gives now. -/
  texts : Path → Except DiskFault String
  /-- All readings, the last one first. -/
  readings : List Reading

/-- The files after a look at one of them. -/
def Shelf.note (shelf : Shelf) (path : Path) : Shelf :=
  { shelf with readings := ⟨path, shelf.texts path⟩ :: shelf.readings }

/-- Reading a file, which leaves a note. -/
def Shelf.read (path : Path) : StateM Shelf (Except DiskFault String) := do
  let shelf ← get
  set (shelf.note path)
  return shelf.texts path

/-- **The file that was read last** under any spelling of a path. -/
def lastRead (readings : List Reading) (path : Path) : Option SourceFile :=
  readings.findSome? fun r => if r.path.Same path then r.file? else none

/-- The files that were read. -/
def filesRead (readings : List Reading) : List SourceFile := readings.filterMap Reading.file?

/-- **The store that readings fill.** -/
def storeOf : List Reading → SourceStore
  | [] => ∅
  | r :: earlier =>
    match r.file? with
    | some file => (storeOf earlier).insert (.of file)
    | none => storeOf earlier

variable {path : Path} {readings : List Reading}

/-- One more reading. -/
theorem storeOf_cons (r : Reading) (earlier : List Reading) :
    storeOf (r :: earlier) =
      match r.file? with
      | some file => (storeOf earlier).insert (.of file)
      | none => storeOf earlier := rfl

/-- A file is known by the path of its reading. -/
theorem Reading.path_of_file? {r : Reading} {file : SourceFile} (h : r.file? = some file) :
    file.path = r.path := by
  unfold Reading.file? at h
  split at h
  · rw [← Option.some.inj h]
  · contradiction

/-- **The store holds what was read last**, with its digest. -/
theorem get?_storeOf (readings : List Reading) (path : Path) :
    (storeOf readings).get? path = (lastRead readings path).map .of := by
  induction readings with
  | nil => rfl
  | cons r earlier ih =>
    rw [storeOf_cons, lastRead, List.findSome?_cons]
    cases hfile : r.file? with
    | none =>
      rw [ite_self]
      exact ih
    | some file =>
      dsimp only
      rw [SourceStore.get?_insert, ih]
      have hpath : (SourceCopy.of file).file.path = r.path := Reading.path_of_file? hfile
      rw [hpath]
      have hsymm : path.Same r.path ↔ r.path.Same path := eq_comm
      by_cases hsame : r.path.Same path
      · rw [if_pos (hsymm.2 hsame), if_pos hsame]
        rfl
      · rw [if_neg (hsymm.not.2 hsame), if_neg hsame]
        rfl

/-- **The digest of a copy is that of its text.** -/
theorem digest_of_mem_storeOf {e : List Path.Component × SourceCopy}
    (h : e ∈ (storeOf readings).copies) : e.2.digest = Digest.ofText e.2.file.text := by
  induction readings with
  | nil => contradiction
  | cons r earlier ih =>
    rw [storeOf_cons] at h
    split at h
    · obtain rfl | h := List.mem_cons.1 h
      · rfl
      · exact ih (List.mem_of_mem_filter h)
    · exact ih h

/-- No place has two copies. -/
theorem nodup_keys_storeOf (readings : List Reading) : (storeOf readings).keys.Nodup := by
  induction readings with
  | nil => exact .nil
  | cons r earlier ih =>
    rw [storeOf_cons]
    split
    · exact SourceStore.nodup_keys_insert ih _
    · exact ih

/-- There is a copy of what is at a place just if a file was read there. -/
theorem mem_keys_storeOf {key : List Path.Component} :
    key ∈ (storeOf readings).keys ↔
      key ∈ (filesRead readings).map fun file => file.path.components := by
  induction readings with
  | nil => exact Iff.rfl
  | cons r earlier ih =>
    rw [storeOf_cons, filesRead, List.filterMap_cons]
    cases r.file? with
    | none => exact ih
    | some file =>
      dsimp only
      rw [SourceStore.keys_insert, List.map_cons, List.mem_cons, List.mem_cons, List.mem_filter, ih]
      have hkey : (SourceCopy.of file).file.path.components = file.path.components := rfl
      rw [hkey, decide_eq_true_eq]
      exact or_congr_right' fun hne => and_iff_left hne

/-- **There are as many copies as places that were read.** -/
theorem size_storeOf (readings : List Reading) :
    (storeOf readings).size
      = ((filesRead readings).map fun file => file.path.components).toFinset.card := by
  have hkeys : (storeOf readings).keys.toFinset
      = ((filesRead readings).map fun file => file.path.components).toFinset := by
    ext key
    rw [List.mem_toFinset, List.mem_toFinset, mem_keys_storeOf]
  rw [← hkeys, List.toFinset_card_of_nodup (nodup_keys_storeOf readings)]
  exact (List.length_map _).symm

end Archive

/-! ## Requests and changes -/

/-- **An archive**: files that anyone may change, and a store of those that were read. -/
structure Archive where
  /-- The files. -/
  shelf : Archive.Shelf
  /-- The store. -/
  store : SourceStore

namespace Archive

variable {a : Archive} {path : Path} {text : String} {fault : DiskFault} {copy : SourceCopy}

/-- An archive of files that nobody has looked at. -/
def start (texts : Path → Except DiskFault String) : Archive := ⟨⟨texts, []⟩, ∅⟩

/-- A request is answered by the store, which looks at the files as it needs to. -/
def ask (a : Archive) (request : StateM Shelf (Except DiskFault SourceCopy × SourceStore)) :
    Except DiskFault SourceCopy × Archive :=
  let ((reply, store), shelf) := request.run a.shelf
  (reply, ⟨shelf, store⟩)

/-- A file is asked for. -/
def load (a : Archive) (path : Path) : Except DiskFault SourceCopy × Archive :=
  a.ask (a.store.load Shelf.read path)

/-- A file is to be read afresh. -/
def reload (a : Archive) (path : Path) : Except DiskFault SourceCopy × Archive :=
  a.ask (a.store.reload Shelf.read path)

/-- Files are edited, made or removed, in any way. -/
def change (a : Archive) (texts : Path → Except DiskFault String) : Archive :=
  { a with shelf := { a.shelf with texts := texts } }

/-- What happens to an archive. -/
inductive Act where
  /-- A file is asked for. -/
  | load (path : Path)
  /-- A file is to be read afresh. -/
  | reload (path : Path)
  /-- Files change. -/
  | change (texts : Path → Except DiskFault String)

/-- The archive after an act. -/
def step (a : Archive) : Act → Archive
  | .load path => (a.load path).2
  | .reload path => (a.reload path).2
  | .change texts => a.change texts

/-- The archive after some acts. -/
def run (a : Archive) (acts : List Act) : Archive := acts.foldl step a

/-! ### What a request comes to -/

/-- A copy that is there is the answer, and nothing else happens. -/
theorem load_of_some (h : a.store.get? path = some copy) : a.load path = (.ok copy, a) := by
  unfold load SourceStore.load
  rw [h]
  rfl

/-- Without a copy the file is read. -/
theorem load_of_none (h : a.store.get? path = none) : a.load path = a.reload path := by
  unfold load SourceStore.load
  rw [h]
  rfl

/-- Reading a file afresh, step by step. -/
theorem run_reload (s : SourceStore) (path : Path) (shelf : Shelf) :
    (s.reload Shelf.read path).run shelf =
      match shelf.texts path with
      | .ok text =>
        ((.ok (.of ⟨path, text⟩), s.insert (.of ⟨path, text⟩)), shelf.note path)
      | .error fault => ((.error fault, s), shelf.note path) := by
  have hread : (Shelf.read path).run shelf = (shelf.texts path, shelf.note path) := rfl
  unfold SourceStore.reload
  rw [StateT.run_bind, hread]
  cases shelf.texts path <;> rfl

/-- A file that is read is copied. -/
theorem reload_of_ok (h : a.shelf.texts path = .ok text) :
    a.reload path
      = (.ok (.of ⟨path, text⟩), ⟨a.shelf.note path, a.store.insert (.of ⟨path, text⟩)⟩) := by
  unfold reload ask
  rw [run_reload, h]

/-- A file that cannot be read is not. -/
theorem reload_of_error (h : a.shelf.texts path = .error fault) :
    a.reload path = (.error fault, ⟨a.shelf.note path, a.store⟩) := by
  unfold reload ask
  rw [run_reload, h]

/-- **A file is read or not**, and if not, the store stays as it is. -/
theorem reload_cases (a : Archive) (path : Path) :
    (∃ text, a.shelf.texts path = .ok text ∧ a.reload path
      = (.ok (.of ⟨path, text⟩), ⟨a.shelf.note path, a.store.insert (.of ⟨path, text⟩)⟩)) ∨
    ∃ fault, a.shelf.texts path = .error fault ∧
      a.reload path = (.error fault, ⟨a.shelf.note path, a.store⟩) := by
  cases h : a.shelf.texts path with
  | ok text => exact .inl ⟨text, rfl, reload_of_ok h⟩
  | error fault => exact .inr ⟨fault, rfl, reload_of_error h⟩

/-! ### The store is what its log says -/

/-- **The store is what the log of readings says.** -/
def Recorded (a : Archive) : Prop := a.store = storeOf a.shelf.readings

/-- Nothing has been read, and nothing is held. -/
theorem recorded_start (texts : Path → Except DiskFault String) : (start texts).Recorded := rfl

/-- Reading a file afresh is recorded. -/
theorem recorded_reload (h : a.Recorded) (path : Path) : (a.reload path).2.Recorded := by
  obtain ⟨text, htext, hreload⟩ | ⟨fault, hfault, hreload⟩ := a.reload_cases path
  · rw [hreload]
    show a.store.insert _ = storeOf (⟨path, a.shelf.texts path⟩ :: a.shelf.readings)
    rw [htext, storeOf_cons, show a.store = storeOf a.shelf.readings from h]
    rfl
  · rw [hreload]
    show a.store = storeOf (⟨path, a.shelf.texts path⟩ :: a.shelf.readings)
    rw [hfault, storeOf_cons, show a.store = storeOf a.shelf.readings from h]
    rfl

/-- **An act is recorded.** -/
theorem recorded_step (h : a.Recorded) (act : Act) : (a.step act).Recorded := by
  cases act with
  | load path =>
    show (a.load path).2.Recorded
    cases hcopy : a.store.get? path with
    | some copy => rwa [load_of_some hcopy]
    | none =>
      rw [load_of_none hcopy]
      exact recorded_reload h path
  | reload path => exact recorded_reload h path
  | change texts => exact h

/-- **A run is recorded.** -/
theorem recorded_run (h : a.Recorded) (acts : List Act) : (a.run acts).Recorded := by
  induction acts generalizing a with
  | nil => exact h
  | cons act rest ih => exact ih (recorded_step h act)

/-! ### A copy stays until its file is read afresh -/

/-- An act keeps the copy of a file, unless it reads the file afresh. -/
theorem get?_step (h : a.store.get? path = some copy) {act : Act}
    (hact : ∀ p, act = .reload p → ¬ p.Same path) : (a.step act).store.get? path = some copy := by
  have hother : ∀ p, ¬ p.Same path → (a.reload p).2.store.get? path = some copy := by
    intro p hp
    obtain ⟨text, -, hreload⟩ | ⟨fault, -, hreload⟩ := a.reload_cases p
    · have hne : ¬ path.Same (SourceCopy.of ⟨p, text⟩).file.path := fun hsame => hp (Eq.symm hsame)
      rw [hreload, SourceStore.get?_insert, if_neg hne]
      exact h
    · rw [hreload]
      exact h
  cases act with
  | load p =>
    show (a.load p).2.store.get? path = some copy
    cases hcopy : a.store.get? p with
    | some found => rwa [load_of_some hcopy]
    | none =>
      rw [load_of_none hcopy]
      refine hother p fun hsame => ?_
      rw [a.store.get?_of_same hsame, h] at hcopy
      contradiction
  | reload p => exact hother p (hact p rfl)
  | change texts => exact h

/-- So does a run. -/
theorem get?_run (h : a.store.get? path = some copy) {acts : List Act}
    (hacts : ∀ p, .reload p ∈ acts → ¬ p.Same path) : (a.run acts).store.get? path = some copy := by
  induction acts generalizing a with
  | nil => exact h
  | cons act rest ih =>
    have hstep : (a.step act).store.get? path = some copy := by
      refine get?_step h fun p hp => hacts p ?_
      rw [hp]
      exact List.mem_cons_self
    exact ih hstep fun p hp => hacts p (List.mem_cons_of_mem _ hp)

/-! ### The laws -/

/-- **The store is a faithful snapshot** of the files. -/
structure Faithful (a : Archive) : Prop where
  /-- Every copy has the digest of its text. -/
  digest : ∀ e ∈ a.store.copies, e.2.digest = Digest.ofText e.2.file.text
  /-- If a file was read, asking for it gives what was read last under any spelling of its path. The
  file is not looked at, whatever has become of it, and everything stays as it is. -/
  remembered : ∀ path file, lastRead a.shelf.readings path = some file →
    ∀ texts, (a.change texts).load path = (.ok (.of file), a.change texts)
  /-- If it was not, asking for it is reading it. -/
  unread : ∀ path, lastRead a.shelf.readings path = none → a.load path = a.reload path
  /-- Reading a file afresh looks at it, once. -/
  noted : ∀ path, (a.reload path).2.shelf = a.shelf.note path
  /-- It gives the text that the file has, and so does asking for it later under any spelling of its
  path, until the file is read afresh once more. -/
  reloaded : ∀ path text, a.shelf.texts path = .ok text →
    (a.reload path).1 = .ok (.of ⟨path, text⟩) ∧
      ∀ acts, (∀ p, .reload p ∈ acts → ¬ p.Same path) → ∀ path' : Path, path'.Same path →
        ((a.reload path).2.run acts).load path'
          = (.ok (.of ⟨path, text⟩), (a.reload path).2.run acts)
  /-- It fails if the file cannot be read, and then the store stays as it is. -/
  failed : ∀ path fault, a.shelf.texts path = .error fault →
    a.reload path = (.error fault, ⟨a.shelf.note path, a.store⟩)
  /-- No request that fails changes the store. -/
  unchanged : ∀ path fault,
    ((a.load path).1 = .error fault → (a.load path).2.store = a.store) ∧
      ((a.reload path).1 = .error fault → (a.reload path).2.store = a.store)
  /-- There are as many copies as paths, different as such, under which files were read. -/
  size : a.store.size
    = ((filesRead a.shelf.readings).map fun file => file.path.components).toFinset.card
  /-- On a disk, and apart from the digests, this is the cache of source files. -/
  onDisk : a.store.cache.size = a.store.size ∧ ∀ (disk : Disk) (path : Path),
    a.store.cache.load disk path = SourceStore.answer (Id.run (a.store.load disk.readText path)) ∧
      a.store.cache.reload disk path
        = SourceStore.answer (Id.run (a.store.reload disk.readText path))

/-- A store that is what its log says is faithful. -/
theorem faithful_of_recorded (h : a.Recorded) : a.Faithful where
  digest e he := by
    rw [h] at he
    exact digest_of_mem_storeOf he
  remembered path file hfile texts := by
    refine load_of_some ?_
    show a.store.get? path = some (.of file)
    rw [h, get?_storeOf, hfile]
    rfl
  unread path hnone := by
    refine load_of_none ?_
    rw [h, get?_storeOf, hnone]
    rfl
  noted path := by
    obtain ⟨text, -, hreload⟩ | ⟨fault, -, hreload⟩ := a.reload_cases path <;> rw [hreload]
  reloaded path text htext := by
    rw [reload_of_ok htext]
    have hinsert : (a.store.insert (.of ⟨path, text⟩)).get? path = some (.of ⟨path, text⟩) := by
      rw [SourceStore.get?_insert]
      exact if_pos rfl
    refine ⟨rfl, fun acts hacts path' hsame => load_of_some ?_⟩
    rw [SourceStore.get?_of_same _ hsame]
    exact get?_run hinsert hacts
  failed _ _ := reload_of_error
  unchanged path fault := by
    have hreload : (a.reload path).1 = .error fault → (a.reload path).2.store = a.store := by
      intro hfault
      obtain ⟨text, -, hreload⟩ | ⟨fault, -, hreload⟩ := a.reload_cases path
      · rw [hreload] at hfault
        contradiction
      · rw [hreload]
    refine ⟨fun hfault => ?_, hreload⟩
    cases hcopy : a.store.get? path with
    | some copy => rw [load_of_some hcopy]
    | none =>
      rw [load_of_none hcopy] at hfault ⊢
      exact hreload hfault
  size := by
    rw [h]
    exact size_storeOf a.shelf.readings
  onDisk := ⟨a.store.size_cache, fun disk path =>
    ⟨a.store.load_cache disk path, a.store.reload_cache disk path⟩⟩

/-- **The store is a faithful snapshot after every run** of requests and changes of the files. -/
theorem faithful_after (texts : Path → Except DiskFault String) (acts : List Act) :
    ((start texts).run acts).Faithful :=
  faithful_of_recorded (recorded_run (recorded_start texts) acts)

/-- A file that has disappeared is remembered, also when it is to be read afresh. -/
example :
    let a := (start fun _ => .ok "def a").run
      [.load ⟨"proj/A.lm"⟩, .change fun _ => .error .notFound, .reload ⟨"proj/./A.lm"⟩]
    (a.load ⟨"proj//A.lm"⟩).1.map (fun copy => copy.file.text) = .ok "def a" ∧
      a.store.size = 1 := by
  decide +kernel

end Archive

end ModuleLoader
