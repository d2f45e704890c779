import ModuleLoader.Artifact.Store

/-!
# What a write changes

A path that leads anywhere leads to one place, and which place that is can be read off the path
alone: the disk only decides whether the way there exists (`Disk.placeOf_of_locate`). So two paths
either name one place on every disk or never do.

Making directories adds places and changes none (`Disk.Grows`). Writing a file changes one place,
which held no directory, so every way that existed still does. Both together say what is read
afterwards: the content just written under the path written to, and what was there before under any
path that names another place.
-/

namespace ModuleLoader

namespace Disk

/-! ## Where a path leads -/

/-- **The place that a path names**, if there is a way to it. -/
def placeOf (p : Path) : Place := p.segments.foldl step []

/-- A walk that arrives has gone where its segments lead. -/
theorem foldl_step_of_walk {d : Disk} {place q : Place} {segments : List String}
    (h : d.walk place segments = .ok q) : segments.foldl step place = q := by
  induction segments generalizing place with
  | nil => exact Except.ok.inj h
  | cons segment rest ih =>
    unfold walk at h
    split at h
    · split at h
      · exact ih h
      · contradiction
    · contradiction
    · contradiction

/-- **A path that leads anywhere leads to the place it names.** -/
theorem placeOf_of_locate {d : Disk} {p : Path} {q : Place} (h : d.locate p = .ok q) :
    placeOf p = q := by
  unfold locate at h
  split at h
  · contradiction
  · split at h
    · contradiction
    · exact foldl_step_of_walk h

/-- How a component of a path moves on from a place. -/
def stepComponent (place : Place) : Path.Component → Place
  | .root => place
  | .here => place
  | .up => place.dropLast
  | .name text => place ++ [text]

/-- A segment that counts for nothing stays, and any other moves as its component does. -/
theorem step_eq (place : Place) (segment : String) :
    step place segment
      = match Path.component? segment with
        | some c => stepComponent place c
        | none => place := by
  unfold step
  split
  · rfl
  · rfl
  · rfl
  · rename_i hempty hdot hup
    have hname : Path.component? segment = some (.name segment) := by
      unfold Path.component?
      split
      · exact (hempty rfl).elim
      · exact (hdot rfl).elim
      · exact (hup rfl).elim
      · rfl
    rw [hname]
    rfl

theorem foldl_step_eq (place : Place) (segments : List String) :
    segments.foldl step place
      = (segments.filterMap Path.component?).foldl stepComponent place := by
  induction segments generalizing place with
  | nil => rfl
  | cons segment rest ih =>
    rw [List.foldl_cons, List.filterMap_cons, step_eq]
    cases Path.component? segment with
    | none => exact ih place
    | some c => exact ih (stepComponent place c)

/-- **The place that a path names depends on its components only.** -/
theorem placeOf_eq (p : Path) : placeOf p = p.components.foldl stepComponent [] := by
  unfold placeOf Path.components
  split
  · rename_i rest hsegments
    rw [hsegments]
    split <;> exact foldl_step_eq [] rest
  · rename_i rest hsegments
    rw [hsegments]
    exact foldl_step_eq [] rest
  · exact foldl_step_eq [] p.segments

/-- Two spellings of a path name one place. -/
theorem placeOf_eq_of_same {p q : Path} (h : p.Same q) : placeOf p = placeOf q := by
  rw [placeOf_eq, placeOf_eq, show p.components = q.components from h]

/-- Every directory is still one. -/
def KeepsDirectories (d d' : Disk) : Prop :=
  ∀ q, d.at? q = some .directory → d'.at? q = some .directory

/-- A walk needs nothing but directories. -/
theorem KeepsDirectories.walk {d d' : Disk} (hkeeps : KeepsDirectories d d') {place q : Place}
    {segments : List String} (h : d.walk place segments = .ok q) :
    d'.walk place segments = .ok q := by
  induction segments generalizing place with
  | nil => exact h
  | cons segment rest ih =>
    unfold Disk.walk at h ⊢
    split at h
    · rename_i hplace
      rw [hkeeps place hplace]
      dsimp only
      split at h
      · rename_i hfits
        rw [if_pos hfits]
        exact ih h
      · contradiction
    · contradiction
    · contradiction

/-- A way that exists is still there. -/
theorem KeepsDirectories.locate {d d' : Disk} (hkeeps : KeepsDirectories d d') {p : Path}
    {q : Place} (h : d.locate p = .ok q) : d'.locate p = .ok q := by
  unfold Disk.locate at h ⊢
  split at h
  · contradiction
  · rename_i husable
    rw [if_neg husable]
    split at h
    · contradiction
    · rename_i hrelative
      rw [if_neg hrelative]
      exact hkeeps.walk h

/-- What a path leads to, in two steps. -/
theorem entry_eq_ok_iff {d : Disk} {p : Path} {e : Entry} :
    d.entry p = .ok e ↔ ∃ q, d.locate p = .ok q ∧ d.at? q = some e := by
  unfold entry
  cases hlocate : d.locate p with
  | error fault => simp [bind, Except.bind]
  | ok q =>
    cases hat : d.at? q with
    | none => simp [bind, Except.bind, throw, throwThe, MonadExceptOf.throw, hat]
    | some e' => simp [bind, Except.bind, pure, Except.pure, hat]

/-- Two spellings of a path lead to the same, if both lead anywhere. -/
theorem entry_eq_of_same {d : Disk} {p q : Path} (h : p.Same q) {e e' : Entry}
    (hp : d.entry p = .ok e) (hq : d.entry q = .ok e') : e = e' := by
  obtain ⟨place, hlocate, hat⟩ := entry_eq_ok_iff.1 hp
  obtain ⟨place', hlocate', hat'⟩ := entry_eq_ok_iff.1 hq
  rw [← placeOf_of_locate hlocate] at hat
  rw [← placeOf_of_locate hlocate', ← placeOf_eq_of_same h, hat] at hat'
  exact Option.some.inj hat'

/-- **The text of a file is the same under every spelling of its path** that leads to a file. -/
theorem readText_eq_of_same {d : Disk} {p q : Path} (h : p.Same q) (hp : d.isFile p = true)
    (hq : d.isFile q = true) : d.readText p = d.readText q := by
  unfold isFile at hp hq
  split at hp
  · split at hq
    · rename_i content hentry _ content' hentry'
      have heq := entry_eq_of_same h hentry hentry'
      unfold readText read
      rw [hentry, hentry', heq]
    · contradiction
  · contradiction

/-- **What reads as text is a file** that holds this text. -/
theorem readText_eq_ok {d : Disk} {p : Path} {text : String} (h : d.readText p = .ok text) :
    ∃ content, d.entry p = .ok (.file content) ∧ Bytes.text? content = some text := by
  unfold readText read at h
  cases hentry : d.entry p with
  | error fault => rw [hentry] at h; contradiction
  | ok e =>
    rw [hentry] at h
    cases e with
    | directory => contradiction
    | file content =>
      cases htext : Bytes.text? content with
      | none => simp [bind, Except.bind, pure, Except.pure, htext] at h
      | some text' =>
        refine ⟨content, rfl, ?_⟩
        simpa [bind, Except.bind, pure, Except.pure, htext] using h

/-- What reads as text is a file. -/
theorem isFile_of_readText {d : Disk} {p : Path} {text : String} (h : d.readText p = .ok text) :
    d.isFile p = true := by
  obtain ⟨content, hentry, -⟩ := readText_eq_ok h
  unfold isFile
  rw [hentry]

/-- A file is among the entries of a disk. -/
theorem mem_entries_of_at? {d : Disk} {q : Place} {content : Bytes}
    (h : d.at? q = some (.file content)) : (q, .file content) ∈ d.entries := by
  unfold at? at h
  split at h
  · exact absurd (Option.some.inj h) nofun
  · exact mem_of_lookup h

/-- **What is read from a file** is what its place holds. -/
theorem read?_eq_some_iff {d : Disk} {p : Path} {content : Bytes} :
    d.read? p = some content ↔
      ∃ q, d.locate p = .ok q ∧ d.at? q = some (.file content) := by
  rw [← entry_eq_ok_iff]
  unfold read? read
  cases hentry : d.entry p with
  | error fault => exact iff_of_false (fun h => nomatch h) (fun h => nomatch h)
  | ok e =>
    cases e with
    | directory => exact iff_of_false (fun h => nomatch h) (fun h => nomatch h)
    | file found =>
      constructor
      · intro h
        rw [show found = content from Option.some.inj h]
      · intro h
        rw [show found = content by simpa using h]
        rfl

/-! ## Making directories -/

/-- **Only directories were added.** -/
structure Grows (d d' : Disk) : Prop where
  /-- What was there is there. -/
  kept {q : Place} {e : Entry} : d.at? q = some e → d'.at? q = some e
  /-- No file is new. -/
  file {q : Place} {content : Bytes} :
    d'.at? q = some (.file content) → d.at? q = some (.file content)

namespace Grows

theorem refl (d : Disk) : Grows d d := ⟨id, id⟩

theorem trans {d₁ d₂ d₃ : Disk} (h : Grows d₁ d₂) (h' : Grows d₂ d₃) : Grows d₁ d₃ :=
  ⟨fun hq => h'.kept (h.kept hq), fun hq => h.file (h'.file hq)⟩

theorem keepsDirectories {d d' : Disk} (h : Grows d d') : KeepsDirectories d d' :=
  fun _ hq => h.kept hq

end Grows

/-- The working directory is a directory. -/
theorem ne_nil_of_at? {d : Disk} {place : Place} (h : d.at? place ≠ some .directory) :
    place ≠ [] := by
  rintro rfl
  exact h rfl

/-- What making a directory comes to. -/
theorem makeDirectory_eq_ok {d d' : Disk} {p : Path} (h : d.makeDirectory p = .ok d') :
    ∃ place, d.locateTarget p = .ok place ∧ d.at? place = none ∧ d' = d.put place .directory := by
  unfold makeDirectory at h
  cases htarget : d.locateTarget p with
  | error fault => rw [htarget] at h; contradiction
  | ok place =>
    rw [htarget] at h
    dsimp only [bind, Except.bind] at h
    split at h
    · contradiction
    · rename_i hnone
      exact ⟨place, rfl, hnone, (Except.ok.inj h).symm⟩

theorem grows_of_makeDirectory {d d' : Disk} {p : Path} (h : d.makeDirectory p = .ok d') :
    Grows d d' := by
  obtain ⟨place, -, hnone, rfl⟩ := makeDirectory_eq_ok h
  have hne : place ≠ [] := ne_nil_of_at? (d := d) (by simp [hnone])
  constructor
  · intro q e hq
    rw [at?_put d hne, if_neg fun heq => ?_]
    · exact hq
    · rw [heq, hnone] at hq
      contradiction
  · intro q content hq
    rw [at?_put d hne] at hq
    split at hq
    · simp at hq
    · exact hq

theorem grows_of_ensureDirectory {d d' : Disk} {p : Path} (h : d.ensureDirectory p = .ok d') :
    Grows d d' := by
  unfold ensureDirectory at h
  split at h
  · rename_i hmade
    rw [← Except.ok.inj h]
    exact grows_of_makeDirectory hmade
  · split at h
    · rw [← Except.ok.inj h]
      exact Grows.refl d
    · contradiction

/-- **Making directories adds directories only**, also where it fails. -/
theorem grows_ensureLineage (d : Disk) (paths : List Path) : Grows d (d.ensureLineage paths).2 := by
  induction paths with
  | nil => exact Grows.refl d
  | cons p above ih =>
    unfold ensureLineage
    split
    · exact Grows.refl d
    · split
      · rename_i hmade
        exact grows_of_ensureDirectory hmade
      · split
        · rename_i d₁ habove
          rw [habove] at ih
          split
          · rename_i hmade
            exact ih.trans (grows_of_ensureDirectory hmade)
          · exact ih
        · exact ih
      · exact Grows.refl d

theorem grows_makeDirectories (d : Disk) (p : Path) : Grows d (d.makeDirectories p).2 :=
  grows_ensureLineage d p.ancestors

/-! ## Writing a file -/

/-- A path that does not end in a slash keeps its text when slashes at its end are dropped. -/
theorem dropSlashes_of_not_endsInSlash {p : Path} (h : ¬ p.endsInSlash = true) :
    p.dropSlashes = p := by
  unfold Path.endsInSlash at h
  unfold Path.dropSlashes
  have hdrop : p.text.toList.reverse.dropWhile (· == '/') = p.text.toList.reverse := by
    cases hrev : p.text.toList.reverse with
    | nil => rfl
    | cons c rest =>
      have hlast : p.text.toList.getLast? = some c := by
        rw [← List.head?_reverse, hrev]
        rfl
      rw [hlast] at h
      have hc : ¬ (c == '/') = true := fun hc => h (by simpa using hc)
      exact List.dropWhile_cons_of_neg hc
  rw [hdrop, List.reverse_reverse, String.ofList_toList]

/-- **What a successful write does**: it puts the content in the place that the path names, where
no directory was. -/
theorem write_eq_ok {d d' : Disk} {p : Path} {content : Bytes} (h : d.write p content = .ok d') :
    ∃ place, d.locate p = .ok place ∧ d.at? place ≠ some .directory ∧
      d' = d.put place (.file content) := by
  unfold write at h
  cases htarget : d.locateTarget p with
  | error fault => rw [htarget] at h; contradiction
  | ok place =>
    rw [htarget] at h
    dsimp only [bind, Except.bind] at h
    split at h
    · contradiction
    · rename_i hdirectory
      split at h
      · contradiction
      · rename_i hslash
        refine ⟨place, ?_, hdirectory, (Except.ok.inj h).symm⟩
        unfold locateTarget at htarget
        split at htarget
        · contradiction
        · rwa [dropSlashes_of_not_endsInSlash hslash] at htarget

/-- Putting a file where no directory is keeps every directory. -/
theorem keepsDirectories_put {d : Disk} {place : Place} (h : d.at? place ≠ some .directory)
    (content : Bytes) : KeepsDirectories d (d.put place (.file content)) := by
  intro q hq
  rw [at?_put d (ne_nil_of_at? h), if_neg ?_]
  · exact hq
  · rintro rfl
    exact h hq

/-- **What was written is read.** -/
theorem read?_of_write {d d' : Disk} {p : Path} {content : Bytes}
    (h : d.write p content = .ok d') : d'.read? p = some content := by
  obtain ⟨place, hlocate, hdirectory, rfl⟩ := write_eq_ok h
  refine read?_eq_some_iff.2 ⟨place, (keepsDirectories_put hdirectory content).locate hlocate, ?_⟩
  rw [at?_put d (ne_nil_of_at? hdirectory), if_pos rfl]

/-- **What other paths read stays.** -/
theorem read?_of_write_of_ne {d d' : Disk} {p q : Path} {content found : Bytes}
    (h : d.write p content = .ok d') (hne : placeOf q ≠ placeOf p) (hq : d.read? q = some found) :
    d'.read? q = some found := by
  obtain ⟨place, hlocate, hdirectory, rfl⟩ := write_eq_ok h
  obtain ⟨other, hother, hfile⟩ := read?_eq_some_iff.1 hq
  refine read?_eq_some_iff.2 ⟨other, (keepsDirectories_put hdirectory content).locate hother, ?_⟩
  rw [at?_put d (ne_nil_of_at? hdirectory), if_neg ?_]
  · exact hfile
  · rw [← placeOf_of_locate hother, ← placeOf_of_locate hlocate]
    exact hne

/-- A file after a write was there before it, or it is the one that was written. -/
theorem file_of_write {d d' : Disk} {p : Path} {content found : Bytes} {q : Place}
    (h : d.write p content = .ok d') (hq : d'.at? q = some (.file found)) :
    d.at? q = some (.file found) ∨ q = placeOf p ∧ found = content := by
  obtain ⟨place, hlocate, hdirectory, rfl⟩ := write_eq_ok h
  rw [at?_put d (ne_nil_of_at? hdirectory)] at hq
  split at hq
  · rename_i heq
    refine .inr ⟨heq.trans (placeOf_of_locate hlocate).symm, ?_⟩
    simpa using hq.symm
  · exact .inl hq

/-- **Appending to a file is writing it** with what it held before in front. -/
theorem append_eq_ok {d d' : Disk} {p : Path} {content : Bytes} (h : d.append p content = .ok d') :
    ∃ old, d.at? (placeOf p) = some (.file old) ∧ d.write p (old ++ content) = .ok d' := by
  unfold append at h
  cases hread : d.read p with
  | error fault => rw [hread] at h; contradiction
  | ok old =>
    rw [hread] at h
    obtain ⟨q, hlocate, hfile⟩ := read?_eq_some_iff.1 (congrArg Except.toOption hread)
    rw [← placeOf_of_locate hlocate] at hfile
    exact ⟨old, hfile, h⟩

/-- What removing a file comes to. -/
theorem removeFile_eq_ok {d d' : Disk} {p : Path} (h : d.removeFile p = .ok d') :
    ∃ place content, d.locate p = .ok place ∧ d.at? place = some (.file content) ∧
      d' = d.erase place := by
  unfold removeFile at h
  cases hlocate : d.locate p with
  | error fault => rw [hlocate] at h; contradiction
  | ok place =>
    rw [hlocate] at h
    dsimp only [bind, Except.bind] at h
    split at h
    · rename_i content hfile
      exact ⟨place, content, rfl, hfile, (Except.ok.inj h).symm⟩
    · contradiction
    · contradiction

/-- What is left after a file was removed was there before. -/
theorem at?_of_removeFile {d d' : Disk} {p : Path} {q : Place} {e : Entry}
    (h : d.removeFile p = .ok d') (hq : d'.at? q = some e) : d.at? q = some e := by
  obtain ⟨place, -, -, -, rfl⟩ := removeFile_eq_ok h
  unfold at? at hq ⊢
  split
  · rename_i hempty
    rwa [if_pos hempty] at hq
  · rename_i hempty
    rw [if_neg hempty] at hq
    have herase := lookup_filter_key d.entries (fun k => !place.isPrefixOf k) q
    change List.lookup q (d.entries.filter fun e => !place.isPrefixOf e.1) = some e at hq
    rw [herase] at hq
    split at hq
    · exact hq
    · contradiction

end Disk

end ModuleLoader
