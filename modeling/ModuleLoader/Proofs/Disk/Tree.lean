import Mathlib.Data.List.Induction
import ModuleLoader.Proofs.Artifact.Write

/-!
# Disks that are trees

On a real disk whatever there is lies in a directory. The operations that a loader needs keep it
that way (`Disk.Closed`): directories and files are made in directories that exist, and only files
are removed.

On such a disk a path without a `..` in it arrives at a file just if the file is there, for the
directories on the way are there with it (`Disk.Closed.entry_eq`). So what a path of this kind
reads depends on one place. Writing an artifact changes one place (`ArtifactStore.file_write_iff`),
and every other file reads as before, wherever the directories came from that the write has made.
-/

namespace ModuleLoader

namespace Disk

/-- **Whatever is on the disk lies in a directory.** -/
structure Closed (d : Disk) : Prop where
  /-- A place that holds something lies in a place that holds a directory. -/
  parent {q : Place} {e : Entry} : d.at? q = some e → d.at? q.dropLast = some .directory

/-- A disk is closed if all its entries lie in directories. -/
theorem closed_of_entries {d : Disk}
    (h : ∀ e ∈ d.entries, d.at? e.1.dropLast = some .directory) : d.Closed := by
  refine ⟨fun {q e} hq => ?_⟩
  by_cases hnil : q = []
  · subst hnil
    rfl
  · unfold at? at hq
    rw [if_neg (by simpa using hnil)] at hq
    obtain ⟨before, after, heq, -⟩ := List.lookup_eq_some_iff.1 hq
    exact h (q, e) (heq ▸ List.mem_append_right _ List.mem_cons_self)

/-- What is left when a place is erased with everything below it. -/
theorem at?_erase {d : Disk} {place : Place} (h : place ≠ []) (q : Place) :
    (d.erase place).at? q = if place.isPrefixOf q then none else d.at? q := by
  unfold at?
  by_cases hq : q = []
  · subst hq
    cases place with
    | nil => exact absurd rfl h
    | cons name rest => rfl
  · have hempty : ¬ q.isEmpty = true := by simpa using hq
    rw [if_neg hempty, if_neg hempty]
    refine (lookup_filter_key d.entries (fun k => !place.isPrefixOf k) q).trans ?_
    cases place.isPrefixOf q <;> rfl

namespace Closed

variable {d d' : Disk}

/-- **Every directory on the way to something is there.** -/
theorem directory_of_append (hd : d.Closed) {q rest : Place} {e : Entry} (hrest : rest ≠ [])
    (h : d.at? (q ++ rest) = some e) : d.at? q = some .directory := by
  induction rest using List.reverseRecOn generalizing e with
  | nil => exact absurd rfl hrest
  | append_singleton rest name ih =>
    have hparent := hd.parent h
    rw [← List.append_assoc, List.dropLast_concat] at hparent
    by_cases hnil : rest = []
    · rwa [hnil, List.append_nil] at hparent
    · exact ih hnil hparent

/-- Nothing lies below a file. -/
theorem at?_eq_none_of_below (hd : d.Closed) {place q : Place} {content : Bytes}
    (hfile : d.at? place = some (.file content)) (hbelow : place <+: q) (hne : q ≠ place) :
    d.at? q = none := by
  obtain ⟨rest, rfl⟩ := hbelow
  have hrest : rest ≠ [] := by
    rintro rfl
    exact hne (List.append_nil place)
  cases hat : d.at? (place ++ rest) with
  | none => rfl
  | some e => simp [hd.directory_of_append hrest hat] at hfile

/-- **A path that leads anywhere leads to a place in a directory.** -/
theorem parent_of_walk (hd : d.Closed) {place q : Place} {segments : List String}
    (hplace : d.at? place.dropLast = some .directory) (h : d.walk place segments = .ok q) :
    d.at? q.dropLast = some .directory := by
  induction segments generalizing place with
  | nil => rwa [← Except.ok.inj h]
  | cons segment rest ih =>
    unfold walk at h
    split at h
    · rename_i hdirectory
      split at h
      · refine ih ?_ h
        unfold step
        split
        · exact hplace
        · exact hplace
        · exact hd.parent hplace
        · rwa [List.dropLast_concat]
      · contradiction
    · contradiction
    · contradiction

theorem parent_of_locate (hd : d.Closed) {p : Path} {q : Place} (h : d.locate p = .ok q) :
    d.at? q.dropLast = some .directory := by
  unfold locate at h
  split at h
  · contradiction
  · split at h
    · contradiction
    · exact hd.parent_of_walk rfl h

theorem parent_of_locateTarget (hd : d.Closed) {p : Path} {q : Place}
    (h : d.locateTarget p = .ok q) : d.at? q.dropLast = some .directory := by
  unfold locateTarget at h
  split at h
  · contradiction
  · exact hd.parent_of_locate h

/-! ### What keeps a disk closed -/

/-- Something is put in a directory, in a place where no directory was or that becomes one. -/
theorem put (hd : d.Closed) {place : Place} {entry : Entry}
    (hparent : d.at? place.dropLast = some .directory)
    (h : d.at? place ≠ some .directory) : (d.put place entry).Closed := by
  have hne := ne_nil_of_at? h
  have hkept : ∀ q, d.at? q = some .directory → (d.put place entry).at? q = some .directory := by
    intro q hq
    rw [at?_put d hne, if_neg ?_]
    · exact hq
    · rintro rfl
      exact h hq
  refine ⟨fun {q e} hq => hkept _ ?_⟩
  rw [at?_put d hne] at hq
  split at hq
  · rename_i heq
    rwa [heq]
  · exact hd.parent hq

theorem makeDirectory (hd : d.Closed) {p : Path} (h : d.makeDirectory p = .ok d') :
    d'.Closed := by
  obtain ⟨place, htarget, hnone, rfl⟩ := makeDirectory_eq_ok h
  exact hd.put (hd.parent_of_locateTarget htarget) (by simp [hnone])

theorem ensureDirectory (hd : d.Closed) {p : Path} (h : d.ensureDirectory p = .ok d') :
    d'.Closed := by
  unfold Disk.ensureDirectory at h
  split at h
  · rename_i hmade
    rw [← Except.ok.inj h]
    exact hd.makeDirectory hmade
  · split at h
    · rwa [← Except.ok.inj h]
    · contradiction

theorem ensureLineage (hd : d.Closed) (paths : List Path) : (d.ensureLineage paths).2.Closed := by
  induction paths with
  | nil => exact hd
  | cons p above ih =>
    unfold Disk.ensureLineage
    split
    · exact hd
    · split
      · rename_i hmade
        exact hd.ensureDirectory hmade
      · split
        · rename_i d₁ habove
          rw [habove] at ih
          split
          · rename_i hmade
            exact ih.ensureDirectory hmade
          · exact ih
        · exact ih
      · exact hd

theorem write (hd : d.Closed) {p : Path} {content : Bytes} (h : d.write p content = .ok d') :
    d'.Closed := by
  obtain ⟨place, hlocate, hdirectory, rfl⟩ := write_eq_ok h
  exact hd.put (hd.parent_of_locate hlocate) hdirectory

/-- A file that is removed leaves everything else. -/
theorem removeFile (hd : d.Closed) {p : Path} (h : d.removeFile p = .ok d') :
    d'.Closed ∧ ∀ q, q ≠ placeOf p → d'.at? q = d.at? q := by
  obtain ⟨place, content, hlocate, hfile, rfl⟩ := removeFile_eq_ok h
  have hne : place ≠ [] := ne_nil_of_at? (d := d) (by simp [hfile])
  have hkept : ∀ q, q ≠ place → (d.erase place).at? q = d.at? q := by
    intro q hq
    rw [at?_erase hne]
    split
    · rename_i hbelow
      exact (hd.at?_eq_none_of_below hfile (List.isPrefixOf_iff_prefix.1 hbelow) hq).symm
    · rfl
  rw [placeOf_of_locate hlocate]
  refine ⟨⟨fun {q e} hq => ?_⟩, hkept⟩
  rw [at?_erase hne] at hq
  split at hq
  · contradiction
  · have hparent := hd.parent hq
    rwa [hkept _ fun heq => ?_]
    rw [heq, hfile] at hparent
    simp at hparent

end Closed

/-! ## What a path reads -/

/-- A walk without a `..` in it goes on from where it is. -/
theorem prefix_of_walk {d : Disk} {place q : Place} {segments : List String}
    (hup : ".." ∉ segments) (h : d.walk place segments = .ok q) : place <+: q := by
  induction segments generalizing place with
  | nil =>
    obtain rfl := Except.ok.inj h
    exact List.prefix_refl place
  | cons segment rest ih =>
    unfold walk at h
    split at h
    · split at h
      · refine List.IsPrefix.trans ?_ (ih (fun hrest => hup (List.mem_cons_of_mem _ hrest)) h)
        unfold step
        split
        · exact List.prefix_refl place
        · exact List.prefix_refl place
        · exact absurd List.mem_cons_self hup
        · exact List.prefix_append place _
      · contradiction
    · contradiction
    · contradiction

namespace Closed

variable {d d' : Disk}

/-- A walk to a file arrives on every disk where something is in its place. -/
theorem walk_of_walk (hd' : d'.Closed) {place q : Place} {segments : List String}
    (hup : ".." ∉ segments) (h : d.walk place segments = .ok q) {content : Bytes}
    (hfile : d.at? q = some (.file content)) {e : Entry} (hat : d'.at? q = some e) :
    d'.walk place segments = .ok q := by
  induction segments generalizing place with
  | nil => exact h
  | cons segment rest ih =>
    have hbelow := prefix_of_walk hup h
    unfold Disk.walk at h ⊢
    split at h
    · rename_i hdirectory
      obtain ⟨names, rfl⟩ := hbelow
      have hnames : names ≠ [] := by
        rintro rfl
        rw [List.append_nil, hdirectory] at hfile
        simp at hfile
      rw [hd'.directory_of_append hnames hat]
      dsimp only
      split at h
      · rename_i hfits
        rw [if_pos hfits]
        exact ih (fun hrest => hup (List.mem_cons_of_mem _ hrest)) h
      · contradiction
    · contradiction
    · contradiction

/-- A path that leads to a file leads there on every disk where the file is. -/
theorem entry_of_entry (hd' : d'.Closed) {p : Path} (hup : ".." ∉ p.segments) {content : Bytes}
    (h : d.entry p = .ok (.file content)) (hat : d'.at? (placeOf p) = some (.file content)) :
    d'.entry p = .ok (.file content) := by
  obtain ⟨q, hlocate, hfile⟩ := entry_eq_ok_iff.1 h
  rw [placeOf_of_locate hlocate] at hat
  refine entry_eq_ok_iff.2 ⟨q, ?_, hat⟩
  unfold Disk.locate at hlocate ⊢
  split at hlocate
  · contradiction
  · rename_i husable
    rw [if_neg husable]
    split at hlocate
    · contradiction
    · rename_i hrelative
      rw [if_neg hrelative]
      exact hd'.walk_of_walk hup hlocate hfile hat

/-- **A path without a `..` leads to a file just if the file is there.** -/
theorem entry_file_iff (hd : d.Closed) (hd' : d'.Closed) {p : Path} (hup : ".." ∉ p.segments)
    (hsame : ∀ content, d.at? (placeOf p) = some (.file content) ↔
      d'.at? (placeOf p) = some (.file content)) (content : Bytes) :
    d.entry p = .ok (.file content) ↔ d'.entry p = .ok (.file content) := by
  constructor
  · intro h
    obtain ⟨q, hlocate, hfile⟩ := entry_eq_ok_iff.1 h
    exact hd'.entry_of_entry hup h ((hsame content).1 (placeOf_of_locate hlocate ▸ hfile))
  · intro h
    obtain ⟨q, hlocate, hfile⟩ := entry_eq_ok_iff.1 h
    exact hd.entry_of_entry hup h ((hsame content).2 (placeOf_of_locate hlocate ▸ hfile))

end Closed

/-- There is a file at a path if the path leads to one. -/
theorem isFile_iff {d : Disk} {p : Path} :
    d.isFile p = true ↔ ∃ content, d.entry p = .ok (.file content) := by
  unfold isFile
  split
  · rename_i content hentry
    exact iff_of_true rfl ⟨content, hentry⟩
  · rename_i hnone
    exact iff_of_false nofun fun ⟨content, hentry⟩ => hnone content hentry

/-- Whether there is a file depends on the files only. -/
theorem isFile_eq_of_entry {d d' : Disk} {p : Path}
    (h : ∀ content, d.entry p = .ok (.file content) ↔ d'.entry p = .ok (.file content)) :
    d.isFile p = d'.isFile p :=
  Bool.eq_iff_iff.2 (isFile_iff.trans ((exists_congr h).trans isFile_iff.symm))

/-- A file that gets another content is a file still, and so is every other one. -/
theorem isFile_put {d : Disk} {place : Place} {old content : Bytes}
    (h : d.at? place = some (.file old)) (p : Path) :
    (d.put place (.file content)).isFile p = d.isFile p := by
  have hnot : d.at? place ≠ some .directory := by simp [h]
  have hne := ne_nil_of_at? hnot
  have hback : KeepsDirectories (d.put place (.file content)) d := by
    intro q hq
    rw [at?_put d hne] at hq
    split at hq
    · simp at hq
    · exact hq
  refine Bool.eq_iff_iff.2 (isFile_iff.trans (Iff.trans ⟨?_, ?_⟩ isFile_iff.symm))
  · rintro ⟨found, hentry⟩
    obtain ⟨q, hlocate, hat⟩ := entry_eq_ok_iff.1 hentry
    rw [at?_put d hne] at hat
    split at hat
    · rename_i heq
      exact ⟨old, entry_eq_ok_iff.2 ⟨q, hback.locate hlocate, by rw [heq, h]⟩⟩
    · exact ⟨found, entry_eq_ok_iff.2 ⟨q, hback.locate hlocate, hat⟩⟩
  · rintro ⟨found, hentry⟩
    obtain ⟨q, hlocate, hat⟩ := entry_eq_ok_iff.1 hentry
    have hlocate' := (keepsDirectories_put hnot content).locate hlocate
    by_cases heq : q = place
    · exact ⟨content, entry_eq_ok_iff.2 ⟨q, hlocate', by rw [at?_put d hne, if_pos heq]⟩⟩
    · exact ⟨found, entry_eq_ok_iff.2 ⟨q, hlocate', by rw [at?_put d hne, if_neg heq, hat]⟩⟩

end Disk

/-! ## Writing an artifact -/

namespace ArtifactStore

open Disk

variable {d : Disk}

theorem closed_prepare (hd : d.Closed) (path : Path) : (prepare path d).2.Closed := by
  unfold prepare
  split
  · exact hd
  · exact hd.ensureLineage _

/-- Discarding changes one place. -/
theorem closed_discard (hd : d.Closed) (path : Path) :
    (discard path d).Closed ∧ ∀ q, q ≠ placeOf path → (discard path d).at? q = d.at? q := by
  unfold discard
  split
  · rename_i hremove
    exact hd.removeFile hremove
  · exact ⟨hd, fun _ _ => rfl⟩

/-- Discarding leaves every directory a directory: what is removed is a file. -/
theorem keepsDirectories_discard (hd : d.Closed) (path : Path) :
    KeepsDirectories d (discard path d) := by
  intro q hq
  unfold discard
  split
  · rename_i hremove
    obtain ⟨place, content, hlocate, hfile, -⟩ := removeFile_eq_ok hremove
    rw [(hd.removeFile hremove).2 q, hq]
    rintro rfl
    rw [placeOf_of_locate hlocate, hfile] at hq
    exact absurd (Option.some.inj hq) nofun
  · exact hq

/-- **A write keeps a disk closed**, whether it succeeds or not, **and leaves every file alone but
the one at the place of the artifact.** -/
theorem file_write_iff (s : ArtifactStore) (codec : Codec) (path : Path) (i : Interface)
    (hd : d.Closed) : (s.write codec path i d).2.Closed ∧
      ∀ q, q ≠ placeOf path → ∀ content,
        (s.write codec path i d).2.at? q = some (.file content) ↔
          d.at? q = some (.file content) := by
  have hprepared := closed_prepare hd path
  have hgrows := grows_prepare path d
  have hattempt : (s.attempt codec path i d).2.Closed ∧ ∀ q, q ≠ placeOf path → ∀ content,
      d.at? q = some (.file content) →
      (s.attempt codec path i d).2.at? q = some (.file content) := by
    obtain ⟨e, -, hdisk⟩ | ⟨payload, -, hwrite, -⟩ := s.attempt_cases codec path i d
    · rw [hdisk]
      exact ⟨hprepared, fun q _ content => hgrows.kept⟩
    · refine ⟨hprepared.write hwrite, fun q hq content hfile => ?_⟩
      obtain ⟨place, hlocate, hdirectory, heq⟩ := Disk.write_eq_ok hwrite
      rw [heq, at?_put _ (ne_nil_of_at? hdirectory), if_neg]
      · exact hgrows.kept hfile
      · rwa [← placeOf_of_locate hlocate]
  have hforward : (s.write codec path i d).2.Closed ∧ ∀ q, q ≠ placeOf path → ∀ content,
      d.at? q = some (.file content) → (s.write codec path i d).2.at? q = some (.file content) := by
    unfold write
    split
    · rename_i hresult
      rwa [hresult] at hattempt
    · rename_i d₁ hresult
      rw [hresult] at hattempt
      have hdiscard := closed_discard hattempt.1 path
      refine ⟨hdiscard.1, fun q hq content hfile => ?_⟩
      rw [hdiscard.2 q hq]
      exact hattempt.2 q hq content hfile
  refine ⟨hforward.1, fun q hq content => ⟨fun hfile => ?_, hforward.2 q hq content⟩⟩
  obtain hbefore | ⟨payload, hplace, -⟩ := file_of_write hfile
  · exact hbefore
  · exact absurd hplace hq

end ArtifactStore

end ModuleLoader
