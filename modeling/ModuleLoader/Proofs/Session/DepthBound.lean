import Mathlib.Algebra.Order.BigOperators.Group.List
import ModuleLoader.Proofs.Session.Resumption
import ModuleLoader.Proofs.Session.Termination
import ModuleLoader.Proofs.Wire.Weight

/-!
# The depth that a load is given

A load is run with a bound on the number of imports that may be in progress at once
(`Caches.depthBound`), which comes from nothing but the sizes of files and of what is remembered. It
has to be enough: no load is to be given up for it.

It is enough because names take up bytes. A source of so many bytes names no more modules, but for
one, when each of them takes a line or at least a separator; an artifact has at most as many imports
as bytes, whatever it says of itself (`Artifact.length_imports_le`). The bound counts every file
once, and rightly so, as no file can be a source and an artifact. Then there are fewer names than
the bound (`Session.ncard_names_lt`), and with nothing but names to enter no load goes as deep
(`Session.exists_load`).
-/

namespace ModuleLoader

open Load

namespace Setup

variable {setup : Setup} {imports : String → List ModuleName} {disks : Set Disk} {d : Disk}
  {x : ModuleName}

/-- **Names take up bytes**: those that a text names and those that an interface lists. -/
structure Spacious (setup : Setup) (imports : String → List ModuleName) : Prop where
  /-- A text names at most one module more than it has bytes. -/
  text : ∀ text, (imports text).length ≤ text.utf8ByteSize + 1
  /-- An interface has no more imports than it was decoded from bytes. -/
  codec : setup.codec.Compact

open Classical in
/-- The modules that are named by what lies at a place, which is a source or else may be an
artifact. -/
noncomputable def namesAt (setup : Setup) (imports : String → List ModuleName) (e : Place × Entry) :
    List ModuleName :=
  if setup.IsSource e.1 then namesAsSource imports e.2 else setup.namesAsArtifact e.2

/-- Everything that is named on a disk is named at one of its places. -/
theorem NamedOn.exists_mem_namesAt (h : setup.Announces imports disks)
    (hx : setup.NamedOn imports d x) : ∃ e ∈ d.entries, x ∈ setup.namesAt imports e := by
  obtain ⟨e, hmem, ⟨hsource, hx⟩ | ⟨⟨module, hplace⟩, hx⟩⟩ := hx.exists_file
  · exact ⟨e, hmem, by rwa [namesAt, if_pos hsource]⟩
  · exact ⟨e, hmem, by rwa [namesAt, if_neg fun hsource => h.apart hsource hplace]⟩

/-- **A file names no more modules than it has bytes**, and one. -/
theorem Spacious.length_namesAt_le (h : setup.Spacious imports) (e : Place × Entry) :
    (setup.namesAt imports e).length ≤ e.2.size + 1 := by
  obtain ⟨q, entry⟩ := e
  unfold namesAt
  cases entry with
  | directory => split <;> exact Nat.zero_le _
  | file content =>
    split
    · dsimp only [namesAsSource, Entry.size]
      cases htext : Bytes.text? content with
      | none => exact Nat.zero_le _
      | some text =>
        rw [← Bytes.ofText_of_text? htext]
        exact h.text text
    · dsimp only [namesAsArtifact, Entry.size]
      cases hinterface : Artifact.interface? compilerVersion setup.codec content with
      | none => exact Nat.zero_le _
      | some i =>
        have hlisted : (listed i).length = i.imports.length := List.length_map ..
        have := Artifact.length_imports_le h.codec hinterface
        exact hlisted ▸ Nat.le_succ_of_le this

/-- **There are fewer names than the bound on the depth.** -/
theorem Spacious.ncard_named_lt (hspacious : setup.Spacious imports)
    (h : setup.Announces imports disks) (caches : Caches) (d : Disk) :
    { x | setup.Named imports caches d x }.ncard < caches.depthBound d := by
  have hall : ∀ x, setup.Named imports caches d x →
      x ∈ d.entries.flatMap (setup.namesAt imports) ++
        (caches.sources.files.flatMap (fun f => imports f.2.text) ++
          caches.decoded.entries.flatMap fun e => listed e.2) := by
    intro x hx
    rw [List.mem_append, List.mem_append, List.mem_flatMap, List.mem_flatMap, List.mem_flatMap]
    cases hx with
    | onDisk hnamed => exact .inl (hnamed.exists_mem_namesAt h)
    | remembered hget hx => exact .inr (.inl ⟨_, mem_of_lookup hget, hx⟩)
    | @decoded module i _ hget hx =>
      exact .inr (.inr ⟨(module, i), mem_of_lookup hget, mem_listed hx⟩)
  have hlength := ncard_named_le hall
  rw [List.length_append, List.length_append, List.length_flatMap, List.length_flatMap,
    List.length_flatMap] at hlength
  have hfiles : (d.entries.map fun e => (setup.namesAt imports e).length).sum
      ≤ (d.entries.map fun e => e.2.size + 1).sum :=
    List.sum_le_sum fun e _ => hspacious.length_namesAt_le e
  have hsources : (caches.sources.files.map fun f => (imports f.2.text).length).sum
      ≤ (caches.sources.files.map fun f => f.2.text.utf8ByteSize + 1).sum :=
    List.sum_le_sum fun f _ => hspacious.text f.2.text
  have hdecoded : (caches.decoded.entries.map fun e => (listed e.2).length)
      = caches.decoded.entries.map fun e => e.2.imports.length :=
    List.map_congr_left fun e _ => List.length_map ..
  rw [hdecoded] at hlength
  unfold Caches.depthBound
  dsimp only
  omega

end Setup

namespace Session

variable {s : Session} {imports : String → List ModuleName} {disks : Set Disk}

/-- **Every load has an outcome.** With a greater bound on the depth it would be the same. -/
theorem exists_load (h : s.setup.Announces imports disks) (hspacious : s.setup.Spacious imports)
    (hfiled : s.caches.sources.Filed) {world : World} (houtside : world.outside = [])
    (hdisk : world.disk ∈ disks) (module : ModuleName) (mode : CheckMode) :
    ∃ r, s.load module mode world = some r ∧
      ∀ depth, s.caches.depthBound world.disk ≤ depth →
        s.loadWithin depth module mode world = some r := by
  obtain ⟨r, hr⟩ := exists_loadWithin h hfiled houtside hdisk module mode
  have hlt := hspacious.ncard_named_lt h s.caches world.disk
  exact ⟨r, (hr _ hlt).1, fun depth hle => (hr depth (Nat.lt_of_lt_of_le hlt hle)).1⟩

/-- **So has whatever is done in a session**, load after load, as long as nobody leaves the disks
that there may be. What sources come to name between two loads does not matter. -/
theorem exists_perform_load {setup : Setup} (h : setup.Announces imports disks)
    (hspacious : setup.Spacious imports) {actions : List Action}
    (hedits : ∀ change, .edit change ∈ actions → ∀ d ∈ disks, change d ∈ disks)
    (hsetup : s.setup = setup) (hstack : s.stack = ∅) (hfiled : s.caches.sources.Filed)
    {world : World} (houtside : world.outside = []) (hdisk : world.disk ∈ disks) :
    ∃ views, perform load actions s world = some views := by
  induction actions generalizing s world with
  | nil => exact ⟨[], rfl⟩
  | cons action rest ih =>
    have hrest := fun change hmem => hedits change (List.mem_cons_of_mem action hmem)
    cases action with
    | edit change =>
      exact ih hrest hsetup hstack hfiled houtside (hedits change List.mem_cons_self _ hdisk)
    | load module mode =>
      subst hsetup
      obtain ⟨⟨result, s', world'⟩, hload, -⟩ :=
        exists_load h hspacious hfiled houtside hdisk module mode
      obtain ⟨_, _, -, -, -, hsetup', hstack', -⟩ := loadWithin_eq_some hstack hload
      obtain ⟨-, hfiled', houtside', hdisk'⟩ :=
        names_subset_of_load h hfiled hstack houtside hdisk hload
      obtain ⟨views, hviews⟩ := ih hrest hsetup' hstack' hfiled' houtside' hdisk'
      unfold perform
      rw [hload]
      dsimp only [bind, Option.bind_some]
      rw [hviews]
      exact ⟨_, rfl⟩

end Session

namespace Script

/-- Names take up bytes in scripts. -/
theorem spacious_tame (settings : Settings) (roots : List Path) :
    (tameSetup settings roots).Spacious requested where
  text := length_requested_le
  codec := Codec.standard_compact

/-- **Sessions that check tame scripts always have an outcome**, whatever artifacts there are, as
long as texts end with a line. -/
theorem exists_perform_load_tame (settings : Settings) (roots : List Path)
    {actions : List Session.Action} (hedits : ∀ change, .edit change ∈ actions →
      ∀ d ∈ linedDisks (tameSetup settings roots),
        change d ∈ linedDisks (tameSetup settings roots))
    {d : Disk} (hd : d ∈ linedDisks (tameSetup settings roots)) :
    ∃ views, Session.perform Session.load actions (.start (tameSetup settings roots)) (.quiet d)
      = some views := by
  have hfiled : (Session.start (tameSetup settings roots)).caches.sources.Filed := nofun
  exact Session.exists_perform_load (announces_tame settings roots) (spacious_tame settings roots)
    hedits rfl rfl hfiled rfl hd

end Script

end ModuleLoader
