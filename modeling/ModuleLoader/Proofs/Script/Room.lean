import ModuleLoader.Proofs.Artifact.Room
import ModuleLoader.Proofs.Script.Project
import ModuleLoader.Proofs.Session.Provided

/-!
# Projects of scripts that leave room

The season of a project of scripts goes on whatever is put where artifacts may lie, so it says
nothing of whether they can be written. If there is room for them to begin with, there is a season in
which there stays room (`ScriptProject.Roomy.season`), since no artifact is in the way of another
one. In it all that is derived can be written (`ScriptProject.Roomy.writable`): what was sealed has a
binary form, and the binary form is read back.
-/

namespace ModuleLoader

open Disk

/-- **What has been sealed has a binary form**, which is read back. -/
theorem Codec.exists_encode_of_sealed {i j : Interface} (h : i.sealed standard = .ok j) :
    ∃ payload, standard.encode j = .ok payload ∧ standard.decode? payload = some j := by
  obtain ⟨body, hencode, rfl⟩ := Interface.sealed_eq_ok h
  obtain ⟨hfits, -⟩ := standard_encode_eq_ok hencode
  -- The digest that was filled in has the length of any other one.
  have hfits' : ({ i with fullHash := Digest.combine body (i.imports.map (·.2)) } : Interface).fits
      = true := hfits
  exact ⟨_, if_pos hfits', standard_decode?_of_fits hfits'⟩

/-- **A project of scripts with room for its artifacts.** -/
structure ScriptProject.Roomy extends ScriptProject where
  /-- There is room below every root. -/
  room : ∀ module ∈ modules, ∀ f ∈ Finder.candidates roots module,
    disk.Room ((Setup.scripts settings roots).store.interfacePath f.root module)

namespace ScriptProject.Roomy

variable (p : Roomy)

/-- **The disks with the same sources and with room for the artifacts.** -/
def disks : Set Disk :=
  { d | d ∈ p.toScriptProject.disks ∧ ∀ module ∈ p.modules, ∀ f ∈ Finder.candidates p.roots module,
    d.Room (p.setup.store.interfacePath f.root module) }

theorem disk_mem : p.disk ∈ p.disks := ⟨p.toScriptProject.disk_mem, p.room⟩

/-- **The season in which there is room for the artifacts.** -/
def season : Season where
  setup := p.setup
  modules := { module | module ∈ p.modules }
  recipe := Script.recipe
  disks := p.disks
  edition := p.toScriptProject.season.edition
  options_eq := rfl
  finder_eq hmem hd hd' := finder_eq hmem hd.1 hd'.1
  isFile _ _ hfound := (found_mem hfound).2
  text?_eq hmem hd := text?_eq hmem hd.1
  write i hmem hd hfound := by
    refine ⟨p.toScriptProject.season.write i hmem hd.1 hfound, fun module hmodule f hf => ?_⟩
    exact ArtifactStore.room_of_write hd.1.1 (hd.2 _ hmem _ (found_mem hfound).1)
      (hd.2 module hmodule f hf)
  follows path hmem htext := follows path hmem htext
  insists path hmem htext := insists path hmem htext

theorem abiding : p.season.Abiding :=
  fun _ hmem _ htext path mode => p.abides (fun _ h => h) hmem htext path mode

theorem handsOff : p.season.HandsOff :=
  fun _ hmem _ htext path mode => p.abides (fun _ h => h) hmem htext path mode

/-- The artifacts of different modules lie as far apart as without the room. -/
theorem apart_season (h : p.toScriptProject.season.Apart) : p.season.Apart :=
  fun d hd => h d hd.1

/-- **What is derived can be written.** -/
theorem writable : p.season.Writable := by
  intro _ d hd module hmem found hfound entry hderives
  have hroom := hd.2 module hmem found (found_mem hfound).1
  obtain @⟨_, text, known, checked, ledger, i, -, -, -, -, -, -, hsealed⟩ := hderives
  obtain ⟨payload, hencode, hdecode⟩ := Codec.exists_encode_of_sealed hsealed
  obtain ⟨d', hwrite⟩ := ArtifactStore.write_of_room p.setup.readable_store hroom hencode hdecode
  exact ⟨i, d', hwrite⟩

instance : DecidablePred (· ∈ p.season.toolchain.modules) :=
  fun module => inferInstanceAs (Decidable (module ∈ p.modules))

/-- **What lasts while the scripts stay as they are**, if all that is hashed for them can be listed and
has digests of its own. -/
theorem lasts (depth : Nat)
    (hderive : ∀ module ∈ p.modules,
      (p.season.toolchain.derive? p.season.edition depth module).isSome)
    (hinj : ((p.season.toolchain.hashedList p.season.edition depth p.modules).map fun bytes =>
      (Digest.ofBytes bytes, bytes)).Pairwise fun x y => x.1 = y.1 → x.2 = y.2) :
    p.season.toolchain.Lasts {p.season} :=
  .single p.abiding Codec.standard_faithful
    (Digest.injOn_of_list _ (fun _ h => Toolchain.hashed_subset_hashedList (fun _ h => h) hderive h)
      hinj)

end ScriptProject.Roomy

end ModuleLoader
