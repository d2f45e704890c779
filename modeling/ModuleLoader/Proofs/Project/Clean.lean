import Mathlib.Data.List.Pairwise
import ModuleLoader.Proofs.Project.Derivation

/-!
# Deriving as a computation

A derivation can be computed: a recipe is carried out with what is derived for its imports, to some
depth (`Toolchain.derive?`). What is computed is derived, and since at most one entry is derived for
a module, it is what is derived (`Toolchain.eq_of_derive?`).

For a project with finitely many modules this also makes a list of everything that is hashed for an
edition (`Toolchain.hashedList`), and so of the digests that must differ from one another.
-/

namespace ModuleLoader

/-- A recipe carried out with what is known of each module: the result, and the ledger then. -/
def Recipe.come? {α : Type} (compatibility : Compatibility)
    (known? : ModuleName → Option VisitedEntry) : Recipe α → Ledger → Option (α × Ledger)
  | .done result, ledger => some (result, ledger)
  | .fail, _ => none
  | .bring imported next, ledger =>
    (known? imported).bind fun entry =>
      (next entry.interface).come? compatibility known?
        (ledger.addImport compatibility imported entry)
  | .see next, ledger => (next ledger.options).come? compatibility known? ledger
  | .setOptions options rest, ledger => rest.come? compatibility known? { ledger with options }
  | .warn warning rest, ledger =>
    rest.come? compatibility known? { ledger with warnings := ledger.warnings ++ [warning] }

/-- **A recipe comes to what carrying it out gives.** -/
theorem Recipe.comes_of_come? {α : Type} {compatibility : Compatibility}
    {known? : ModuleName → Option VisitedEntry} {recipe : Recipe α} {ledger ledger' : Ledger}
    {result : α} (h : recipe.come? compatibility known? ledger = some (result, ledger')) :
    recipe.Comes compatibility (fun x e => known? x = some e) ledger result ledger' := by
  induction recipe generalizing ledger with
  | done =>
    obtain ⟨rfl, rfl⟩ := Prod.mk.inj (Option.some.inj h)
    exact .done _ _
  | fail => contradiction
  | bring imported next ih =>
    obtain ⟨entry, hknown, hrest⟩ := Option.bind_eq_some_iff.1 h
    exact .bring hknown (ih _ hrest)
  | see next ih => exact .see (ih _ h)
  | setOptions options rest ih => exact .setOptions (ih h)
  | warn warning rest ih => exact .warn (ih h)

/-- **What was hashed has digests of its own** if that can be seen from a list that holds all of
it. -/
theorem Digest.injOn_of_list {hashed : Set Bytes} (list : List Bytes)
    (hlist : ∀ bytes ∈ hashed, bytes ∈ list)
    (hinj : (list.map fun bytes => (Digest.ofBytes bytes, bytes)).Pairwise fun x y =>
      x.1 = y.1 → x.2 = y.2) :
    Set.InjOn Digest.ofBytes hashed := by
  intro a ha b hb heq
  have hsymm : Std.Symm fun x y : Bytes => Digest.ofBytes x = Digest.ofBytes y → x = y :=
    ⟨fun x y h heq => (h heq.symm).symm⟩
  exact (List.pairwise_map.1 hinj).forall_of_forall (fun x _ _ => rfl) (hlist a ha) (hlist b hb) heq

namespace Toolchain

variable (t : Toolchain) [DecidablePred (· ∈ t.modules)]

/-- **The entry that is derived for a module**, if its imports lead no deeper than a bound. -/
def derive? (edition : Edition) : (depth : Nat) → ModuleName → Option VisitedEntry
  | 0, _ => none
  | depth + 1, module => do
    let text ← edition.text? module
    let (checked, ledger) ← (t.recipe module text).come? t.compatibility
      (fun x => (derive? edition depth x).filter VisitedEntry.importable) (.start edition.options)
    if module ∈ t.modules ∧ checked.name = module then
      let i ← ((interfaceOf edition text checked ledger).sealed t.codec).toOption
      some ⟨i, i.hasWarnings, t.isPrimitive module⟩
    else none

variable {t} {edition : Edition}

/-- **What is computed is derived.** -/
theorem derives_of_derive? {depth : Nat} {module : ModuleName} {entry : VisitedEntry}
    (h : t.derive? edition depth module = some entry) : t.Derives edition module entry := by
  induction depth generalizing module entry with
  | zero => contradiction
  | succ depth ih =>
    obtain ⟨text, htext, h⟩ := Option.bind_eq_some_iff.1 h
    obtain ⟨⟨checked, ledger⟩, hcome, h⟩ := Option.bind_eq_some_iff.1 h
    dsimp only at h
    split at h
    · rename_i hmodule
      obtain ⟨i, hsealed, h⟩ := Option.bind_eq_some_iff.1 h
      rw [← Option.some.inj h]
      refine .intro hmodule.1 htext (fun x e he => ?_) (fun x e he => ?_)
        (Recipe.comes_of_come? hcome) hmodule.2 ?_
      · exact ih (Option.filter_eq_some_iff.1 he).1
      · exact (Option.filter_eq_some_iff.1 he).2
      · cases hseal : (interfaceOf edition text checked ledger).sealed t.codec with
        | error e => rw [hseal] at hsealed; contradiction
        | ok j =>
          rw [hseal] at hsealed
          rw [show j = i from Option.some.inj hsealed]
    · contradiction

/-- What is computed is all that is derived. -/
theorem eq_of_derive? {depth : Nat} {module : ModuleName} {entry entry' : VisitedEntry}
    (h : t.derive? edition depth module = some entry) (h' : t.Derives edition module entry') :
    entry' = entry := h'.unique (derives_of_derive? h)

/-- What can be computed of an entry holds of the one that is derived. -/
theorem exists_derives_of_map_derive? {α : Type} {f : VisitedEntry → α} {a : α} {depth : Nat}
    {module : ModuleName} (h : (t.derive? edition depth module).map f = some a) :
    ∃ entry, t.Derives edition module entry ∧ f entry = a := by
  obtain ⟨entry, hderive, rfl⟩ := Option.map_eq_some_iff.1 h
  exact ⟨entry, derives_of_derive? hderive, rfl⟩

/-- **The bytes that are hashed for an edition** of the given modules: base options, source texts
and interfaces. -/
def hashedList (t : Toolchain) [DecidablePred (· ∈ t.modules)] (edition : Edition) (depth : Nat)
    (modules : List ModuleName) : List Bytes :=
  edition.options.bytes ::
    (modules.filterMap fun module => (edition.text? module).map Bytes.ofText) ++
    modules.filterMap fun module => (t.derive? edition depth module).bind fun entry =>
      (entry.interface.sealBytes t.codec).toOption

/-- The list holds everything that is hashed if it is deep enough for all modules of the project. -/
theorem hashed_subset_hashedList {depth : Nat} {modules : List ModuleName}
    (hall : ∀ module ∈ t.modules, module ∈ modules)
    (hderive : ∀ module ∈ modules, (t.derive? edition depth module).isSome) {bytes : Bytes}
    (h : bytes ∈ t.Hashed edition) : bytes ∈ t.hashedList edition depth modules := by
  unfold hashedList
  obtain rfl | ⟨module, hmem, text, htext, rfl⟩ | ⟨module, entry, hderives, hbytes⟩ := h
  · exact List.mem_append_left _ List.mem_cons_self
  · refine List.mem_append_left _ (List.mem_cons_of_mem _ ?_)
    exact List.mem_filterMap.2 ⟨module, hall module hmem, by rw [htext]; rfl⟩
  · refine List.mem_append_right _ ?_
    have hmem := hall module hderives.mem
    obtain ⟨entry', hentry'⟩ := Option.isSome_iff_exists.1 (hderive module hmem)
    refine List.mem_filterMap.2 ⟨module, hmem, ?_⟩
    rw [hentry', ← eq_of_derive? hentry' hderives]
    show (entry.interface.sealBytes t.codec).toOption = some bytes
    rw [hbytes]
    rfl

/-- What was hashed for some editions has digests of its own if that can be seen from their lists. -/
theorem collisionFree_of_hashedList {editions : Set Edition} (list : List Edition) (depth : Nat)
    (modules : List ModuleName) (hlist : ∀ edition ∈ editions, edition ∈ list)
    (hall : ∀ module ∈ t.modules, module ∈ modules)
    (hderive : ∀ edition ∈ list, ∀ module ∈ modules, (t.derive? edition depth module).isSome)
    (hinj : ((list.flatMap fun edition => t.hashedList edition depth modules).map fun bytes =>
      (Digest.ofBytes bytes, bytes)).Pairwise fun x y => x.1 = y.1 → x.2 = y.2) :
    t.CollisionFree editions := by
  refine Digest.injOn_of_list _ ?_ hinj
  rintro bytes ⟨edition, hedition, hbytes⟩
  exact List.mem_flatMap.2 ⟨edition, hlist edition hedition,
    hashed_subset_hashedList hall (hderive edition (hlist edition hedition)) hbytes⟩

end Toolchain

end ModuleLoader
