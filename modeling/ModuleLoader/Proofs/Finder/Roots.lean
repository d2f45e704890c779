import Mathlib.Data.List.Induction
import Mathlib.Data.List.Perm.Subperm
import Mathlib.Logic.ExistsUnique
import ModuleLoader.Finder
import ModuleLoader.Proofs.ModuleName.Places
import ModuleLoader.Proofs.Path.Spelling

/-!
# Each root is searched once

A module must not be found twice because a directory is listed twice. So an include root that has
the path of an earlier one is left out, however either of them is spelled
(`Settings.distinctPaths`): of all entries that mean one path the first one counts
(`Settings.mem_distinctPaths_iff`), and one more of them changes nothing as long as it is not the
first (`Settings.distinctPaths_repeated`).

The roots that remain are different paths, and what lies below different roots at the place of a
module is different, too, whatever the shape of the roots (`Path.join_same_join_iff`). So a module
that is reported as ambiguous has several sources, and it has one just if it is found
(`Finder.searchesEachOnce`).

Which paths are files is left open here. A disk gives one answer to that (`Finder.ofSettings_eq`),
but nothing depends on it, so this holds also of paths that a disk here never has, such as absolute
ones.
-/

namespace ModuleLoader

/-! ## Paths without repetition -/

namespace Settings

variable {paths front : List Path} {p : Path}

/-- One more path is kept unless it spells one that is kept already. -/
theorem distinctPaths_concat (paths : List Path) (p : Path) :
    distinctPaths (paths ++ [p])
      = if ∃ q ∈ distinctPaths paths, q.Same p then distinctPaths paths
        else distinctPaths paths ++ [p] := by
  simp [distinctPaths]

/-- **Every path is kept in some spelling.** -/
theorem exists_same_of_mem (h : p ∈ paths) : ∃ q ∈ distinctPaths paths, q.Same p := by
  induction paths using List.reverseRecOn with
  | nil => contradiction
  | append_singleton init last ih =>
    rw [distinctPaths_concat]
    split
    · rename_i hkept
      obtain h | h := List.mem_append.1 h
      · exact ih h
      · rwa [List.mem_singleton.1 h]
    · obtain h | h := List.mem_append.1 h
      · obtain ⟨q, hq, hsame⟩ := ih h
        exact ⟨q, List.mem_append_left _ hq, hsame⟩
      · exact ⟨last, by simp, by rw [List.mem_singleton.1 h]; rfl⟩

/-- Paths are kept in their order. -/
theorem distinctPaths_sublist (paths : List Path) : (distinctPaths paths).Sublist paths := by
  induction paths using List.reverseRecOn with
  | nil => exact List.Sublist.refl _
  | append_singleton init last ih =>
    rw [distinctPaths_concat]
    split
    · exact ih.trans (List.sublist_append_left init [last])
    · exact ih.append (List.Sublist.refl [last])

/-- **No path is kept in two spellings.** -/
theorem pairwise_distinctPaths (paths : List Path) :
    (distinctPaths paths).Pairwise fun p q => ¬ p.Same q := by
  induction paths using List.reverseRecOn with
  | nil => exact .nil
  | append_singleton init last ih =>
    rw [distinctPaths_concat]
    split
    · exact ih
    · rename_i hnew
      refine List.pairwise_append.2 ⟨ih, List.pairwise_singleton _ _, fun q hq p hp => ?_⟩
      rw [List.mem_singleton.1 hp]
      exact fun hsame => hnew ⟨q, hq, hsame⟩

/-- What is kept stays when there is one path more. -/
theorem mem_distinctPaths_concat (h : p ∈ distinctPaths paths) (last : Path) :
    p ∈ distinctPaths (paths ++ [last]) := by
  rw [distinctPaths_concat]
  split
  · exact h
  · exact List.mem_append_left _ h

/-- **Of all spellings of a path the first one is kept.** -/
theorem mem_distinctPaths_iff :
    p ∈ distinctPaths paths ↔
      ∃ before after, paths = before ++ p :: after ∧ ∀ q ∈ before, ¬ q.Same p := by
  induction paths using List.reverseRecOn with
  | nil => simp [distinctPaths]
  | append_singleton init last ih =>
    constructor
    · intro h
      have hold : p ∈ distinctPaths init → ∃ before after,
          init ++ [last] = before ++ p :: after ∧ ∀ q ∈ before, ¬ q.Same p := by
        intro hinit
        obtain ⟨before, after, rfl, hfirst⟩ := ih.1 hinit
        exact ⟨before, after ++ [last], by simp, hfirst⟩
      rw [distinctPaths_concat] at h
      split at h
      · exact hold h
      · rename_i hnew
        obtain h | h := List.mem_append.1 h
        · exact hold h
        · obtain rfl := List.mem_singleton.1 h
          refine ⟨init, [], rfl, fun q hq hsame => ?_⟩
          obtain ⟨kept, hkept, hkeptq⟩ := exists_same_of_mem hq
          exact hnew ⟨kept, hkept, hkeptq.trans hsame⟩
    · rintro ⟨before, after, hsplit, hfirst⟩
      obtain rfl | ⟨rest, x, rfl⟩ := List.eq_nil_or_concat after
      · obtain ⟨rfl, hlast⟩ := List.append_inj' hsplit rfl
        obtain rfl := List.singleton_inj.1 hlast
        have hnew : ¬ ∃ q ∈ distinctPaths init, q.Same last := fun ⟨q, hq, hsame⟩ =>
          hfirst q ((distinctPaths_sublist init).subset hq) hsame
        rw [distinctPaths_concat, if_neg hnew]
        exact List.mem_append_right _ (List.mem_singleton_self last)
      · rw [List.concat_eq_append, ← List.cons_append, ← List.append_assoc] at hsplit
        obtain ⟨hinit, -⟩ := List.append_inj' hsplit rfl
        exact mem_distinctPaths_concat (ih.2 ⟨before, rest, hinit, hfirst⟩) last

/-- **A path that an earlier one spells changes nothing.** -/
theorem distinctPaths_repeated {again : Path} (back : List Path) (hp : p ∈ front)
    (hsame : again.Same p) :
    distinctPaths (front ++ again :: back) = distinctPaths (front ++ back) := by
  obtain ⟨q, hq, hqp⟩ := exists_same_of_mem hp
  have hkept : distinctPaths (front ++ [again]) = distinctPaths front := by
    rw [distinctPaths_concat, if_pos ⟨q, hq, hqp.trans hsame.symm⟩]
  have hfold := hkept
  unfold distinctPaths at hfold ⊢
  rw [List.append_cons, List.foldl_append, hfold, List.foldl_append]

/-- The roots of a project are different paths. -/
theorem pairwise_includeRoots (s : Settings) (directory : Path) :
    (s.includeRoots directory).Pairwise fun p q => ¬ p.Same q :=
  pairwise_distinctPaths _

/-- The same settings with another include list. -/
def withIncludes (s : Settings) (entries : List String) : Settings :=
  { s with project := { s.project with includes := entries } }

/-- **An entry that an earlier one spells changes no root.** -/
theorem includeRoots_repeated (s : Settings) (directory : Path) {front back : List String}
    {entry again : String} (hentries : s.project.includes = front ++ back) (hentry : entry ∈ front)
    (hsame : (includeRoot directory again).Same (includeRoot directory entry)) :
    (s.withIncludes (front ++ again :: back)).includeRoots directory
      = s.includeRoots directory := by
  unfold includeRoots withIncludes
  rw [hentries, List.map_append, List.map_append, List.map_cons]
  exact distinctPaths_repeated _ (List.mem_map_of_mem hentry) hsame

end Settings

/-! ## Searching -/

namespace Finder

variable {isFile : Path → Bool} {roots : List Path} {module : ModuleName}

/-- Where the source of a module is below a root, if it is there. -/
def sourceBelow (module : ModuleName) (root : Path) : Path :=
  root.join (module.relativePath sourceExtension)

/-- **Finds a module below a list of roots**, where a test tells which paths are files. -/
def search (isFile : Path → Bool) (roots : List Path) (module : ModuleName) :
    Except LoadError FoundModule :=
  match (candidates roots module).filter fun f => isFile f.source with
  | [] => .error (.moduleNotFound module roots)
  | [found] => .ok found
  | several => .error (.ambiguousModule module (several.map FoundModule.source))

/-- **Finds a module below the include roots of a project**, where a test tells which paths are
files. -/
def searchProject (isFile : Path → Bool) (settings : Settings) (directory : Path)
    (module : ModuleName) : Except LoadError FoundModule :=
  search isFile (settings.includeRoots directory) module

/-- A disk is one such test. -/
theorem ofSettings_eq (settings : Settings) (directory : Path) (module : ModuleName) (disk : Disk) :
    ofSettings settings directory module disk
      = searchProject disk.isFile settings directory module := rfl

/-- The roots below which there is a source. -/
def holding (isFile : Path → Bool) (roots : List Path) (module : ModuleName) : List Path :=
  roots.filter fun root => isFile (sourceBelow module root)

/-- **The outcome is that of the roots with a source.** -/
theorem search_eq (isFile : Path → Bool) (roots : List Path) (module : ModuleName) :
    search isFile roots module =
      match holding isFile roots module with
      | [] => .error (.moduleNotFound module roots)
      | [root] => .ok ⟨root, sourceBelow module root⟩
      | several => .error (.ambiguousModule module (several.map (sourceBelow module))) := by
  have hhits : ((candidates roots module).filter fun f => isFile f.source)
      = (holding isFile roots module).map fun root => ⟨root, sourceBelow module root⟩ := by
    simp only [candidates, holding, sourceBelow, List.filter_map, Function.comp_def]
  unfold search
  rw [hhits]
  cases holding isFile roots module with
  | nil => rfl
  | cons first rest =>
    cases rest with
    | nil => rfl
    | cons second rest => simp only [List.map_cons, List.map_map, Function.comp_def]

/-- What there is a source below. -/
theorem mem_holding {root : Path} :
    root ∈ holding isFile roots module ↔
      root ∈ roots ∧ isFile (sourceBelow module root) = true :=
  List.mem_filter

/-- The sources below these roots are the files among the places where one may be. -/
theorem map_holding :
    (holding isFile roots module).map (sourceBelow module)
      = (roots.map (sourceBelow module)).filter isFile := by
  simp only [holding, List.filter_map, Function.comp_def]

/-- **A module is found below the only root with a source.** -/
theorem search_eq_ok_iff {found : FoundModule} :
    search isFile roots module = .ok found ↔
      ∃ root, holding isFile roots module = [root] ∧ found = ⟨root, sourceBelow module root⟩ := by
  rw [search_eq]
  cases holding isFile roots module with
  | nil => simp
  | cons first rest =>
    cases rest with
    | nil => simp [eq_comm]
    | cons second rest => simp

/-- **A module is ambiguous if several roots have a source**, and these sources are listed. -/
theorem search_eq_ambiguous_iff {named : ModuleName} {paths : List Path} :
    search isFile roots module = .error (.ambiguousModule named paths) ↔
      named = module ∧ paths = (holding isFile roots module).map (sourceBelow module) ∧
        2 ≤ (holding isFile roots module).length := by
  rw [search_eq]
  cases holding isFile roots module with
  | nil => simp
  | cons first rest =>
    cases rest with
    | nil => simp
    | cons second rest => simp [eq_comm]

/-- Of different roots one has a source if there is just one with a source. -/
theorem exists_holding_eq_iff (hroots : roots.Pairwise fun p q => ¬ p.Same q) :
    (∃ root, holding isFile roots module = [root]) ↔
      ∃! root, root ∈ roots ∧ isFile (sourceBelow module root) = true := by
  simp only [← mem_holding]
  constructor
  · rintro ⟨root, hroot⟩
    refine ⟨root, by simp [hroot], fun other hother => ?_⟩
    rw [hroot] at hother
    exact List.mem_singleton.1 hother
  · rintro ⟨root, hroot, hunique⟩
    have hnodup : (holding isFile roots module).Nodup := by
      refine (hroots.filter _).imp fun hdifferent heq => hdifferent ?_
      rw [heq]
      rfl
    have hmem : ∀ other, other ∈ holding isFile roots module ↔ other ∈ [root] := by
      intro other
      rw [List.mem_singleton]
      refine ⟨hunique other, ?_⟩
      rintro rfl
      exact hroot
    have hperm := (List.perm_ext_iff_of_nodup hnodup (by simp)).2 hmem
    exact ⟨root, List.perm_singleton.1 hperm⟩

/-- Of different roots two have a source if there are several with a source. -/
theorem two_le_length_holding_iff (hroots : roots.Pairwise fun p q => ¬ p.Same q) :
    2 ≤ (holding isFile roots module).length ↔
      ∃ p ∈ roots, ∃ q ∈ roots, ¬ p.Same q ∧ isFile (sourceBelow module p) = true ∧
        isFile (sourceBelow module q) = true := by
  have hpairwise : (holding isFile roots module).Pairwise fun p q => ¬ p.Same q := hroots.filter _
  constructor
  · intro hlength
    cases hholding : holding isFile roots module with
    | nil => simp [hholding] at hlength
    | cons first rest =>
      cases rest with
      | nil => simp [hholding] at hlength
      | cons second rest =>
        have hmem : first ∈ holding isFile roots module ∧ second ∈ holding isFile roots module := by
          simp [hholding]
        have hfirst := mem_holding.1 hmem.1
        have hsecond := mem_holding.1 hmem.2
        rw [hholding] at hpairwise
        exact ⟨first, hfirst.1, second, hsecond.1,
          List.rel_of_pairwise_cons hpairwise List.mem_cons_self, hfirst.2, hsecond.2⟩
  · rintro ⟨p, hp, q, hq, hdifferent, hfile, hfile'⟩
    have hne : p ≠ q := by
      rintro rfl
      exact hdifferent rfl
    have hsubset : [p, q] ⊆ holding isFile roots module := by
      simp [mem_holding, hp, hq, hfile, hfile']
    exact (List.Nodup.subperm (by simp [hne]) hsubset).length_le

/-- **The sources of different roots are different paths.** -/
theorem pairwise_sourceBelow (hmodule : '/' ∉ module.text.toList)
    (hroots : roots.Pairwise fun p q => ¬ p.Same q) :
    (roots.map (sourceBelow module)).Pairwise fun p q => ¬ p.Same q := by
  have hextension : '/' ∉ sourceExtension.toList := by decide
  have hlead := (ModuleName.components_relativePath hmodule hextension).1
  exact List.pairwise_map.2 (hroots.imp fun hne => (Path.join_same_join_iff hlead).not.2 hne)

/-! ## The laws -/

/-- **Each root is searched once**: what this means for finding a module in a project. -/
structure SearchesEachOnce (isFile : Path → Bool) (settings : Settings) (directory : Path)
    (module : ModuleName) : Prop where
  /-- If a disk tells which paths are files, the search is how modules are found on it. -/
  onDisk : ∀ disk : Disk, disk.isFile = isFile →
    ofSettings settings directory module disk = searchProject isFile settings directory module
  /-- Of the entries of the include list that mean one path the first one says what the root is. -/
  mem_roots : ∀ root, root ∈ settings.includeRoots directory ↔
    ∃ before after, settings.project.includes.map (Settings.includeRoot directory)
        = before ++ root :: after ∧ ∀ other ∈ before, ¬ other.Same root
  /-- The roots are in the order of their entries. -/
  ordered : (settings.includeRoots directory).Sublist
    (settings.project.includes.map (Settings.includeRoot directory))
  /-- Entries mean one path if it is spelled in different ways: with repeated slashes, slashes at
  the end or dots in between. -/
  spelled : ∀ p q : Path, p.Same q ↔ p.Respelled q
  /-- One more entry that means the path of an earlier one makes no difference. -/
  repeated : ∀ front back entry again, settings.project.includes = front ++ back → entry ∈ front →
    (Settings.includeRoot directory again).Same (Settings.includeRoot directory entry) →
      searchProject isFile (settings.withIncludes (front ++ again :: back)) directory module
        = searchProject isFile settings directory module
  /-- A module is found just if there is one root with a source. -/
  found : (∃ found, searchProject isFile settings directory module = .ok found) ↔
    ∃! root, root ∈ settings.includeRoots directory ∧ isFile (sourceBelow module root) = true
  /-- It is found below that root. -/
  placed : ∀ found, searchProject isFile settings directory module = .ok found →
    found.root ∈ settings.includeRoots directory ∧ found.source = sourceBelow module found.root ∧
      isFile found.source = true
  /-- It is ambiguous just if there are two roots, different as paths, with a source. -/
  ambiguous : (∃ named paths,
      searchProject isFile settings directory module = .error (.ambiguousModule named paths)) ↔
    ∃ p ∈ settings.includeRoots directory, ∃ q ∈ settings.includeRoots directory, ¬ p.Same q ∧
      isFile (sourceBelow module p) = true ∧ isFile (sourceBelow module q) = true
  /-- Then its sources are listed: in the order of the roots, all of them and no other path, and
  different as paths. -/
  listed : ∀ named paths,
    searchProject isFile settings directory module = .error (.ambiguousModule named paths) →
      named = module ∧
        paths = ((settings.includeRoots directory).map (sourceBelow module)).filter isFile ∧
        paths.Pairwise fun p q => ¬ p.Same q

/-- **Each root is searched once**, in every project and whatever the files are. -/
theorem searchesEachOnce {module : ModuleName} (hmodule : '/' ∉ module.text.toList)
    (isFile : Path → Bool) (settings : Settings) (directory : Path) :
    SearchesEachOnce isFile settings directory module where
  onDisk disk hdisk := by
    rw [ofSettings_eq, hdisk]
  mem_roots _ := Settings.mem_distinctPaths_iff
  ordered := Settings.distinctPaths_sublist _
  spelled _ _ := Path.same_iff_respelled
  repeated front back entry again hentries hentry hsame := by
    unfold searchProject
    rw [settings.includeRoots_repeated directory hentries hentry hsame]
  found := by
    rw [← exists_holding_eq_iff (settings.pairwise_includeRoots directory)]
    simp [searchProject, search_eq_ok_iff]
  placed found hfound := by
    obtain ⟨root, hroot, rfl⟩ := search_eq_ok_iff.1 hfound
    obtain ⟨hmem, hfile⟩ := mem_holding.1 (hroot ▸ List.mem_singleton_self root)
    simp [hmem, hfile]
  ambiguous := by
    rw [← two_le_length_holding_iff (settings.pairwise_includeRoots directory)]
    simp [searchProject, search_eq_ambiguous_iff]
  listed named paths hambiguous := by
    obtain ⟨hnamed, hpaths, -⟩ := search_eq_ambiguous_iff.1 hambiguous
    refine ⟨hnamed, hpaths.trans map_holding, ?_⟩
    rw [hpaths]
    exact pairwise_sourceBelow hmodule ((settings.pairwise_includeRoots directory).filter _)

/-- A directory that is listed again in another spelling does not make its modules ambiguous. -/
theorem searchesEachOnce_respelled :
    '/' ∉ (⟨"Data.List"⟩ : ModuleName).text.toList ∧
    (Settings.includeRoot ⟨"/proj"⟩ ".//src/./").Same (Settings.includeRoot ⟨"/proj"⟩ "src") ∧
    searchProject (· = ⟨"/proj/src/Data/List.lm"⟩)
        { project := { includes := ["src", "/std", ".//src/./"] } } ⟨"/proj"⟩ ⟨"Data.List"⟩
      = searchProject (· = ⟨"/proj/src/Data/List.lm"⟩)
        { project := { includes := ["src", "/std"] } } ⟨"/proj"⟩ ⟨"Data.List"⟩ ∧
    ∃ found, searchProject (· = ⟨"/proj/src/Data/List.lm"⟩)
      { project := { includes := ["src", "/std"] } } ⟨"/proj"⟩ ⟨"Data.List"⟩ = .ok found := by
  have hmodule : '/' ∉ (⟨"Data.List"⟩ : ModuleName).text.toList := by decide +kernel
  have hsame : (Settings.includeRoot ⟨"/proj"⟩ ".//src/./").Same
      (Settings.includeRoot ⟨"/proj"⟩ "src") := by decide +kernel
  have hlaws := searchesEachOnce hmodule (· = ⟨"/proj/src/Data/List.lm"⟩)
    { project := { includes := ["src", "/std"] } } ⟨"/proj"⟩
  refine ⟨hmodule, hsame, ?_, hlaws.found.2 ?_⟩
  · exact hlaws.repeated ["src", "/std"] [] "src" ".//src/./" rfl (by simp) hsame
  · have hroots : ({ project := { includes := ["src", "/std"] } } : Settings).includeRoots ⟨"/proj"⟩
        = [⟨"/proj/src"⟩, ⟨"/std"⟩] := by decide +kernel
    rw [hroots]
    refine ⟨⟨"/proj/src"⟩, by decide +kernel, fun other hother => ?_⟩
    obtain ⟨hmem, hfile⟩ := hother
    obtain rfl | hstd := List.mem_cons.1 hmem
    · rfl
    · rw [List.mem_singleton.1 hstd] at hfile
      exact absurd hfile (by decide +kernel)

end Finder

end ModuleLoader
