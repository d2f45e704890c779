import Mathlib.Data.List.Basic
import ModuleLoader.Load.Resolve
import ModuleLoader.Proofs.Artifact.Write
import ModuleLoader.Proofs.Disk.Tree
import ModuleLoader.Proofs.Path.Components

/-!
# The places of artifacts

The path of an artifact is put together from texts that may be anything: an include root, the
directory of the store and the name of a module, which may hold slashes, or nothing but dots. Not
every such path ends with the extension. One that does not names no file, however: it is empty or
ends in a slash (`ArtifactStore.interfacePath_cases`), and there is nothing that could be written or
removed under it.

A module has its artifact below the include root that the module is found under (`Setup.Lies`). So
what the loader writes or removes lies at the place that this path leads to, and the name of that
place ends with the extension (`Setup.IsPlace`), whatever the module is called. Which root this is
depends on the disk, and may be said of certain disks (`Setup.LiesOn`, `Setup.IsPlaceOn`).
-/

namespace ModuleLoader

namespace Path

/-- A path that could name a file: it is not empty and does not end in a slash. -/
def NamesFile (p : Path) : Prop := p.text ≠ "" ∧ p.endsInSlash = false

/-- **A path without dots that could name a file ends with a name.** -/
theorem exists_getLast?_components {p : Path} (hdots : '.' ∉ p.text.toList) (h : p.NamesFile) :
    ∃ name, p.components.getLast? = some (.name name) := by
  obtain ⟨hne, hslash⟩ := h
  have hchars : p.text.toList ≠ [] := fun hnil => hne (String.toList_inj.1 hnil)
  obtain ⟨front, c, hsplit⟩ : ∃ front c, p.text.toList = front ++ [c] :=
    ⟨_, _, (List.dropLast_concat_getLast hchars).symm⟩
  have hc : c ≠ '/' := by
    rintro rfl
    unfold endsInSlash at hslash
    rw [hsplit, List.getLast?_concat] at hslash
    exact absurd hslash (by decide)
  have hdot : c ≠ '.' := by
    rintro rfl
    exact hdots (hsplit ▸ List.mem_append_right _ (List.mem_singleton_self _))
  have htext : p.text = String.ofList front ++ String.ofList [c] := by
    rw [← String.ofList_append, ← hsplit, String.ofList_toList]
  have hback : '/' ∉ (String.ofList [c]).toList := by simpa using Ne.symm hc
  obtain ⟨init, last, hsegments⟩ := exists_fields_append (String.ofList front) hback
  rw [← htext] at hsegments
  refine ⟨_, getLast?_components hsegments ?_⟩
  have hlast : ∀ text : String, text.toList.getLast? ≠ some c →
      last ++ String.ofList [c] ≠ text := by
    rintro _ htext rfl
    exact htext (by simp)
  unfold component?
  split
  · rename_i heq
    exact absurd heq (hlast _ (by simp))
  · rename_i heq
    exact absurd heq (hlast _ (by simpa using Ne.symm hdot))
  · rename_i heq
    exact absurd heq (hlast _ (by simpa using Ne.symm hdot))
  · rfl

/-- **A path that an extension is put on ends with it**, or it could not name a file; unless there
were dots in it. -/
theorem withExtension_cases {p : Path} (hdots : '.' ∉ p.text.toList) {extension : String}
    (hextension : extension ≠ "") :
    (∃ bare, (p.withExtension extension).text = bare ++ ("." ++ extension)) ∨
      ¬ (p.withExtension extension).NamesFile := by
  unfold withExtension
  split
  · left
    dsimp only
    rw [if_neg (by simpa using hextension)]
    exact ⟨_, String.append_assoc⟩
  · rename_i hnone
    refine .inr fun hfile => ?_
    obtain ⟨name, hname⟩ := exists_getLast?_components hdots hfile
    exact hnone name hname

/-- Joining paths without dots makes no dots. -/
theorem notMem_join {p q : Path} (hp : '.' ∉ p.text.toList) (hq : '.' ∉ q.text.toList) :
    '.' ∉ (p.join q).text.toList := by
  unfold join
  split
  · exact hq
  · split <;> simp [hp, hq]

/-- A path that is joined onto another one is the end of the text. -/
theorem exists_join_text (p q : Path) : ∃ before, (p.join q).text = before ++ q.text := by
  unfold join
  split
  · exact ⟨"", by simp⟩
  · split
    · exact ⟨p.text, rfl⟩
    · exact ⟨p.text ++ "/", rfl⟩

/-- What could not name a file does not do so after another path. -/
theorem NamesFile.of_join {p q : Path} (h : (p.join q).NamesFile) : q.NamesFile := by
  obtain ⟨hne, hslash⟩ := h
  have hlast : q.text.toList ≠ [] → (p.join q).endsInSlash = q.endsInSlash := by
    intro hq
    obtain ⟨before, hjoin⟩ := exists_join_text p q
    unfold endsInSlash
    rw [hjoin, String.toList_append, List.getLast?_append_of_ne_nil _ hq]
  have hempty : q.text ≠ "" := by
    intro hq
    unfold join at hne hslash
    have hrelative : ¬ q.isAbsolute = true := by
      unfold isAbsolute
      rw [hq]
      decide
    rw [if_neg hrelative, hq] at hne hslash
    split at hne
    · rename_i hend
      rw [if_pos hend] at hslash
      obtain hnil | hslash' := Bool.or_eq_true_iff.1 hend
      · exact hne (by simpa using hnil)
      · unfold endsInSlash at hslash
        simp [hslash'] at hslash
    · rename_i hend
      rw [if_neg hend] at hslash
      unfold endsInSlash at hslash
      simp at hslash
  refine ⟨hempty, ?_⟩
  rw [← hlast fun hnil => hempty (String.toList_inj.1 hnil)]
  exact hslash

end Path

/-- **The file of a module ends with the extension**, or its path could not name a file. -/
theorem ModuleName.relativePath_cases (m : ModuleName) {extension : String}
    (hextension : extension ≠ "") :
    (∃ bare, (m.relativePath extension).text = bare ++ ("." ++ extension)) ∨
      ¬ (m.relativePath extension).NamesFile := by
  have hplace : ∀ (parts : List String) (p : Path), (∀ part ∈ parts, '.' ∉ part.toList) →
      '.' ∉ p.text.toList →
      '.' ∉ (parts.foldl (fun (p : Path) part => p.join ⟨part⟩) p).text.toList := by
    intro parts
    induction parts with
    | nil => exact fun p _ hp => hp
    | cons part rest ih =>
      intro p hparts hp
      obtain ⟨hpart, hrest⟩ := List.forall_mem_cons.1 hparts
      exact ih _ hrest (Path.notMem_join hp hpart)
  have hparts : ∀ part ∈ m.parts, '.' ∉ part.toList := fun part hpart => notMem_of_mem_fields hpart
  have hdots := hplace m.parts ⟨""⟩ hparts (by simp)
  unfold relativePath
  exact Path.withExtension_cases hdots hextension

/-- So does a path below another one that ends with the file of a module. -/
theorem ModuleName.join_relativePath_cases (m : ModuleName) (p : Path) {extension : String}
    (hextension : extension ≠ "") :
    (∃ bare, (p.join (m.relativePath extension)).text = bare ++ ("." ++ extension)) ∨
      ¬ (p.join (m.relativePath extension)).NamesFile := by
  obtain ⟨bare, hbare⟩ | hnone := m.relativePath_cases hextension
  · obtain ⟨before, hbefore⟩ := Path.exists_join_text p (m.relativePath extension)
    refine .inl ⟨before ++ bare, ?_⟩
    rw [hbefore, hbare, String.append_assoc]
  · exact .inr fun hfile => hnone hfile.of_join

namespace Disk

/-- A walk whose last step stays ends in a directory. -/
theorem directory_of_walk_concat {d : Disk} {place q : Place} {segments : List String}
    (h : d.walk place (segments ++ [""]) = .ok q) : d.at? q = some .directory := by
  induction segments generalizing place with
  | nil =>
    rw [List.nil_append] at h
    unfold walk at h
    split at h
    · rename_i hdirectory
      split at h
      · have hq : place = q := Except.ok.inj h
        rwa [← hq]
      · contradiction
    · contradiction
    · contradiction
  | cons segment rest ih =>
    rw [List.cons_append] at h
    unfold walk at h
    split at h
    · split at h
      · exact ih h
      · contradiction
    · contradiction
    · contradiction

/-- **What could not name a file leads to none.** -/
theorem namesFile_of_file {d : Disk} {p : Path} {place : Place} {content : Bytes}
    (hlocate : d.locate p = .ok place) (hfile : d.at? place = some (.file content)) :
    p.NamesFile := by
  unfold locate at hlocate
  split at hlocate
  · contradiction
  · split at hlocate
    · contradiction
    · rename_i hrelative
      refine ⟨fun hempty => hrelative (by simp [hempty]), ?_⟩
      cases hslash : p.endsInSlash with
      | false => rfl
      | true =>
        have hend : p.text.toList.getLast? = some '/' := by simpa [Path.endsInSlash] using hslash
        obtain ⟨init, hinit⟩ := exists_fields_of_getLast? hend
        rw [show p.segments = init ++ [""] from hinit] at hlocate
        rw [directory_of_walk_concat hlocate] at hfile
        exact absurd hfile nofun

/-- What is written names a file. -/
theorem namesFile_of_write {d d' : Disk} {p : Path} {content : Bytes}
    (h : d.write p content = .ok d') : p.NamesFile := by
  have hread := read?_of_write h
  obtain ⟨place, hlocate, hfile⟩ := read?_eq_some_iff.1 hread
  exact namesFile_of_file hlocate hfile

/-- What is removed names a file. -/
theorem namesFile_of_removeFile {d d' : Disk} {p : Path} (h : d.removeFile p = .ok d') :
    p.NamesFile := by
  obtain ⟨place, content, hlocate, hfile, -⟩ := removeFile_eq_ok h
  exact namesFile_of_file hlocate hfile

/-- **A path that ends with some text leads to a place that does**, if there is nothing in the text
that would divide it and a name that ends with it is a name. -/
theorem exists_placeOf {p : Path} {bare ending : String} (h : p.text = bare ++ ending)
    (hslash : '/' ∉ ending.toList) (hending : 2 < ending.length) :
    ∃ above name, placeOf p = above ++ [name ++ ending] := by
  obtain ⟨init, last, hsegments⟩ := exists_fields_append bare hslash
  rw [← h] at hsegments
  refine ⟨init.foldl step [], last, ?_⟩
  unfold placeOf
  rw [show p.segments = init ++ [last ++ ending] from hsegments, List.foldl_append,
    List.foldl_cons, List.foldl_nil, step_eq]
  have hlong : ∀ text : String, text.length ≤ 2 → last ++ ending ≠ text := by
    rintro _ htext rfl
    rw [String.length_append] at htext
    omega
  have hname : Path.component? (last ++ ending) = some (.name (last ++ ending)) := by
    unfold Path.component?
    split
    · rename_i heq
      exact absurd heq (hlong _ (by decide))
    · rename_i heq
      exact absurd heq (hlong _ (by decide))
    · rename_i heq
      exact absurd heq (hlong _ (by decide))
    · rfl
  rw [hname]
  rfl

end Disk

namespace ArtifactStore

/-- **The path of an artifact ends with the extension**, or it could not name a file. -/
theorem interfacePath_cases (s : ArtifactStore) (root : Path) (module : ModuleName) :
    (∃ bare, (s.interfacePath root module).text = bare ++ ("." ++ Artifact.extension)) ∨
      ¬ (s.interfacePath root module).NamesFile := by
  have hextension : Artifact.extension ≠ "" := by decide
  exact module.join_relativePath_cases (root.join ⟨s.directory⟩) hextension

/-! ## What becomes of files -/

variable {s : ArtifactStore} {codec : Codec} {path : Path} {i : Interface} {d : Disk}

/-- What was written can be discarded. -/
theorem at?_discard_of_write {d₁ : Disk} {content : Bytes} (h : d.write path content = .ok d₁) :
    (discard path d₁).at? (Disk.placeOf path) = none := by
  obtain ⟨place, hlocate, hdirectory, rfl⟩ := Disk.write_eq_ok h
  have hne := Disk.ne_nil_of_at? hdirectory
  have hlocate' := (Disk.keepsDirectories_put hdirectory content).locate hlocate
  have hremove : (d.put place (.file content)).removeFile path
      = .ok ((d.put place (.file content)).erase place) := by
    unfold Disk.removeFile
    rw [hlocate']
    dsimp only [bind, Except.bind]
    rw [Disk.at?_put d hne, if_pos rfl]
    rfl
  unfold discard
  rw [hremove, Disk.placeOf_of_locate hlocate]
  dsimp only
  rw [Disk.at?_erase hne, if_pos (List.isPrefixOf_iff_prefix.2 (List.prefix_refl place))]

/-- **A write that fails leaves no new file.** -/
theorem file_of_write_error {e : CacheError} {d' : Disk}
    (h : s.write codec path i d = (.error e, d')) {q : Place} {content : Bytes}
    (hq : d'.at? q = some (.file content)) : d.at? q = some (.file content) := by
  have hgrows := grows_prepare path d
  obtain ⟨j, -, heq⟩ | ⟨e', -, heq⟩ := s.write_cases codec path i d
  · exact absurd (congrArg Prod.fst (heq.symm.trans h)) nofun
  · obtain ⟨-, rfl⟩ := Prod.mk.inj (heq.symm.trans h)
    obtain ⟨_, -, hdisk⟩ | ⟨payload, -, hwrite, -⟩ := s.attempt_cases codec path i d
    · rw [hdisk] at hq
      exact hgrows.file (at?_of_discard hq)
    · obtain hbefore | ⟨rfl, -⟩ := Disk.file_of_write hwrite (at?_of_discard hq)
      · exact hgrows.file hbefore
      · rw [at?_discard_of_write hwrite] at hq
        cases hq

/-- **A write that succeeds leaves the interface at its place**: the file that is there
reads as it. -/
theorem at?_of_write_ok (hs : s.Readable) (hcodec : codec.Faithful) {j : Interface} {d' : Disk}
    (h : s.write codec path i d = (.ok j, d')) : ∃ content,
      d'.at? (Disk.placeOf path) = some (.file content) ∧
        Artifact.interface? s.compilerVersion codec content = some i := by
  obtain rfl := eq_of_write hs hcodec h
  obtain ⟨_, _, -, -, -, hread⟩ := write_eq_ok h
  obtain ⟨content, hfile, hinterface⟩ := Option.bind_eq_some_iff.1 hread
  obtain ⟨place, hlocate, hat⟩ := Disk.read?_eq_some_iff.1 hfile
  rw [← Disk.placeOf_of_locate hlocate] at hat
  exact ⟨content, hat, hinterface⟩

/-- A write that succeeds names a file. -/
theorem namesFile_of_write_ok {j : Interface} {d' : Disk}
    (h : s.write codec path i d = (.ok j, d')) : path.NamesFile := by
  obtain ⟨_, _, -, -, hwrite, -⟩ := write_eq_ok h
  exact Disk.namesFile_of_write hwrite

/-- **A write under a path that could not name a file changes no file.** -/
theorem file_write_iff_or_namesFile (s : ArtifactStore) (codec : Codec) (path : Path)
    (i : Interface) (d : Disk) :
    (∀ q content, (s.write codec path i d).2.at? q = some (.file content) ↔
      d.at? q = some (.file content)) ∨ path.NamesFile := by
  have hgrows := grows_prepare path d
  obtain ⟨e, hresult, hdisk⟩ | ⟨payload, -, hwrite, -⟩ := s.attempt_cases codec path i d
  · obtain ⟨j, hok, -⟩ | ⟨e', -, heq⟩ := s.write_cases codec path i d
    · rw [hresult] at hok
      cases hok
    · rw [heq, hdisk]
      dsimp only
      unfold discard
      split
      · rename_i hremove
        exact .inr (Disk.namesFile_of_removeFile hremove)
      · exact .inl fun q content => ⟨hgrows.file, hgrows.kept⟩
  · exact .inr (Disk.namesFile_of_write hwrite)

end ArtifactStore

/-! ## The artifact of a module -/

namespace Setup

/-- **The artifact of a module lies at a path**: below the include root that the module is found
under on some disk. -/
def Lies (setup : Setup) (module : ModuleName) (path : Path) : Prop :=
  ∃ d found, setup.finder module d = .ok found ∧
    path = setup.store.interfacePath found.root module

/-- **A place of the artifact of a module**: the one that a path names at which the artifact lies,
and its name ends with the extension of artifacts. -/
def IsPlace (setup : Setup) (module : ModuleName) (q : Place) : Prop :=
  (∃ path, setup.Lies module path ∧ q = Disk.placeOf path) ∧
    ∃ above name, q = above ++ [name ++ ("." ++ Artifact.extension)]

/-- **The artifact of a module lies at a path on one of some disks**: below the include root that the
module is found under there. -/
def LiesOn (setup : Setup) (disks : List Disk) (module : ModuleName) (path : Path) : Prop :=
  ∃ d ∈ disks, ∃ found, setup.finder module d = .ok found ∧
    path = setup.store.interfacePath found.root module

/-- **A place of the artifact of a module on some disks**: one that a path names at which the artifact
lies on one of them, with a name that ends with the extension of artifacts. -/
def IsPlaceOn (setup : Setup) (disks : List Disk) (module : ModuleName) (q : Place) : Prop :=
  (∃ path, setup.LiesOn disks module path ∧ q = Disk.placeOf path) ∧
    ∃ above name, q = above ++ [name ++ ("." ++ Artifact.extension)]

variable {setup : Setup} {module : ModuleName} {path : Path} {i : Interface} {d : Disk} {q : Place}
  {disks disks' : List Disk}

/-- What lies at a path on one of some disks lies there. -/
theorem LiesOn.lies (h : setup.LiesOn disks module path) : setup.Lies module path := by
  obtain ⟨d, -, hfound⟩ := h
  exact ⟨d, hfound⟩

theorem LiesOn.mono (hdisks : disks ⊆ disks') (h : setup.LiesOn disks module path) :
    setup.LiesOn disks' module path := by
  obtain ⟨d, hmem, hfound⟩ := h
  exact ⟨d, hdisks hmem, hfound⟩

/-- A place of an artifact on some disks is one of it. -/
theorem IsPlaceOn.isPlace (h : setup.IsPlaceOn disks module q) : setup.IsPlace module q := by
  obtain ⟨⟨path, hlies, heq⟩, hname⟩ := h
  exact ⟨⟨path, hlies.lies, heq⟩, hname⟩

/-- **The place of an artifact has a name with the extension**, whatever the module is called. -/
theorem Lies.exists_placeOf (h : setup.Lies module path) (hnames : path.NamesFile) :
    ∃ above name, Disk.placeOf path = above ++ [name ++ ("." ++ Artifact.extension)] := by
  obtain ⟨_, found, -, hpath⟩ := h
  obtain ⟨bare, hbare⟩ | hnone := setup.store.interfacePath_cases found.root module
  · rw [← hpath] at hbare
    exact Disk.exists_placeOf hbare (by decide) (by decide)
  · rw [← hpath] at hnone
    exact absurd hnames hnone

/-- **What lies at the path of an artifact lies at a place of it.** -/
theorem Lies.isPlace (h : setup.Lies module path) (hnames : path.NamesFile) :
    setup.IsPlace module (Disk.placeOf path) :=
  ⟨⟨path, h, rfl⟩, h.exists_placeOf hnames⟩

theorem LiesOn.isPlaceOn (h : setup.LiesOn disks module path) (hnames : path.NamesFile) :
    setup.IsPlaceOn disks module (Disk.placeOf path) :=
  ⟨⟨path, h, rfl⟩, h.lies.exists_placeOf hnames⟩

/-- **A place whose name ends like that of a source holds no artifact.** -/
theorem not_isPlace_of_source {above : Place} {name : String} :
    ¬ setup.IsPlace module (above ++ [name ++ ("." ++ Finder.sourceExtension)]) := by
  rintro ⟨-, above', name', heq⟩
  have hlast := congrArg List.getLast? heq
  rw [List.getLast?_concat, List.getLast?_concat] at hlast
  have hchars := congrArg (fun text : String => text.toList.getLast?) (Option.some.inj hlast)
  simp [Artifact.extension, Finder.sourceExtension] at hchars

/-- **After a write, a file that is in no place of the artifact was there before.** -/
theorem Lies.file_of_write (h : setup.Lies module path) (hq : ¬ setup.IsPlace module q)
    {content : Bytes}
    (hfile : (setup.store.write setup.codec path i d).2.at? q = some (.file content)) :
    d.at? q = some (.file content) := by
  obtain hsame | hnames := setup.store.file_write_iff_or_namesFile setup.codec path i d
  · exact (hsame q content).1 hfile
  · obtain hbefore | ⟨_, heq, -⟩ := ArtifactStore.file_of_write hfile
    · exact hbefore
    · exact absurd (heq ▸ h.isPlace hnames) hq

end Setup

end ModuleLoader
