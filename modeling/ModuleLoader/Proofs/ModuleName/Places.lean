import Mathlib.Data.List.Induction
import Mathlib.Data.List.ModifyLast
import ModuleLoader.Artifact.Store
import ModuleLoader.Finder
import ModuleLoader.Proofs.Disk.Frame
import ModuleLoader.Proofs.Path.Components

/-!
# Names that share files

The fields of a name become directories and a file, one below another. An empty field leaves no trace
in that: it adds a slash where there is one already, or at the end, where the extension goes in its
place. What remains are the fields that are not empty (`ModuleName.names`), and the path is these with
slashes between them, and the extension (`ModuleName.relativePath_eq`).

So two names lead to one file just if they have the same names as fields, in the same order. A name
without empty fields has its source and its artifact for itself.
-/

namespace ModuleLoader

/-! ## Names in a path -/

/-- **A text that is a name in a path**, and still one with something appended. -/
structure IsPlain (text : String) : Prop where
  /-- It is not empty. -/
  ne_empty : text ≠ ""
  /-- It is one segment. -/
  slash : '/' ∉ text.toList
  /-- It does not look like a dot or two. -/
  dot : '.' ∉ text.toList

namespace IsPlain

variable {text : String}

/-- It stands for itself, with something appended, too. -/
theorem component? (h : IsPlain text) (ending : String) :
    Path.component? (text ++ ending) = some (.name (text ++ ending)) := by
  obtain ⟨c, rest, hchars⟩ : ∃ c rest, text.toList = c :: rest :=
    List.exists_cons_of_ne_nil fun hnil => h.ne_empty (String.toList_inj.1 hnil)
  have hc : '.' ≠ c := fun hdot => h.dot (by simp [hchars, ← hdot])
  -- What is taken for something else is empty or begins with a dot.
  have hne : ∀ other : String, other.toList.head? = none ∨ other.toList.head? = some '.' →
      text ++ ending ≠ other := by
    rintro _ hother rfl
    simp [hchars, Ne.symm hc] at hother
  unfold Path.component?
  split
  · rename_i heq
    exact absurd heq (hne _ (by simp))
  · rename_i heq
    exact absurd heq (hne _ (by simp))
  · rename_i heq
    exact absurd heq (hne _ (by simp))
  · rfl

/-- It stands for itself. -/
theorem component?_self (h : IsPlain text) : Path.component? text = some (.name text) := by
  have := h.component? ""
  rwa [String.append_empty] at this

end IsPlain

namespace Path

variable {texts : List String} {p : Path}

/-- The names in a path stand for themselves. -/
theorem filterMap_component? (h : ∀ t ∈ texts, IsPlain t) :
    texts.filterMap component? = texts.map .name := by
  induction texts with
  | nil => rfl
  | cons t rest ih =>
    obtain ⟨ht, hrest⟩ := List.forall_mem_cons.1 h
    rw [List.filterMap_cons, ht.component?_self, ih hrest]
    rfl

/-- Nothing is dropped from names. -/
theorem dropTrailing_of_isPlain (h : ∀ t ∈ texts, IsPlain t) : dropTrailing texts = texts := by
  unfold dropTrailing
  cases hreverse : texts.reverse with
  | nil => rw [List.reverse_eq_nil_iff.1 hreverse]; rfl
  | cons last rest =>
    have hlast : IsPlain last := h last (by rw [← List.mem_reverse, hreverse]; simp)
    have hdot : last ≠ "." := by
      rintro rfl
      exact hlast.dot (by simp)
    rw [List.dropWhile_cons_of_neg (by simp [hlast.ne_empty, hdot]), ← hreverse,
      List.reverse_reverse]

/-- An empty segment after names is dropped. -/
theorem dropTrailing_concat_empty (texts : List String) :
    dropTrailing (texts ++ [""]) = dropTrailing texts := by
  unfold dropTrailing
  rw [List.reverse_append, List.reverse_singleton, List.singleton_append,
    List.dropWhile_cons_of_pos (by decide)]

/-- Names with slashes between them are the segments of that. -/
theorem fields_intercalate_of_isPlain (h : ∀ t ∈ texts, IsPlain t) (hne : texts ≠ []) :
    fields '/' (String.intercalate "/" texts) = texts :=
  fields_intercalate (fun t ht => (h t ht).slash) hne

/-- The last one of them is not empty. -/
theorem fields_intercalate_ne_concat (h : ∀ t ∈ texts, IsPlain t) (hne : texts ≠ [])
    (init : List String) : fields '/' (String.intercalate "/" texts) ≠ init ++ [""] := by
  rw [fields_intercalate_of_isPlain h hne]
  rintro rfl
  exact (h "" (by simp)).ne_empty rfl

/-- So that is not empty, -/
theorem intercalate_ne_empty (h : ∀ t ∈ texts, IsPlain t) (hne : texts ≠ []) :
    String.intercalate "/" texts ≠ "" := by
  intro hempty
  have hlast := fields_intercalate_ne_concat h hne []
  rw [hempty] at hlast
  exact hlast rfl

/-- and there is no slash at the end of it. -/
theorem getLast?_intercalate_ne (h : ∀ t ∈ texts, IsPlain t) (hne : texts ≠ []) :
    (String.intercalate "/" texts).toList.getLast? ≠ some '/' := by
  intro hend
  obtain ⟨init, hinit⟩ := exists_fields_of_getLast? hend
  exact fields_intercalate_ne_concat h hne init hinit

/-- **A path spells some names**: it is empty if there are none, and else it is the names with slashes
between them, and perhaps one at the end. -/
inductive Spells : List String → Path → Prop where
  /-- There are no names. -/
  | empty : Spells [] ⟨""⟩
  /-- There is no slash at the end. -/
  | names {texts : List String} (hne : texts ≠ []) : Spells texts ⟨String.intercalate "/" texts⟩
  /-- There is a slash at the end. -/
  | slash {texts : List String} (hne : texts ≠ []) :
      Spells texts ⟨String.intercalate "/" texts ++ "/"⟩

namespace Spells

/-- The segments of a path that spells names. -/
theorem segments (hp : Spells texts p) (h : ∀ t ∈ texts, IsPlain t) :
    p.segments = texts ∧ texts ≠ [] ∨ p.segments = texts ++ [""] := by
  cases hp with
  | empty => exact .inr rfl
  | names hne => exact .inl ⟨fields_intercalate_of_isPlain h hne, hne⟩
  | slash hne =>
    refine .inr ?_
    rw [segments_append_ending]
    exact congrArg (· ++ [""]) (fields_intercalate_of_isPlain h hne)

/-- After names and a slash a field is spelled, too, unless it is empty. -/
theorem append_field (hne : texts ≠ []) (part : String) :
    Spells (texts ++ [part].filter (· ≠ "")) ⟨String.intercalate "/" texts ++ "/" ++ part⟩ := by
  by_cases hempty : part = ""
  · subst hempty
    simpa using Spells.slash hne
  · have hnames := @Spells.names (texts ++ [part]) (by simp)
    rw [String.intercalate_append_of_ne_nil hne (by simp), String.intercalate_singleton] at hnames
    simpa [hempty] using hnames

/-- **One more field is joined**: it is spelled, too, unless it is empty. -/
theorem join (hp : Spells texts p) (h : ∀ t ∈ texts, IsPlain t) {part : String}
    (hpart : '/' ∉ part.toList) :
    Spells (texts ++ [part].filter (· ≠ "")) (p.join ⟨part⟩) := by
  have hrelative : (⟨part⟩ : Path).isAbsolute = false := isAbsolute_eq_false hpart
  -- After names there is one slash, whether it was there before or not.
  cases hp with
  | empty =>
    rw [join_of_empty rfl]
    by_cases hempty : part = ""
    · subst hempty
      exact .empty
    · simpa [hempty] using @Spells.names [part] (by simp)
  | names hne =>
    rw [join_of_getLast?_ne (p := ⟨String.intercalate "/" texts⟩) (intercalate_ne_empty h hne)
      (getLast?_intercalate_ne h hne) hrelative]
    exact append_field hne part
  | slash hne =>
    rw [join_of_ending _ hrelative]
    exact append_field hne part

end Spells

/-- What an extension adds to a path. -/
def extensionEnding (extension : String) : String :=
  if extension.isEmpty then "" else "." ++ extension

/-- **A path that spells names gets an extension**, and loses what comes after the last one. -/
theorem Spells.withExtension (hp : Spells texts p) (h : ∀ t ∈ texts, IsPlain t) (hne : texts ≠ [])
    (extension : String) :
    p.withExtension extension
      = ⟨String.intercalate "/" texts ++ extensionEnding extension⟩ := by
  obtain ⟨first, rest, rfl⟩ := List.exists_cons_of_ne_nil hne
  have hfirst := h first List.mem_cons_self
  have hdot : first ≠ "." := by
    rintro rfl
    exact hfirst.dot (by simp)
  have hsegments : p.segments = first :: rest ∨ p.segments = first :: rest ++ [""] :=
    (hp.segments h).imp_left And.left
  have hhead : p.segments.head? = some first := by
    obtain hsegments | hsegments := hsegments <;> simp [hsegments]
  have hlead : p.lead = [] := lead_eq_nil hhead hfirst.component?_self
  have hinner : p.segments.filterMap component? = (first :: rest).map .name := by
    obtain hsegments | hsegments := hsegments
    · rw [hsegments, filterMap_component? h]
    · rw [hsegments, List.filterMap_append, filterMap_component? h]
      simp [component?]
  have hlast : p.components.getLast? = some (.name ((first :: rest).getLast hne)) := by
    rw [components_eq, hlead, hinner, List.nil_append, List.getLast?_map,
      List.getLast?_eq_some_getLast hne]
    rfl
  have hanchor : p.anchor = ("", p.segments) := by
    unfold anchor
    obtain hsegments | hsegments := hsegments <;>
      (rw [hsegments]; split <;> simp_all [hfirst.ne_empty])
  have hdrop : dropTrailing p.segments = first :: rest := by
    obtain hsegments | hsegments := hsegments
    · rw [hsegments, dropTrailing_of_isPlain h]
    · rw [hsegments, dropTrailing_concat_empty, dropTrailing_of_isPlain h]
  unfold Path.withExtension extensionEnding
  rw [hlast, hanchor]
  dsimp only
  rw [hdrop]
  unfold ofAnchor
  split <;> simp [String.append_assoc]

end Path

/-! ## The path of a module -/

namespace ModuleName

variable {m n : ModuleName}

/-- **The fields of a name that are not empty.** -/
def names (m : ModuleName) : List String := m.parts.filter (· ≠ "")

/-- Without slashes, they are names in a path. -/
theorem isPlain_of_mem_names (hm : '/' ∉ m.text.toList) : ∀ t ∈ m.names, IsPlain t := by
  intro t ht
  obtain ⟨hpart, hne⟩ := List.mem_filter.1 ht
  exact ⟨by simpa using hne, fun hslash => hm (mem_of_mem_fields hpart hslash),
    notMem_of_mem_fields hpart⟩

/-- The fields of a name, joined one after another, spell its names. -/
theorem spells_names (hm : '/' ∉ m.text.toList) :
    Path.Spells m.names (m.parts.foldl (fun (p : Path) part => p.join ⟨part⟩) ⟨""⟩) := by
  have hparts : ∀ parts : List String, parts ⊆ m.parts →
      Path.Spells (parts.filter (· ≠ "")) (parts.foldl (fun p part => p.join ⟨part⟩) ⟨""⟩) := by
    intro parts
    induction parts using List.reverseRecOn with
    | nil => exact fun _ => .empty
    | append_singleton init part ih =>
      intro hsubset
      obtain ⟨hinit, hpart⟩ := List.append_subset.1 hsubset
      rw [List.filter_append, List.foldl_append]
      refine (ih hinit).join (fun t ht => ?_)
        fun hslash => hm (mem_of_mem_fields (hpart (List.mem_singleton_self part)) hslash)
      obtain ⟨hmem, hne⟩ := List.mem_filter.1 ht
      exact isPlain_of_mem_names hm t (List.mem_filter.2 ⟨hinit hmem, hne⟩)
  exact hparts m.parts fun _ => id

/-- **The path of a module** is its names with slashes between them, and the extension. -/
theorem relativePath_eq (hm : '/' ∉ m.text.toList) (hne : m.names ≠ []) (extension : String) :
    m.relativePath extension
      = ⟨String.intercalate "/" m.names ++ Path.extensionEnding extension⟩ :=
  (spells_names hm).withExtension (isPlain_of_mem_names hm) hne extension

/-- A name with no field that is not empty has an empty path. -/
theorem relativePath_of_names_eq_nil (hm : '/' ∉ m.text.toList) (h : m.names = [])
    (extension : String) : m.relativePath extension = ⟨""⟩ := by
  have hspells := spells_names hm
  unfold relativePath
  rw [h] at hspells
  generalize m.parts.foldl (fun (p : Path) part => p.join ⟨part⟩) ⟨""⟩ = p at hspells ⊢
  cases hspells with
  | empty => rfl
  | names hne => exact absurd rfl hne
  | slash hne => exact absurd rfl hne

/-- **What the path of a module is made of**: its names, the last one with the extension. -/
def fileNames (m : ModuleName) (extension : String) : List String :=
  m.names.modifyLast (· ++ Path.extensionEnding extension)

/-- Two modules have the same file names just if they have the same names. -/
theorem fileNames_inj {extension : String} :
    m.fileNames extension = n.fileNames extension ↔ m.names = n.names := by
  unfold fileNames
  obtain hm | ⟨init, last, hm⟩ := List.eq_nil_or_concat m.names <;>
    obtain hn | ⟨init', last', hn⟩ := List.eq_nil_or_concat n.names
  · exact iff_of_true (by rw [hm, hn]) (hm.trans hn.symm)
  · rw [hm, hn, List.concat_eq_append, List.modifyLast_concat]
    simp [List.modifyLast, List.modifyLast.go]
  · rw [hm, hn, List.concat_eq_append, List.modifyLast_concat]
    simp [List.modifyLast, List.modifyLast.go]
  · rw [hm, hn, List.concat_eq_append, List.concat_eq_append, List.modifyLast_concat,
      List.modifyLast_concat]
    simp

/-- **The components of the path of a module** are its file names, with nothing before them. -/
theorem components_relativePath (hm : '/' ∉ m.text.toList) {extension : String}
    (hextension : '/' ∉ extension.toList) :
    (m.relativePath extension).lead = [] ∧
      (m.relativePath extension).components = (m.fileNames extension).map .name := by
  unfold fileNames
  obtain hnil | ⟨init, last, hnames⟩ := List.eq_nil_or_concat m.names
  · rw [relativePath_of_names_eq_nil hm hnil, hnil]
    exact ⟨rfl, rfl⟩
  rw [List.concat_eq_append] at hnames
  have hplain := isPlain_of_mem_names hm
  rw [hnames] at hplain
  have hinit : ∀ t ∈ init, IsPlain t := fun t ht => hplain t (List.mem_append_left _ ht)
  have hlast : IsPlain last := hplain last (by simp)
  have hending : '/' ∉ (Path.extensionEnding extension).toList := by
    unfold Path.extensionEnding
    split <;> simp [hextension]
  have hsegments : (m.relativePath extension).segments
      = init ++ [last ++ Path.extensionEnding extension] := by
    rw [relativePath_eq hm (by simp [hnames]), hnames]
    exact fields_append_of_notMem (Path.fields_intercalate_of_isPlain hplain (by simp)) hending
  have hlead : (m.relativePath extension).lead = [] := by
    cases init with
    | nil => exact Path.lead_eq_nil (by rw [hsegments]; rfl) (hlast.component? _)
    | cons first rest =>
      have hfirst := hinit first List.mem_cons_self
      exact Path.lead_eq_nil (by rw [hsegments]; rfl) hfirst.component?_self
  refine ⟨hlead, ?_⟩
  rw [Path.components_eq, hlead, hsegments, hnames, List.modifyLast_concat, List.filterMap_append,
    Path.filterMap_component? hinit, List.map_append]
  simp [hlast.component?]

/-- **Two modules have one path just if they have the same names.** -/
theorem same_relativePath_iff (hm : '/' ∉ m.text.toList) (hn : '/' ∉ n.text.toList)
    {extension : String} (hextension : '/' ∉ extension.toList) :
    (m.relativePath extension).Same (n.relativePath extension) ↔ m.names = n.names := by
  unfold Path.Same
  rw [(components_relativePath hm hextension).2, (components_relativePath hn hextension).2,
    List.map_inj_right fun _ _ => Path.Component.name.inj, fileNames_inj]

/-- So it is below any other path. -/
theorem same_join_relativePath_iff (p : Path) (hm : '/' ∉ m.text.toList)
    (hn : '/' ∉ n.text.toList) {extension : String} (hextension : '/' ∉ extension.toList) :
    (p.join (m.relativePath extension)).Same (p.join (n.relativePath extension)) ↔
      m.names = n.names :=
  (Path.same_join_iff p (components_relativePath hm hextension).1
    (components_relativePath hn hextension).1).trans (same_relativePath_iff hm hn hextension)

/-- **The place of the file of a module** is below that of the path which its own is joined onto. -/
theorem placeOf_join_relativePath (p : Path) (hm : '/' ∉ m.text.toList) {extension : String}
    (hextension : '/' ∉ extension.toList) :
    Disk.placeOf (p.join (m.relativePath extension)) = Disk.placeOf p ++ m.fileNames extension := by
  have hnames : ∀ (texts : List String) (q : Place),
      (texts.map Path.Component.name).foldl Disk.stepComponent q = q ++ texts := by
    intro texts
    induction texts with
    | nil => simp
    | cons t rest ih =>
      intro q
      show (rest.map Path.Component.name).foldl Disk.stepComponent (q ++ [t]) = _
      rw [ih, List.append_assoc]
      rfl
  obtain ⟨hlead, hcomponents⟩ := components_relativePath hm hextension
  rw [Disk.placeOf_eq, Path.components_join p hlead, List.foldl_append, ← Disk.placeOf_eq,
    hcomponents, hnames]

/-- A name without empty fields is known by its names. -/
theorem eq_of_names_eq (hm : "" ∉ m.parts) (hn : "" ∉ n.parts) (h : m.names = n.names) : m = n := by
  have hall : ∀ {k : ModuleName}, "" ∉ k.parts → k.names = k.parts := by
    intro k hk
    refine List.filter_eq_self.2 fun part hpart => ?_
    have hne : part ≠ "" := by
      rintro rfl
      exact hk hpart
    simpa using hne
  have hparts : m.parts = n.parts := (hall hm).symm.trans (h.trans (hall hn))
  have htext : m.text = n.text := eq_of_fields_eq hparts
  exact congrArg ModuleName.mk htext

/-- **Which modules share files.** Let two names hold no slashes. With any extension that holds none
either, their paths are the same just if the fields of the two that are not empty are the same, and so
are the paths of their sources and artifacts below one include root, whatever the root and the
directory of artifacts. Two different names without empty fields share neither a source nor an
artifact, and on every disk these are in different places. -/
theorem share_files_iff {m n : ModuleName} (hm : '/' ∉ m.text.toList) (hn : '/' ∉ n.text.toList)
    {extension : String} (hextension : '/' ∉ extension.toList) (root : Path)
    (store : ArtifactStore) :
    ((m.relativePath extension).Same (n.relativePath extension) ↔
      m.parts.filter (· ≠ "") = n.parts.filter (· ≠ "")) ∧
    ((root.join (m.relativePath extension)).Same (root.join (n.relativePath extension)) ↔
      m.parts.filter (· ≠ "") = n.parts.filter (· ≠ "")) ∧
    ((store.interfacePath root m).Same (store.interfacePath root n) ↔
      m.parts.filter (· ≠ "") = n.parts.filter (· ≠ "")) ∧
    ("" ∉ m.parts → "" ∉ n.parts → m ≠ n →
      Disk.placeOf (root.join (m.relativePath Finder.sourceExtension))
          ≠ Disk.placeOf (root.join (n.relativePath Finder.sourceExtension)) ∧
        Disk.placeOf (store.interfacePath root m) ≠ Disk.placeOf (store.interfacePath root n)) := by
  have hsource : '/' ∉ Finder.sourceExtension.toList := by decide
  have hartifact : '/' ∉ Artifact.extension.toList := by decide
  refine ⟨same_relativePath_iff hm hn hextension, same_join_relativePath_iff root hm hn hextension,
    same_join_relativePath_iff _ hm hn hartifact, fun hm' hn' hne => ?_⟩
  have hnames : m.names ≠ n.names := fun h => hne (eq_of_names_eq hm' hn' h)
  have hplace : ∀ (p : Path) {extension : String}, '/' ∉ extension.toList →
      Disk.placeOf (p.join (m.relativePath extension))
        ≠ Disk.placeOf (p.join (n.relativePath extension)) := by
    intro p extension hextension
    rw [placeOf_join_relativePath p hm hextension, placeOf_join_relativePath p hn hextension]
    exact fun h => hnames (fileNames_inj.1 (List.append_cancel_left h))
  exact ⟨hplace root hsource, hplace (root.join ⟨store.directory⟩) hartifact⟩

/-- Dots at the ends of a name and dots in a row make no difference to its file. A dot between two
fields does. -/
theorem share_files_iff_doubled :
    (⟨".Data..Größe."⟩ : ModuleName) ≠ ⟨"Data.Größe"⟩ ∧
    ((⟨".Data..Größe."⟩ : ModuleName).relativePath "lm").Same
      ((⟨"Data.Größe"⟩ : ModuleName).relativePath "lm") ∧
    ¬ ((⟨"DataGröße"⟩ : ModuleName).relativePath "lm").Same
      ((⟨"Data.Größe"⟩ : ModuleName).relativePath "lm") ∧
    Disk.placeOf ((⟨"p"⟩ : Path).join ((⟨"DataGröße"⟩ : ModuleName).relativePath "lm"))
      ≠ Disk.placeOf ((⟨"p"⟩ : Path).join ((⟨"Data.Größe"⟩ : ModuleName).relativePath "lm")) := by
  have hdoubled : '/' ∉ (⟨".Data..Größe."⟩ : ModuleName).text.toList := by decide +kernel
  have hjoined : '/' ∉ (⟨"DataGröße"⟩ : ModuleName).text.toList := by decide +kernel
  have hsplit : '/' ∉ (⟨"Data.Größe"⟩ : ModuleName).text.toList := by decide +kernel
  have hextension : '/' ∉ "lm".toList := by decide
  have hshared := share_files_iff hdoubled hsplit hextension ⟨"p"⟩ ⟨"_build", "0.1.0"⟩
  have hapart := share_files_iff hjoined hsplit hextension ⟨"p"⟩ ⟨"_build", "0.1.0"⟩
  refine ⟨by decide, hshared.1.2 (by decide +kernel), fun h => ?_,
    (hapart.2.2.2 (by decide +kernel) (by decide +kernel) (by decide)).1⟩
  exact absurd (hapart.1.1 h) (by decide +kernel)

end ModuleName

end ModuleLoader
