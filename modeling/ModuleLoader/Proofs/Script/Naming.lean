import ModuleLoader.Proofs.Load.Names
import ModuleLoader.Proofs.Script.Project
import ModuleLoader.Proofs.Text.Fields

/-!
# What scripts name

A script names the modules that it imports or tries to import. Its check may also change files, and
what that comes to depends on the file: the line that touching adds to a source is a comment, if it
is a line of its own. So as long as all texts end with a line and artifacts are not touched, scripts
name nothing new by what they do to files (`Script.announces_tame`), and they may touch each other
and delete whatever they like.
-/

namespace ModuleLoader

open Script

namespace Script

/-! ## Lines -/

/-- **Touching a script whose last line has an end adds no directive.** -/
theorem directives_touched (front : String) :
    directives (front ++ "\n" ++ touchMark) = directives (front ++ "\n") := by
  have hline : "\n" = String.singleton '\n' := by decide
  have hmark : (fields '\n' touchMark).filterMap Directive.ofLine? = [] := by decide
  have hempty : (fields '\n' "").filterMap Directive.ofLine? = [] := by decide
  have hend := fields_append_separator '\n' front ""
  rw [String.append_empty, ← hline] at hend
  unfold directives
  rw [hend, hline, fields_append_separator, List.filterMap_append, List.filterMap_append, hmark,
    hempty]

/-- The modules that a script imports or tries to import. -/
def requested (text : String) : List ModuleName :=
  (directives text).filterMap fun
    | .bring imported | .tryBring imported => some imported
    | _ => none

theorem mem_requested {text : String} {x : ModuleName}
    (h : .bring x ∈ directives text ∨ .tryBring x ∈ directives text) : x ∈ requested text := by
  obtain h | h := h
  · exact List.mem_filterMap.2 ⟨_, h, rfl⟩
  · exact List.mem_filterMap.2 ⟨_, h, rfl⟩

/-- **A script names a module with one of its lines**, so it names no more than one more than it has
bytes. -/
theorem length_requested_le (text : String) :
    (requested text).length ≤ text.utf8ByteSize + 1 :=
  calc (requested text).length ≤ (directives text).length := List.length_filterMap_le _ _
    _ ≤ (fields '\n' text).length := List.length_filterMap_le _ _
    _ ≤ text.utf8ByteSize + 1 := length_fields_le '\n' text

/-- **Touching names no more modules.** -/
theorem requested_touched (front : String) :
    requested (front ++ "\n" ++ touchMark) = requested (front ++ "\n") := by
  unfold requested
  rw [directives_touched]

/-! ## Checks that touch sources -/

/-- Whether a directive leaves artifacts alone, or deletes them. -/
def Directive.isTame : Directive → Bool
  | .touch path => ("." ++ Finder.sourceExtension).toList.isSuffixOf path.text.toList
  | _ => true

/-- **A tame script** touches no artifact. -/
def Tame (text : String) : Prop := ∀ d ∈ directives text, d.isTame = true

instance (text : String) : Decidable (Tame text) :=
  inferInstanceAs (Decidable (∀ d ∈ directives text, d.isTame = true))

/-- The checker of scripts that rejects those that are not tame. -/
def tameChecker : Checker := fun module file mode =>
  if Tame file.text then checker module file mode
  else .fail (.typeCheck module "not a tame script")

/-- What sessions run with that check tame scripts below some include roots. -/
def tameSetup (settings : Settings) (roots : List Path) : Setup :=
  ⟨settings, Finder.ofRoots roots, tameChecker, .standard⟩

@[simp] theorem checker_tameSetup (settings : Settings) (roots : List Path) :
    (tameSetup settings roots).checker = tameChecker := by dsimp only [tameSetup]

@[simp] theorem finder_tameSetup (settings : Settings) (roots : List Path) :
    (tameSetup settings roots).finder = Finder.ofRoots roots := by dsimp only [tameSetup]

variable {module : ModuleName} {source : SourceFile} {mode : CheckMode} {d : Directive}
  {draft : CheckedModule} {rule : Check.Rule}

/-- A tame directive abides by a rule that allows what it imports, that the sources are touched that
it touches, and that files are removed. -/
theorem abides_perform_of_tame (htame : d.isTame = true)
    (hwanted : ∀ imported, d = .bring imported ∨ d = .tryBring imported → rule.wanted imported)
    (htouch : ∀ path, path = source.path ∨ d = .touch path →
      rule.permitted fun disk => disk.append path (Bytes.ofText touchMark))
    (hdelete : ∀ path, rule.permitted fun disk => disk.removeFile path)
    {next : CheckedModule → Check CheckedModule} (hnext : ∀ draft, (next draft).Abides rule) :
    ((perform module source mode draft d).bind next).Abides rule := by
  have htouchFile : ∀ path, (path = source.path ∨ d = .touch path) →
      (((touchFile path).bind fun _ => .done draft).bind next).Abides rule := by
    intro path hpath
    refine .edit (htouch path hpath) fun reply => ?_
    cases reply with
    | ok _ => exact hnext draft
    | error fault => exact .fail _
  cases d with
  | tryBring imported =>
    refine .resolve (hwanted imported (.inr rfl)) (fun i _ => ?_) fun e => ?_
    · exact .note (hnext draft)
    · exact .note (hnext draft)
  | touchSelf => exact htouchFile source.path (.inl rfl)
  | touchUntil count =>
    have hperform : perform module source mode draft (.touchUntil count)
        = if touches source.text < count then (touchFile source.path).bind fun _ => .done draft
          else .done draft := rfl
    rw [hperform]
    split
    · exact htouchFile source.path (.inl rfl)
    · exact hnext draft
  | touch path => exact htouchFile path (.inr rfl)
  | delete path => exact .edit (hdelete path) fun reply => hnext draft
  | options | bring | hidden | warn | reject | report | unknown | declare | define | incomplete
    | builtin | signature | pattern | userWarning | display | importWarning =>
    exact abides_perform rfl (fun imported h => hwanted imported (.inl h)) hnext

/-- **The check of a tame script abides by every rule that allows this**, in every mode. -/
theorem abides_of_tame (htame : Tame source.text)
    (hwanted : ∀ imported ∈ requested source.text, rule.wanted imported)
    (htouch : ∀ path, path = source.path ∨ .touch path ∈ directives source.text →
      rule.permitted fun disk => disk.append path (Bytes.ofText touchMark))
    (hdelete : ∀ path, rule.permitted fun disk => disk.removeFile path) :
    (checker module source mode).Abides rule := by
  have hall : ∀ ds : List Directive, ds ⊆ directives source.text → ∀ draft,
      (ds.foldlM (perform module source mode) draft).Abides rule := by
    intro ds hds
    induction ds with
    | nil => exact fun draft => .done draft
    | cons d rest ih =>
      intro draft
      obtain ⟨hd, hrest⟩ := List.cons_subset.1 hds
      rw [List.foldlM_cons]
      refine abides_perform_of_tame (htame d hd) ?_ ?_ hdelete (ih hrest)
      · rintro imported (rfl | rfl)
        · exact hwanted imported (mem_requested (.inl hd))
        · exact hwanted imported (mem_requested (.inr hd))
      · rintro path (rfl | rfl)
        · exact htouch source.path (.inl rfl)
        · exact htouch path (.inr hd)
  exact hall _ (List.Subset.refl _) _

/-! ## Nothing new is named -/

/-- **The disks on which texts end with a line**: whatever is not in the place of an artifact is a
text that does. -/
def linedDisks (setup : Setup) : Set Disk :=
  { d | ∀ q content, (∀ module, ¬ setup.IsPlace module q) → d.at? q = some (.file content) →
    ∃ front, content = Bytes.ofText (front ++ "\n") }

variable {settings : Settings} {roots : List Path}

/-- Where sources are found below include roots, the name of the place ends like that of a
source. -/
theorem exists_of_isSource {setup : Setup} (hfinder : setup.finder = Finder.ofRoots roots)
    {q : Place} (h : setup.IsSource q) :
    ∃ above name, q = above ++ [name ++ ("." ++ Finder.sourceExtension)] := by
  obtain ⟨x, disk, found, hfound, hq⟩ := h
  rw [hfinder] at hfound
  obtain ⟨hmem, hfile⟩ := Finder.mem_candidates_of_ofRoots hfound
  obtain ⟨root, -, rfl⟩ := List.mem_map.1 hmem
  obtain ⟨content, hentry⟩ := Disk.isFile_iff.1 hfile
  obtain ⟨place, hlocate, hat⟩ := Disk.entry_eq_ok_iff.1 hentry
  have hnames := Disk.namesFile_of_file hlocate hat
  dsimp only at hq hnames
  rw [hq]
  have hextension : Finder.sourceExtension ≠ "" := by decide
  obtain ⟨bare, hbare⟩ | hnone := x.join_relativePath_cases root hextension
  · exact Disk.exists_placeOf hbare (by decide) (by decide)
  · exact absurd hnames hnone

/-- So no artifact lies there. -/
theorem not_isPlace_of_isSource {setup : Setup} (hfinder : setup.finder = Finder.ofRoots roots)
    {q : Place} (h : setup.IsSource q) (module : ModuleName) : ¬ setup.IsPlace module q := by
  obtain ⟨above, name, rfl⟩ := exists_of_isSource hfinder h
  exact Setup.not_isPlace_of_source

/-- Neither does one lie where a tame script touches a file. -/
theorem not_isPlace_of_touch {text : String} (htame : Tame text) {path : Path}
    (h : .touch path ∈ directives text) (setup : Setup) (module : ModuleName) :
    ¬ setup.IsPlace module (Disk.placeOf path) := by
  obtain ⟨front, hfront⟩ := List.isSuffixOf_iff_suffix.1 (htame _ h)
  have htext : path.text = String.ofList front ++ ("." ++ Finder.sourceExtension) := by
    refine String.toList_inj.1 ?_
    rw [String.toList_append, String.toList_ofList]
    exact hfront.symm
  obtain ⟨above, name, hplace⟩ := Disk.exists_placeOf htext (by decide) (by decide)
  rw [hplace]
  exact Setup.not_isPlace_of_source

/-- **Touching a text names nothing new**, where texts end with a line. -/
theorem permitted_touch {path : Path} (hplace : ∀ module,
      ¬ (tameSetup settings roots).IsPlace module (Disk.placeOf path))
    (wanted : ModuleName → Prop) :
    ((tameSetup settings roots).namingRule requested
      (linedDisks (tameSetup settings roots)) wanted).permitted
        fun disk => disk.append path (Bytes.ofText touchMark) := by
  intro d hd d' happend
  obtain ⟨old, hread, hwrite⟩ := Disk.append_eq_ok happend
  obtain ⟨front, rfl⟩ := hd (Disk.placeOf path) old hplace hread
  rw [← Bytes.ofText_append] at hwrite
  have hcases : ∀ q content, d'.at? q = some (.file content) → d.at? q = some (.file content) ∨
      q = Disk.placeOf path ∧ content = Bytes.ofText (front ++ "\n" ++ touchMark) :=
    fun q content hq => Disk.file_of_write hwrite hq
  constructor
  · intro q content hother hfile
    obtain hbefore | ⟨-, rfl⟩ := hcases q content hfile
    · exact hd q content hother hbefore
    · have hmark : touchMark = "-- touched" ++ "\n" := by decide
      refine ⟨front ++ "\n" ++ "-- touched", ?_⟩
      rw [hmark, String.append_assoc, String.append_assoc, String.append_assoc]
  · intro x hx
    cases hx with
    | @source q content text _ hsource hfile htext hx =>
      obtain hbefore | ⟨rfl, rfl⟩ := hcases q content hfile
      · exact .source hsource hbefore htext hx
      · rw [Bytes.text?_ofText] at htext
        rw [← Option.some.inj htext, requested_touched] at hx
        exact .source hsource hread (Bytes.text?_ofText _) hx
    | @artifact module q content i _ hartifact hfile hinterface hx =>
      obtain hbefore | ⟨rfl, -⟩ := hcases q content hfile
      · exact .artifact hartifact hbefore hinterface hx
      · exact absurd hartifact (hplace module)

/-- **Removing a file names nothing new.** -/
theorem permitted_delete (path : Path) (wanted : ModuleName → Prop) :
    ((tameSetup settings roots).namingRule requested
      (linedDisks (tameSetup settings roots)) wanted).permitted
        fun disk => disk.removeFile path := by
  intro d hd d' hremove
  refine ⟨fun q content hother hfile => hd q content hother (Disk.at?_of_removeFile hremove hfile),
    fun x hx => ?_⟩
  cases hx with
  | source hsource hfile htext hx =>
    exact .source hsource (Disk.at?_of_removeFile hremove hfile) htext hx
  | artifact hartifact hfile hinterface hx =>
    exact .artifact hartifact (Disk.at?_of_removeFile hremove hfile) hinterface hx

/-- **Tame scripts announce their imports** to sessions below some include roots, if texts end with
a line. -/
theorem announces_tame (settings : Settings) (roots : List Path) :
    (tameSetup settings roots).Announces requested
      (linedDisks (tameSetup settings roots)) where
  faithful := Codec.standard_faithful
  apart hsource := not_isPlace_of_isSource (finder_tameSetup settings roots) hsource _
  write hlies hd q content hother hfile := hd q content hother (hlies.file_of_write (hother _) hfile)
  abides {module file} mode hsource := by
    rw [checker_tameSetup]
    unfold tameChecker
    by_cases htame : Tame file.text
    · rw [if_pos htame]
      refine abides_of_tame htame (fun _ => id) (fun path hpath => ?_) fun path =>
        permitted_delete path _
      obtain rfl | htouch := hpath
      · exact permitted_touch (not_isPlace_of_isSource (finder_tameSetup settings roots) hsource) _
      · exact permitted_touch (not_isPlace_of_touch htame htouch _) _
    · rw [if_neg htame]
      exact .fail _

end Script

end ModuleLoader
