import ModuleLoader.Proofs.Check.Brings
import ModuleLoader.Proofs.Check.Pragmas
import ModuleLoader.Proofs.Check.Recipe
import ModuleLoader.Script.Checker

/-!
# Scripts have recipes

What a check comes to on the way on which every import is granted makes a recipe of it
(`Check.recipe`). The check need not follow it: it may look at a file, or go on when an import was
refused.

Scripts are *plain* if they do neither, which can be read off their directives: none of them tries
an import or meddles with a file. If none meddles with a file then wherever the script is, its checks
agree (`Script.checker_agrees`) and follow its recipe (`Script.follows_recipe`). A plain script insists
on its imports, too (`Script.checker_insists`), makes no change to the disk (`Script.abides`), and
brings in what it imports (`Script.checker_brings`).

Whether a script applies its pragmas first can be read off its directives, too, plain or not
(`Script.checker_pragmasFirst`).
-/

namespace ModuleLoader

namespace Script

/-- Whether a directive leaves files alone. -/
def Directive.isTidy : Directive → Bool
  | .touchSelf | .touchUntil _ | .touch _ | .delete _ => false
  | _ => true

/-- **A tidy script**: one that meddles with no file. -/
def Tidy (text : String) : Prop := ∀ d ∈ directives text, d.isTidy = true

instance (text : String) : Decidable (Tidy text) :=
  inferInstanceAs (Decidable (∀ d ∈ directives text, d.isTidy = true))

/-- Whether a directive leaves files alone and insists on what it imports. -/
def Directive.isPlain : Directive → Bool
  | .tryBring _ | .touchSelf | .touchUntil _ | .touch _ | .delete _ => false
  | _ => true

/-- **A plain script**: one of plain directives. -/
def Plain (text : String) : Prop := ∀ d ∈ directives text, d.isPlain = true

instance (text : String) : Decidable (Plain text) :=
  inferInstanceAs (Decidable (∀ d ∈ directives text, d.isPlain = true))

/-- A plain directive is tidy. -/
theorem Directive.isTidy_of_isPlain {d : Directive} (h : d.isPlain = true) : d.isTidy = true := by
  cases d <;> first | rfl | contradiction

/-- So is a plain script. -/
theorem Plain.tidy {text : String} (h : Plain text) : Tidy text :=
  fun d hd => Directive.isTidy_of_isPlain (h d hd)

/-- The modules that a script imports. -/
def brings (text : String) : List ModuleName :=
  (directives text).filterMap fun
    | .bring imported => some imported
    | _ => none

/-- Whether a directive asks for an import. -/
def Directive.asks : Directive → Bool
  | .bring _ | .tryBring _ => true
  | _ => false

/-- Whether a directive switches flags. -/
def Directive.switches : Directive → Bool
  | .options _ => true
  | _ => false

/-- **A script whose options come first**: no flag is switched after an import. -/
def OptionsFirst (text : String) : Prop :=
  (directives text).Pairwise fun d d' => d.asks = true → d'.switches = false

instance (text : String) : Decidable (OptionsFirst text) :=
  inferInstanceAs (Decidable ((directives text).Pairwise fun d d' =>
    d.asks = true → d'.switches = false))

variable {module : ModuleName} {source source' : SourceFile} {mode : CheckMode} {d : Directive}
  {draft : CheckedModule}

/-! ## One directive -/

/-- A tidy directive agrees with itself in another place if what comes after it does. -/
theorem agrees_perform (htidy : d.isTidy = true) {next next' : CheckedModule → Check CheckedModule}
    (hnext : ∀ draft, (next draft).Agrees (next' draft)) :
    ((perform module source mode draft d).bind next).Agrees
      ((perform module source' mode draft d).bind next') := by
  cases d with
  | options switches =>
    let switched (options : Options) := switches.foldl (fun (o : Options) s => o.set s.1 s.2) options
    refine .context fun context context' hoptions => ?_
    show (Check.ask (.setOptions (switched context.options)) fun _ => next draft).Agrees
      (Check.ask (.setOptions (switched context'.options)) fun _ => next' draft)
    rw [hoptions]
    exact .setOptions (hnext draft)
  | bring imported => exact .resolve (fun i => .note (hnext draft)) fun e e' => .fail e e'
  | tryBring imported =>
    exact .resolve (fun i => .note (hnext draft)) fun e e' => .note (hnext draft)
  | hidden name =>
    unfold perform
    cases hmode : mode.retainsPrivate
    · exact hnext _
    · exact hnext _
  | warn message => exact .warn (hnext draft)
  | reject message => exact .fail _ _
  | report => exact .context fun context context' _ => .note (hnext draft)
  | unknown word => exact .fail _ _
  | touchSelf | touchUntil | touch | delete => contradiction
  | declare | define | incomplete | builtin | signature | pattern | userWarning | display
    | importWarning => exact hnext _

/-- A plain directive insists on what it imports if what comes after it does. -/
theorem insists_perform (hplain : d.isPlain = true) {next : CheckedModule → Check CheckedModule}
    (hnext : ∀ draft, (next draft).Insists) :
    ((perform module source mode draft d).bind next).Insists := by
  cases d with
  | options switches => exact .context fun context => .setOptions (hnext draft)
  | bring imported => exact .resolve (fun i => .note (hnext draft)) fun e => .fail e
  | hidden name =>
    unfold perform
    cases hmode : mode.retainsPrivate
    · exact hnext _
    · exact hnext _
  | warn message => exact .warn (hnext draft)
  | reject message => exact .fail _
  | report => exact .context fun context => .note (hnext draft)
  | unknown word => exact .fail _
  | tryBring | touchSelf | touchUntil | touch | delete => contradiction
  | declare | define | incomplete | builtin | signature | pattern | userWarning | display
    | importWarning => exact hnext _

/-- A plain directive abides by a rule that allows what it imports. -/
theorem abides_perform {rule : Check.Rule} (hplain : d.isPlain = true)
    (hwanted : ∀ imported, d = .bring imported → rule.wanted imported)
    {next : CheckedModule → Check CheckedModule} (hnext : ∀ draft, (next draft).Abides rule) :
    ((perform module source mode draft d).bind next).Abides rule := by
  cases d with
  | options switches => exact .context fun context => .setOptions (hnext draft)
  | bring imported =>
    exact .resolve (hwanted imported rfl) (fun i _ => .note (hnext draft)) fun e => .fail e
  | hidden name =>
    unfold perform
    cases hmode : mode.retainsPrivate
    · exact hnext _
    · exact hnext _
  | warn message => exact .warn (hnext draft)
  | reject message => exact .fail _
  | report => exact .context fun context => .note (hnext draft)
  | unknown word => exact .fail _
  | tryBring | touchSelf | touchUntil | touch | delete => contradiction
  | declare | define | incomplete | builtin | signature | pattern | userWarning | display
    | importWarning => exact hnext _

/-- A plain directive brings in what it imports, and what comes after it brings in the rest. -/
theorem brings_perform {imports : ModuleName → Prop}
    {permitted : (Disk → Except DiskFault Disk) → Prop} {granted : List ModuleName}
    (hplain : d.isPlain = true) (himports : ∀ x, d = .bring x → imports x)
    {next : CheckedModule → Check CheckedModule}
    (hnext : ∀ draft granted', (∀ x, x ∈ granted ∨ d = .bring x → x ∈ granted') →
      (next draft).Brings imports permitted granted' []) :
    ((perform module source mode draft d).bind next).Brings imports permitted granted [] := by
  cases d with
  | options switches =>
    exact .context fun context => .setOptions (hnext draft granted (by simp))
  | bring x =>
    refine .resolve (himports x rfl) (fun i => .note (hnext draft (x :: granted) ?_))
      fun e => .fail fun cycle _ => List.mem_singleton_self e
    rintro y (hy | ⟨⟨⟩⟩)
    · exact List.mem_cons_of_mem x hy
    · exact List.mem_cons_self
  | hidden name =>
    unfold perform
    cases hmode : mode.retainsPrivate
    · exact hnext _ granted (by simp)
    · exact hnext _ granted (by simp)
  | warn message => exact .warn (hnext draft granted (by simp))
  | reject message => exact .fail fun _ => nofun
  | report => exact .context fun context => .note (hnext draft granted (by simp))
  | unknown word => exact .fail fun _ => nofun
  | tryBring | touchSelf | touchUntil | touch | delete => contradiction
  | declare | define | incomplete | builtin | signature | pattern | userWarning | display
    | importWarning => exact hnext _ granted (by simp)

/-- A directive that comes after an import must not switch flags; what comes after it is told whether
an import has been asked for. -/
theorem pragmasFirst_perform {asked : Bool} (hswitches : asked = true → d.switches = false)
    {next : CheckedModule → Check CheckedModule}
    (hnext : ∀ draft, (next draft).PragmasFirst (d.asks || asked)) :
    ((perform module source mode draft d).bind next).PragmasFirst asked := by
  have htouch : ∀ path, (∀ draft, (next draft).PragmasFirst asked) →
      (((touchFile path).bind fun _ => .done draft).bind next).PragmasFirst asked := by
    intro path hnext
    refine .edit fun reply => ?_
    cases reply with
    | ok _ => exact hnext draft
    | error fault => exact .fail _
  cases d with
  | options switches =>
    cases asked with
    | true => exact absurd (hswitches rfl) nofun
    | false => exact .context fun context => .setOptions (hnext draft)
  | bring imported =>
    refine .resolve fun reply => ?_
    cases reply with
    | ok i => exact .note (hnext draft)
    | error e => exact .fail e
  | tryBring imported =>
    refine .resolve fun reply => ?_
    cases reply with
    | ok i => exact .note (hnext draft)
    | error e => exact .note (hnext draft)
  | hidden name =>
    unfold perform
    cases hmode : mode.retainsPrivate
    · exact hnext _
    · exact hnext _
  | warn message => exact .warn (hnext draft)
  | reject message => exact .fail _
  | touchSelf => exact htouch source.path hnext
  | touchUntil count =>
    simp only [perform]
    split
    · exact htouch source.path hnext
    · exact hnext draft
  | touch path => exact htouch path hnext
  | delete path => exact .edit fun reply => hnext draft
  | report => exact .context fun context => .note (hnext draft)
  | unknown word => exact .fail _
  | declare | define | incomplete | builtin | signature | pattern | userWarning | display
    | importWarning => exact hnext _

/-! ## A whole script -/

/-- **The checks of a tidy script agree**, wherever the script is. -/
theorem checker_agrees {text : String} (htidy : Tidy text) (path path' : Path) :
    (checker module ⟨path, text⟩ mode).Agrees (checker module ⟨path', text⟩ mode) := by
  have hall : ∀ ds : List Directive, (∀ d ∈ ds, d.isTidy = true) → ∀ draft,
      (ds.foldlM (perform module ⟨path, text⟩ mode) draft).Agrees
        (ds.foldlM (perform module ⟨path', text⟩ mode) draft) := by
    intro ds hds
    induction ds with
    | nil => exact fun draft => .done draft
    | cons d rest ih =>
      intro draft
      rw [List.foldlM_cons, List.foldlM_cons]
      exact agrees_perform (hds d List.mem_cons_self)
        (ih fun d' hd' => hds d' (List.mem_cons_of_mem _ hd'))
  exact hall _ htidy _

/-- **The recipe of a script.** -/
def recipe (module : ModuleName) (text : String) : Recipe CheckedModule :=
  (checker module ⟨⟨""⟩, text⟩ .batch).recipe

/-- **The check of a tidy script follows its recipe**, wherever the script is. -/
theorem follows_recipe {text : String} (htidy : Tidy text) (path : Path) :
    (checker module ⟨path, text⟩ .batch).Follows (recipe module text) :=
  (checker_agrees htidy path ⟨""⟩).follows

/-- **The check of a plain script insists on its imports**, in every mode. -/
theorem checker_insists {text : String} (hplain : Plain text) (path : Path) :
    (checker module ⟨path, text⟩ mode).Insists := by
  have hall : ∀ ds : List Directive, (∀ d ∈ ds, d.isPlain = true) → ∀ draft,
      (ds.foldlM (perform module ⟨path, text⟩ mode) draft).Insists := by
    intro ds hds
    induction ds with
    | nil => exact fun draft => .done draft
    | cons d rest ih =>
      intro draft
      rw [List.foldlM_cons]
      exact insists_perform (hds d List.mem_cons_self)
        (ih fun d' hd' => hds d' (List.mem_cons_of_mem _ hd'))
  exact hall _ hplain _

/-- **The check of a plain script abides by every rule that allows what it imports**, in every
mode: it changes no file. -/
theorem abides {text : String} {rule : Check.Rule} (hplain : Plain text)
    (hwanted : ∀ imported ∈ brings text, rule.wanted imported) (path : Path) :
    (checker module ⟨path, text⟩ mode).Abides rule := by
  have hall : ∀ ds : List Directive, (∀ d ∈ ds, d.isPlain = true) →
      (∀ imported, .bring imported ∈ ds → rule.wanted imported) → ∀ draft,
      (ds.foldlM (perform module ⟨path, text⟩ mode) draft).Abides rule := by
    intro ds hds hbring
    induction ds with
    | nil => exact fun draft => .done draft
    | cons d rest ih =>
      intro draft
      rw [List.foldlM_cons]
      exact abides_perform (hds d List.mem_cons_self)
        (fun imported hd => hbring imported (hd ▸ List.mem_cons_self))
        (ih (fun d' hd' => hds d' (List.mem_cons_of_mem _ hd'))
          fun imported himported => hbring imported (List.mem_cons_of_mem _ himported))
  refine hall _ hplain (fun imported himported => hwanted imported ?_) _
  exact List.mem_filterMap.2 ⟨_, himported, rfl⟩

/-- **The check of a plain script brings in what the script imports**, in every mode. -/
theorem checker_brings {text : String} {permitted : (Disk → Except DiskFault Disk) → Prop}
    (hplain : Plain text) (path : Path) :
    (checker module ⟨path, text⟩ mode).Brings (· ∈ brings text) permitted [] [] := by
  have hall : ∀ (imports : ModuleName → Prop) (ds : List Directive), (∀ d ∈ ds, d.isPlain = true) →
      (∀ x, .bring x ∈ ds → imports x) → ∀ granted, (∀ x, imports x → x ∈ granted ∨ .bring x ∈ ds) →
      ∀ draft, (ds.foldlM (perform module ⟨path, text⟩ mode) draft).Brings imports permitted
        granted [] := by
    intro imports ds hds hbring
    induction ds with
    | nil => exact fun granted hrest draft => .done draft fun x hx => by simpa using hrest x hx
    | cons d rest ih =>
      intro granted hrest draft
      rw [List.foldlM_cons]
      refine brings_perform (hds d List.mem_cons_self)
        (fun x hd => hbring x (hd ▸ List.mem_cons_self)) fun draft' granted' hgranted => ?_
      refine ih (fun d' hd' => hds d' (List.mem_cons_of_mem _ hd'))
        (fun x hx => hbring x (List.mem_cons_of_mem _ hx)) granted' (fun x hx => ?_) draft'
      obtain hx | hx := hrest x hx
      · exact .inl (hgranted x (.inl hx))
      · obtain rfl | hx := List.mem_cons.1 hx
        · exact .inl (hgranted x (.inr rfl))
        · exact .inr hx
  have hbrings : ∀ x, x ∈ brings text ↔ .bring x ∈ directives text := by
    intro x
    unfold brings
    rw [List.mem_filterMap]
    constructor
    · rintro ⟨d, hd, heq⟩
      cases d <;> simp_all
    · exact fun hd => ⟨_, hd, rfl⟩
  exact hall _ _ hplain (fun x hx => (hbrings x).2 hx) [] (fun x hx => .inr ((hbrings x).1 hx)) _

/-- **The check of a script whose options come first applies its pragmas first**, in every mode. -/
theorem checker_pragmasFirst {text : String} (hfirst : OptionsFirst text) (path : Path) :
    (checker module ⟨path, text⟩ mode).PragmasFirst false := by
  have hall : ∀ (ds : List Directive) (asked : Bool),
      (ds.Pairwise fun d d' => d.asks = true → d'.switches = false) →
      (asked = true → ∀ d ∈ ds, d.switches = false) → ∀ draft,
      (ds.foldlM (perform module ⟨path, text⟩ mode) draft).PragmasFirst asked := by
    intro ds
    induction ds with
    | nil => exact fun asked _ _ draft => .done draft
    | cons d rest ih =>
      intro asked hpairs hasked draft
      obtain ⟨hafter, hrest⟩ := List.pairwise_cons.1 hpairs
      rw [List.foldlM_cons]
      refine pragmasFirst_perform (fun h => hasked h d List.mem_cons_self) (ih _ hrest fun h => ?_)
      intro d' hd'
      obtain hasks | hasked' := Bool.or_eq_true_iff.1 h
      · exact hafter d' hd' hasks
      · exact hasked hasked' d' (List.mem_cons_of_mem d hd')
  exact hall _ false hfirst nofun _

end Script

end ModuleLoader
