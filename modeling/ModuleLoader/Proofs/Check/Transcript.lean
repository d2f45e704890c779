import ModuleLoader.Check

/-!
# How a check went

A check that ends with a result has gone one way through the tree of its requests. What was
answered on that way is its transcript. Most answers are arbitrary as far as the loader is
concerned; the imports are not: a module that was imported is one of the modules *known* to whoever
answered, with the interface that is known of it, and everything the context holds at the end was
put there by the requests on the way.

The relation `Check.Went` says this for any notion of what is known, so that the same run of a check
can be looked at when less was known, or more.
-/

namespace ModuleLoader

namespace CheckContext

variable {compatibility : Compatibility} {context context' : CheckContext} {imported : ModuleName}
  {entry : VisitedEntry} {resolved : Except LoadError VisitedEntry}

/-- **What an import that succeeds does to a context.** -/
theorem addImport_eq_ok (h : context.addImport compatibility imported entry = .ok context') :
    ∃ scope, context.scope.merge entry.interface = .ok scope ∧
      context' = ⟨context.options, scope,
        listImport context.imports imported entry.interface.fullHash,
        context.warnings ++ importWarnings compatibility context.options imported entry⟩ := by
  unfold addImport at h
  cases hmerge : context.scope.merge entry.interface with
  | error e => rw [hmerge] at h; contradiction
  | ok scope =>
    rw [hmerge] at h
    exact ⟨scope, rfl, (Except.ok.inj h).symm⟩

/-- An import fails because its interface does not merge. -/
theorem addImport_eq_error {e : LoadError}
    (h : context.addImport compatibility imported entry = .error e) :
    context.scope.merge entry.interface = .error e := by
  unfold addImport at h
  cases hmerge : context.scope.merge entry.interface with
  | error e' =>
    rw [hmerge] at h
    rw [← Except.error.inj h]
  | ok scope => rw [hmerge] at h; contradiction

/-- **The answer to a request for an import**, and the context then, given what resolving it comes
to. -/
def afterImport (context : CheckContext) (compatibility : Compatibility) (imported : ModuleName) :
    Except LoadError VisitedEntry → Except LoadError Interface × CheckContext
  | .error e => (.error e, context)
  | .ok entry =>
    match context.addImport compatibility imported entry with
    | .error e => (.error e, context)
    | .ok context => (.ok entry.interface, context)

/-- An import that fails leaves the context as it is. -/
theorem afterImport_of_error {e : LoadError}
    (h : (context.afterImport compatibility imported resolved).1 = .error e) :
    (context.afterImport compatibility imported resolved).2 = context := by
  unfold afterImport at h ⊢
  cases resolved with
  | error e => rfl
  | ok entry =>
    dsimp only at h ⊢
    split at h
    · rfl
    · contradiction

/-- An import that succeeds has been resolved and adds itself to the context. -/
theorem afterImport_of_ok {i : Interface}
    (h : (context.afterImport compatibility imported resolved).1 = .ok i) :
    ∃ entry, resolved = .ok entry ∧ entry.interface = i ∧
      context.addImport compatibility imported entry
        = .ok (context.afterImport compatibility imported resolved).2 := by
  unfold afterImport at h ⊢
  cases resolved with
  | error e => contradiction
  | ok entry =>
    refine ⟨entry, rfl, ?_⟩
    dsimp only at h ⊢
    cases hadd : context.addImport compatibility imported entry with
    | error e => rw [hadd] at h; contradiction
    | ok context' => rw [hadd] at h; exact ⟨Except.ok.inj h, rfl⟩

/-- What is listed after an import was listed before it or is the import. -/
theorem mem_listImport {imports : List (ModuleName × Digest)} {hash : Digest}
    {e : ModuleName × Digest} (h : e ∈ listImport imports imported hash) :
    e ∈ imports ∨ e = (imported, hash) := by
  unfold listImport at h
  split at h
  · exact .inl h
  · obtain h | h := List.mem_append.1 h
    · exact .inl h
    · exact .inr (List.mem_singleton.1 h)

/-- What was listed before an import stands first in the list after it. -/
theorem prefix_listImport (imports : List (ModuleName × Digest)) (imported : ModuleName)
    (hash : Digest) : imports <+: listImport imports imported hash := by
  unfold listImport
  split
  · exact List.prefix_refl imports
  · exact List.prefix_append imports _

/-- Which modules are listed after an import does not depend on its digest. -/
theorem exists_mem_listImport_iff {imports : List (ModuleName × Digest)} {hash hash' : Digest}
    {x : ModuleName} :
    (∃ h, (x, h) ∈ listImport imports imported hash) ↔
      ∃ h, (x, h) ∈ listImport imports imported hash' := by
  unfold listImport
  split
  · exact Iff.rfl
  · simp [exists_or]

/-- **A module that is imported is listed.** -/
theorem exists_mem_listImport (imports : List (ModuleName × Digest)) (imported : ModuleName)
    (hash : Digest) : ∃ h, (imported, h) ∈ listImport imports imported hash := by
  unfold listImport
  split
  · rename_i h
    obtain ⟨⟨x, recorded⟩, he, hname⟩ := List.any_eq_true.1 h
    obtain rfl : x = imported := by simpa using hname
    exact ⟨recorded, he⟩
  · exact ⟨hash, List.mem_append_right _ (List.mem_singleton_self _)⟩

end CheckContext

namespace Check

/-- **The way a check has gone** from one context to a result and another context, when every
module that was imported is known. -/
inductive Went {α : Type} (compatibility : Compatibility)
    (known : ModuleName → VisitedEntry → Prop) :
    Check α → CheckContext → α → CheckContext → Prop where
  /-- It had ended. -/
  | done (result : α) (context : CheckContext) :
      Went compatibility known (.done result) context result context
  /-- An import was refused. -/
  | refused {imported : ModuleName} {next : Except LoadError Interface → Check α}
      {context context' : CheckContext} {result : α} (error : LoadError) :
      Went compatibility known (next (.error error)) context result context' →
        Went compatibility known (.ask (.resolve imported) next) context result context'
  /-- A module was imported. -/
  | imported {imported : ModuleName} {next : Except LoadError Interface → Check α}
      {context₁ context₂ context₃ : CheckContext} {result : α} {entry : VisitedEntry} :
      known imported entry → context₁.addImport compatibility imported entry = .ok context₂ →
        Went compatibility known (next (.ok entry.interface)) context₂ result context₃ →
        Went compatibility known (.ask (.resolve imported) next) context₁ result context₃
  /-- The context was shown. -/
  | context {next : CheckContext → Check α} {context context' : CheckContext} {result : α} :
      Went compatibility known (next context) context result context' →
        Went compatibility known (.ask .context next) context result context'
  /-- The options were changed. -/
  | setOptions {options : Options} {next : Unit → Check α} {context context' : CheckContext}
      {result : α} :
      Went compatibility known (next ()) { context with options } result context' →
        Went compatibility known (.ask (.setOptions options) next) context result context'
  /-- A warning was reported. -/
  | warn {warning : Diagnostic} {next : Unit → Check α} {context context' : CheckContext}
      {result : α} :
      Went compatibility known (next ())
          { context with warnings := context.warnings ++ [warning] } result context' →
        Went compatibility known (.ask (.warn warning) next) context result context'
  /-- A file was read. -/
  | read {path : Path} {next : Except DiskFault Bytes → Check α} {context context' : CheckContext}
      {result : α} (reply : Except DiskFault Bytes) :
      Went compatibility known (next reply) context result context' →
        Went compatibility known (.ask (.read path) next) context result context'
  /-- The disk was changed. -/
  | edit {change : Disk → Except DiskFault Disk} {next : Except DiskFault Unit → Check α}
      {context context' : CheckContext} {result : α} (reply : Except DiskFault Unit) :
      Went compatibility known (next reply) context result context' →
        Went compatibility known (.ask (.edit change) next) context result context'
  /-- A note was left. -/
  | note {text : String} {next : Unit → Check α} {context context' : CheckContext} {result : α} :
      Went compatibility known (next ()) context result context' →
        Went compatibility known (.ask (.note text) next) context result context'

namespace Went

variable {α : Type} {compatibility : Compatibility} {known known' : ModuleName → VisitedEntry → Prop}
  {check : Check α} {context context' : CheckContext} {result : α}

/-- Who knows more has seen the same. -/
theorem mono (hmono : ∀ x e, known x e → known' x e)
    (h : Went compatibility known check context result context') :
    Went compatibility known' check context result context' := by
  induction h with
  | done result context => exact .done result context
  | refused e _ ih => exact .refused e ih
  | imported hknown hadd _ ih => exact .imported (hmono _ _ hknown) hadd ih
  | context _ ih => exact .context ih
  | setOptions _ ih => exact .setOptions ih
  | warn _ ih => exact .warn ih
  | read reply _ ih => exact .read reply ih
  | edit reply _ ih => exact .edit reply ih
  | note _ ih => exact .note ih

/-- **Every import that a check lists is known**, with the digest that is listed. -/
theorem known_of_mem_imports (h : Went compatibility known check context result context')
    {e : ModuleName × Digest} (he : e ∈ context'.imports) :
    e ∈ context.imports ∨ ∃ entry, known e.1 entry ∧ entry.interface.fullHash = e.2 := by
  induction h with
  | done => exact .inl he
  | refused _ _ ih => exact ih he
  | imported hknown hadd _ ih =>
    obtain hbefore | hnew := ih he
    · obtain ⟨scope, -, rfl⟩ := CheckContext.addImport_eq_ok hadd
      obtain hbefore | rfl := CheckContext.mem_listImport hbefore
      · exact .inl hbefore
      · exact .inr ⟨_, hknown, rfl⟩
    · exact .inr hnew
  | context _ ih => exact ih he
  | setOptions _ ih => exact ih he
  | warn _ ih => exact ih he
  | read _ _ ih => exact ih he
  | edit _ _ ih => exact ih he
  | note _ ih => exact ih he

end Went

/-! ## Rules -/

/-- **A rule for checks**: what they may ask for, as long as they are answered in certain ways. -/
structure Rule where
  /-- The modules that they may import. -/
  wanted : ModuleName → Prop
  /-- The interfaces that they are given for a module. -/
  granted : ModuleName → Interface → Prop
  /-- The changes of the disk that they may make. -/
  permitted : (Disk → Except DiskFault Disk) → Prop

/-- The rule that allows everything. -/
def Rule.anything : Rule := ⟨fun _ => True, fun _ _ => True, fun _ => True⟩

/-- **A check abides by a rule** on every way that the answers may lead it. -/
inductive Abides {α : Type} (rule : Rule) : Check α → Prop where
  /-- It has ended. -/
  | done (result : α) : Abides rule (.done result)
  /-- It has failed. -/
  | fail (error : LoadError) : Abides rule (.fail error)
  /-- It imports a module that it may import. -/
  | resolve {imported : ModuleName} {next : Except LoadError Interface → Check α} :
      rule.wanted imported → (∀ i, rule.granted imported i → Abides rule (next (.ok i))) →
        (∀ error, Abides rule (next (.error error))) → Abides rule (.ask (.resolve imported) next)
  /-- It sees the context. -/
  | context {next : CheckContext → Check α} :
      (∀ context, Abides rule (next context)) → Abides rule (.ask .context next)
  /-- It changes the options. -/
  | setOptions {options : Options} {next : Unit → Check α} :
      Abides rule (next ()) → Abides rule (.ask (.setOptions options) next)
  /-- It reports a warning. -/
  | warn {warning : Diagnostic} {next : Unit → Check α} :
      Abides rule (next ()) → Abides rule (.ask (.warn warning) next)
  /-- It reads a file. -/
  | read {path : Path} {next : Except DiskFault Bytes → Check α} :
      (∀ reply, Abides rule (next reply)) → Abides rule (.ask (.read path) next)
  /-- It makes a change that it may make. -/
  | edit {change : Disk → Except DiskFault Disk} {next : Except DiskFault Unit → Check α} :
      rule.permitted change → (∀ reply, Abides rule (next reply)) →
        Abides rule (.ask (.edit change) next)
  /-- It leaves a note. -/
  | note {text : String} {next : Unit → Check α} :
      Abides rule (next ()) → Abides rule (.ask (.note text) next)

/-- Every check abides by the rule that allows everything. -/
theorem abides_anything {α : Type} (check : Check α) : check.Abides Rule.anything := by
  induction check with
  | done result => exact .done result
  | fail error => exact .fail error
  | ask request next ih =>
    cases request with
    | resolve imported => exact .resolve trivial (fun i _ => ih (.ok i)) fun e => ih (.error e)
    | context => exact .context ih
    | setOptions options => exact .setOptions (ih ())
    | warn warning => exact .warn (ih ())
    | read path => exact .read ih
    | edit change => exact .edit trivial ih
    | note text => exact .note (ih ())

/-- A check that abides by a rule abides by one that allows more, and grants no more. -/
theorem Abides.mono {α : Type} {rule rule' : Rule} (hwanted : ∀ x, rule.wanted x → rule'.wanted x)
    (hgranted : ∀ x i, rule'.granted x i → rule.granted x i)
    (hpermitted : ∀ change, rule.permitted change → rule'.permitted change) {check : Check α}
    (h : check.Abides rule) : check.Abides rule' := by
  induction h with
  | done result => exact .done result
  | fail error => exact .fail error
  | resolve hw _ _ ihok iherror =>
    exact .resolve (hwanted _ hw) (fun i hi => ihok i (hgranted _ i hi)) iherror
  | context _ ih => exact .context ih
  | setOptions _ ih => exact .setOptions ih
  | warn _ ih => exact .warn ih
  | read _ ih => exact .read ih
  | edit hp _ ih => exact .edit (hpermitted _ hp) ih
  | note _ ih => exact .note ih

/-- **Every import that a check lists is one that it may ask for**, if it abides by a rule. -/
theorem Went.wanted_of_mem_imports {α : Type} {compatibility : Compatibility}
    {known : ModuleName → VisitedEntry → Prop} {rule : Rule} {check : Check α}
    {context context' : CheckContext} {result : α}
    (h : check.Went compatibility known context result context')
    (hgranted : ∀ x entry, known x entry → rule.granted x entry.interface)
    (habides : check.Abides rule) {e : ModuleName × Digest} (he : e ∈ context'.imports) :
    e ∈ context.imports ∨ rule.wanted e.1 := by
  induction h with
  | done => exact .inl he
  | refused error _ ih =>
    cases habides with
    | resolve _ _ herror => exact ih (herror error) he
  | imported hknown hadd _ ih =>
    cases habides with
    | resolve hwanted hok _ =>
      obtain hbefore | hnew := ih (hok _ (hgranted _ _ hknown)) he
      · obtain ⟨scope, -, rfl⟩ := CheckContext.addImport_eq_ok hadd
        obtain hbefore | rfl := CheckContext.mem_listImport hbefore
        · exact .inl hbefore
        · exact .inr hwanted
      · exact .inr hnew
  | context _ ih =>
    cases habides with
    | context hnext => exact ih (hnext _) he
  | setOptions _ ih =>
    cases habides with
    | setOptions hnext => exact ih hnext he
  | warn _ ih =>
    cases habides with
    | warn hnext => exact ih hnext he
  | read reply _ ih =>
    cases habides with
    | read hnext => exact ih (hnext reply) he
  | edit reply _ ih =>
    cases habides with
    | edit _ hnext => exact ih (hnext reply) he
  | note _ ih =>
    cases habides with
    | note hnext => exact ih hnext he

end Check

end ModuleLoader
