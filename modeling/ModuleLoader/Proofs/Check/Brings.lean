import ModuleLoader.Proofs.Check.Transcript

/-!
# Checks that bring in what their text says

The imports of a module are those that its source text names, and a check of that text is expected
to ask for these and no others. If one of them is refused, the check may go on for a while – to find
more errors, perhaps – but it cannot end with a result, and if it reports a cycle of imports then one
that it was told of. This is `Check.Brings`. The state of such a check, as far as imports go, is what
it was granted so far and the errors that it was given.

When it ends, it lists just the imports that it was expected to ask for
(`Check.Brings.listed_iff`).
-/

namespace ModuleLoader

namespace Check

/-- **A check brings in certain modules**, having been granted some of them and refused others, and
makes no changes on disk but permitted ones. -/
inductive Brings {α : Type} (imports : ModuleName → Prop)
    (permitted : (Disk → Except DiskFault Disk) → Prop) :
    (granted : List ModuleName) → (refusals : List LoadError) → Check α → Prop where
  /-- It ends when it has been granted everything. -/
  | done {granted : List ModuleName} {refusals : List LoadError} (result : α) :
      (∀ x, imports x → x ∈ granted) → Brings imports permitted granted refusals (.done result)
  /-- It fails, and does not make a cycle up. -/
  | fail {granted : List ModuleName} {refusals : List LoadError} {error : LoadError} :
      (∀ cycle, error = .importCycle cycle → error ∈ refusals) →
        Brings imports permitted granted refusals (.fail error)
  /-- It imports one of the modules. -/
  | resolve {granted : List ModuleName} {refusals : List LoadError} {imported : ModuleName}
      {next : Except LoadError Interface → Check α} : imports imported →
        (∀ i, Brings imports permitted (imported :: granted) refusals (next (.ok i))) →
        (∀ error, Brings imports permitted granted (error :: refusals) (next (.error error))) →
        Brings imports permitted granted refusals (.ask (.resolve imported) next)
  /-- It sees the context. -/
  | context {granted : List ModuleName} {refusals : List LoadError}
      {next : CheckContext → Check α} :
      (∀ context, Brings imports permitted granted refusals (next context)) →
        Brings imports permitted granted refusals (.ask .context next)
  /-- It changes the options. -/
  | setOptions {granted : List ModuleName} {refusals : List LoadError} {options : Options}
      {next : Unit → Check α} : Brings imports permitted granted refusals (next ()) →
        Brings imports permitted granted refusals (.ask (.setOptions options) next)
  /-- It reports a warning. -/
  | warn {granted : List ModuleName} {refusals : List LoadError} {warning : Diagnostic}
      {next : Unit → Check α} : Brings imports permitted granted refusals (next ()) →
        Brings imports permitted granted refusals (.ask (.warn warning) next)
  /-- It reads a file. -/
  | read {granted : List ModuleName} {refusals : List LoadError} {path : Path}
      {next : Except DiskFault Bytes → Check α} :
      (∀ reply, Brings imports permitted granted refusals (next reply)) →
        Brings imports permitted granted refusals (.ask (.read path) next)
  /-- It makes a change that it may make. -/
  | edit {granted : List ModuleName} {refusals : List LoadError}
      {change : Disk → Except DiskFault Disk} {next : Except DiskFault Unit → Check α} :
      permitted change → (∀ reply, Brings imports permitted granted refusals (next reply)) →
        Brings imports permitted granted refusals (.ask (.edit change) next)
  /-- It leaves a note. -/
  | note {granted : List ModuleName} {refusals : List LoadError} {text : String}
      {next : Unit → Check α} : Brings imports permitted granted refusals (next ()) →
        Brings imports permitted granted refusals (.ask (.note text) next)

namespace Brings

variable {α : Type} {imports : ModuleName → Prop} {permitted : (Disk → Except DiskFault Disk) → Prop}
  {granted : List ModuleName} {refusals : List LoadError} {check : Check α}

/-- It abides by a rule that lets it import these modules and make these changes. -/
theorem abides {rule : Rule} (h : check.Brings imports permitted granted refusals)
    (hwanted : ∀ x, imports x → rule.wanted x)
    (hpermitted : ∀ change, permitted change → rule.permitted change) : check.Abides rule := by
  induction h with
  | done result _ => exact .done result
  | fail _ => exact .fail _
  | resolve himports _ _ ihok iherror =>
    exact .resolve (hwanted _ himports) (fun i _ => ihok i) iherror
  | context _ ih => exact .context ih
  | setOptions _ ih => exact .setOptions ih
  | warn _ ih => exact .warn ih
  | read _ ih => exact .read ih
  | edit hchange _ ih => exact .edit (hpermitted _ hchange) ih
  | note _ ih => exact .note ih

variable {compatibility : Compatibility} {known : ModuleName → VisitedEntry → Prop}
  {context context' : CheckContext} {result : α} {x : ModuleName}

/-- **Everything that it brings in is listed when it ends**, if what it was granted before is. -/
theorem exists_mem_imports (h : check.Brings imports permitted granted refusals)
    (hwent : check.Went compatibility known context result context')
    (hgranted : ∀ y ∈ granted, ∃ hash, (y, hash) ∈ context.imports) (hx : imports x) :
    ∃ hash, (x, hash) ∈ context'.imports := by
  induction hwent generalizing granted refusals with
  | done result context =>
    cases h with
    | done _ hall => exact hgranted x (hall x hx)
  | refused error _ ih =>
    cases h with
    | resolve _ _ hrefused => exact ih (hrefused error) hgranted
  | @imported imported next context₁ context₂ context₃ result entry _ hadd _ ih =>
    cases h with
    | resolve _ hnext _ =>
      refine ih (hnext entry.interface) fun y hy => ?_
      obtain ⟨scope, -, rfl⟩ := CheckContext.addImport_eq_ok hadd
      obtain rfl | hy := List.mem_cons.1 hy
      · exact CheckContext.exists_mem_listImport context₁.imports y entry.interface.fullHash
      · obtain ⟨hash, hlisted⟩ := hgranted y hy
        exact ⟨hash, (CheckContext.prefix_listImport _ _ _).subset hlisted⟩
  | context _ ih => cases h with | context hnext => exact ih (hnext _) hgranted
  | setOptions _ ih => cases h with | setOptions hnext => exact ih hnext hgranted
  | warn _ ih => cases h with | warn hnext => exact ih hnext hgranted
  | read reply _ ih => cases h with | read hnext => exact ih (hnext reply) hgranted
  | edit reply _ ih => cases h with | edit _ hnext => exact ih (hnext reply) hgranted
  | note _ ih => cases h with | note hnext => exact ih hnext hgranted

/-- **Nothing else is listed when it ends**, but what was listed before. -/
theorem imports_of_mem (h : check.Brings imports permitted granted refusals)
    (hwent : check.Went compatibility known context result context') {hash : Digest}
    (hx : (x, hash) ∈ context'.imports) : (x, hash) ∈ context.imports ∨ imports x := by
  induction hwent generalizing granted refusals with
  | done => exact .inl hx
  | refused error _ ih =>
    cases h with
    | resolve _ _ hrefused => exact ih (hrefused error) hx
  | @imported imported next context₁ context₂ context₃ result entry _ hadd _ ih =>
    cases h with
    | resolve himports hnext _ =>
      obtain hbefore | himported := ih (hnext entry.interface) hx
      · obtain ⟨scope, -, rfl⟩ := CheckContext.addImport_eq_ok hadd
        obtain hbefore | heq := CheckContext.mem_listImport hbefore
        · exact .inl hbefore
        · rw [(Prod.mk.inj heq).1]
          exact .inr himports
      · exact .inr himported
  | context _ ih => cases h with | context hnext => exact ih (hnext _) hx
  | setOptions _ ih => cases h with | setOptions hnext => exact ih hnext hx
  | warn _ ih => cases h with | warn hnext => exact ih hnext hx
  | read reply _ ih => cases h with | read hnext => exact ih (hnext reply) hx
  | edit reply _ ih => cases h with | edit _ hnext => exact ih (hnext reply) hx
  | note _ ih => cases h with | note hnext => exact ih hnext hx

/-- **A check that has ended lists just the modules that it brings in.** -/
theorem listed_iff (h : check.Brings imports permitted [] []) {options : Options}
    {scope : ImportedScope}
    (hwent : check.Went compatibility known (.start options scope) result context') :
    (∃ hash, (x, hash) ∈ context'.imports) ↔ imports x := by
  constructor
  · rintro ⟨hash, hx⟩
    exact (h.imports_of_mem hwent hx).resolve_left List.not_mem_nil
  · exact h.exists_mem_imports hwent nofun

end Brings

end Check

end ModuleLoader
