import ModuleLoader.Proofs.Check.Transcript

/-!
# Options that go together

The options of an importer and of its import are compared when the import is resolved, and never
again. What the comparison is about is a preorder (`Options.Accepts`): an import must have the
coinfective flags of its importer, and no infective flags beyond those of its importer. A module
without warnings would thus accept what it imports, but for one thing. A check may switch flags when
some imports have been resolved already, and these were compared with options that are not the ones
that the interface records.

A check that applies its pragmas first (`Check.PragmasFirst`) does not do that. If it ends without
warnings, then each import that it lists was compared with the options that it ends with, and nothing
was found (`Check.Went.accepts_of_mem_imports`).
-/

namespace ModuleLoader

/-! ## The comparison -/

/-- **Options accept those of an import**: the flags that they impose on it are enabled there, and it
has enabled no flags that it would impose on them. -/
structure Options.Accepts (importer imported : Options) : Prop where
  /-- Coinfective flags go down to the import. -/
  coinfective : ∀ f ∈ Flag.coinfective, importer.get f = true → imported.get f = true
  /-- Infective flags come up from it. -/
  infective : ∀ f ∈ Flag.infective, imported.get f = true → importer.get f = true

namespace Options.Accepts

theorem refl (o : Options) : o.Accepts o := ⟨fun _ _ h => h, fun _ _ h => h⟩

/-- What an import accepts is accepted by its importers. -/
theorem trans {o p q : Options} (h : o.Accepts p) (h' : p.Accepts q) : o.Accepts q where
  coinfective f hf ho := h'.coinfective f hf (h.coinfective f hf ho)
  infective f hf hq := h.infective f hf (h'.infective f hf hq)

end Options.Accepts

namespace Compatibility

variable {c : Compatibility} {importer : Options} {imported : Interface}

/-- An import lacks no coinfective flag if it has those of its importer. -/
theorem missing_eq_nil_iff {importer imported : Options} : missing importer imported = [] ↔
    ∀ f ∈ Flag.coinfective, importer.get f = true → imported.get f = true := by
  simp [missing, List.filter_eq_nil_iff]

/-- An importer lacks no infective flag if it has those of its import. -/
theorem leaking_eq_nil_iff {importer imported : Options} : leaking importer imported = [] ↔
    ∀ f ∈ Flag.infective, imported.get f = true → importer.get f = true := by
  simp [leaking, List.filter_eq_nil_iff]

/-- **Options that are compared without a warning** are accepted. -/
theorem check_eq_nil_iff (henabled : c.enabled = true) :
    c.check importer imported false = [] ↔ importer.Accepts imported.options := by
  have hcheck : c.check importer imported false
      = (missing importer imported.options).map (Diagnostic.ofCoinfective · imported.name) ++
        (leaking importer imported.options).map (Diagnostic.ofInfective · imported.name) := by
    unfold check
    rw [henabled]
    rfl
  rw [hcheck, List.append_eq_nil_iff, List.map_eq_nil_iff, List.map_eq_nil_iff, missing_eq_nil_iff,
    leaking_eq_nil_iff]
  exact ⟨fun ⟨hdown, hup⟩ => ⟨hdown, hup⟩, fun ⟨hdown, hup⟩ => ⟨hdown, hup⟩⟩

end Compatibility

namespace Check

/-! ## Pragmas before imports -/

/-- **A check applies its pragmas first**: it changes the options of its module only as long as it has
not asked for an import. -/
inductive PragmasFirst {α : Type} : (asked : Bool) → Check α → Prop where
  /-- It has ended. -/
  | done {asked : Bool} (result : α) : PragmasFirst asked (.done result)
  /-- It has failed. -/
  | fail {asked : Bool} (error : LoadError) : PragmasFirst asked (.fail error)
  /-- It asks for an import, and changes no options any more. -/
  | resolve {asked : Bool} {imported : ModuleName} {next : Except LoadError Interface → Check α} :
      (∀ reply, PragmasFirst true (next reply)) → PragmasFirst asked (.ask (.resolve imported) next)
  /-- It sees the context. -/
  | context {asked : Bool} {next : CheckContext → Check α} :
      (∀ context, PragmasFirst asked (next context)) → PragmasFirst asked (.ask .context next)
  /-- It changes the options, and may do so again. -/
  | setOptions {options : Options} {next : Unit → Check α} :
      PragmasFirst false (next ()) → PragmasFirst false (.ask (.setOptions options) next)
  /-- It reports a warning. -/
  | warn {asked : Bool} {warning : Diagnostic} {next : Unit → Check α} :
      PragmasFirst asked (next ()) → PragmasFirst asked (.ask (.warn warning) next)
  /-- It reads a file. -/
  | read {asked : Bool} {path : Path} {next : Except DiskFault Bytes → Check α} :
      (∀ reply, PragmasFirst asked (next reply)) → PragmasFirst asked (.ask (.read path) next)
  /-- It changes the disk. -/
  | edit {asked : Bool} {change : Disk → Except DiskFault Disk}
      {next : Except DiskFault Unit → Check α} :
      (∀ reply, PragmasFirst asked (next reply)) → PragmasFirst asked (.ask (.edit change) next)
  /-- It leaves a note. -/
  | note {asked : Bool} {text : String} {next : Unit → Check α} :
      PragmasFirst asked (next ()) → PragmasFirst asked (.ask (.note text) next)

namespace Went

variable {α : Type} {compatibility : Compatibility} {known : ModuleName → VisitedEntry → Prop}
  {check : Check α} {context context' : CheckContext} {result : α} {asked : Bool}

/-- Warnings that were reported stay reported. -/
theorem prefix_warnings (h : check.Went compatibility known context result context') :
    context.warnings <+: context'.warnings := by
  induction h with
  | done => exact List.prefix_refl _
  | imported _ hadd _ ih =>
    obtain ⟨scope, -, rfl⟩ := CheckContext.addImport_eq_ok hadd
    exact (List.prefix_append _ _).trans ih
  | warn _ ih => exact (List.prefix_append _ _).trans ih
  | refused _ _ ih | context _ ih | setOptions _ ih | read _ _ ih | edit _ _ ih | note _ ih =>
    exact ih

/-- **Once an import was asked for, the options stay as they are.** -/
theorem options_eq (hpragmas : check.PragmasFirst true)
    (h : check.Went compatibility known context result context') :
    context'.options = context.options := by
  induction h with
  | done => rfl
  | refused error _ ih => cases hpragmas with | resolve hnext => exact ih (hnext _)
  | imported _ hadd _ ih =>
    obtain ⟨scope, -, rfl⟩ := CheckContext.addImport_eq_ok hadd
    cases hpragmas with | resolve hnext => exact ih (hnext _)
  | context _ ih => cases hpragmas with | context hnext => exact ih (hnext _)
  | setOptions _ _ => cases hpragmas
  | warn _ ih => cases hpragmas with | warn hnext => exact ih hnext
  | read reply _ ih => cases hpragmas with | read hnext => exact ih (hnext reply)
  | edit reply _ ih => cases hpragmas with | edit hnext => exact ih (hnext reply)
  | note _ ih => cases hpragmas with | note hnext => exact ih hnext

/-- **Without warnings, the options that a check ends with accept those of every import that it
lists**, if it has applied its pragmas first and the import is not built in. -/
theorem accepts_of_mem_imports (hpragmas : check.PragmasFirst asked)
    (h : check.Went compatibility known context result context')
    (henabled : compatibility.enabled = true) (hnone : context'.warnings = [])
    {e : ModuleName × Digest} (he : e ∈ context'.imports) :
    e ∈ context.imports ∨ ∃ entry, known e.1 entry ∧ entry.interface.fullHash = e.2 ∧
      (entry.isPrimitive = false → context'.options.Accepts entry.interface.options) := by
  induction h generalizing asked with
  | done => exact .inl he
  | refused error _ ih => cases hpragmas with | resolve hnext => exact ih (hnext _) hnone he
  | @imported imported next context₁ context₂ context₃ result entry hknown hadd hrest ih =>
    cases hpragmas with
    | resolve hnext =>
      obtain hbefore | hlater := ih (hnext _) hnone he
      · have hkept := hrest.options_eq (hnext _)
        have hquiet : context₂.warnings = [] := List.prefix_nil.1 (hnone ▸ hrest.prefix_warnings)
        obtain ⟨scope, -, rfl⟩ := CheckContext.addImport_eq_ok hadd
        obtain hbefore | rfl := CheckContext.mem_listImport hbefore
        · exact .inl hbefore
        · -- The comparison was with the options at that time, which are those at the end.
          refine .inr ⟨entry, hknown, rfl, fun hprimitive => ?_⟩
          have hwarnings := (List.append_eq_nil_iff.1 hquiet).2
          have hcompared := (List.append_eq_nil_iff.1 hwarnings).1
          rw [hkept]
          rw [hprimitive] at hcompared
          exact (Compatibility.check_eq_nil_iff henabled).1 hcompared
      · exact .inr hlater
  | context _ ih => cases hpragmas with | context hnext => exact ih (hnext _) hnone he
  | setOptions _ ih => cases hpragmas with | setOptions hnext => exact ih hnext hnone he
  | warn _ ih => cases hpragmas with | warn hnext => exact ih hnext hnone he
  | read reply _ ih => cases hpragmas with | read hnext => exact ih (hnext reply) hnone he
  | edit reply _ ih => cases hpragmas with | edit hnext => exact ih (hnext reply) hnone he
  | note _ ih => cases hpragmas with | note hnext => exact ih hnext hnone he

end Went

end Check

end ModuleLoader
