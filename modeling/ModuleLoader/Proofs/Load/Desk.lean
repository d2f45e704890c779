import ModuleLoader.Proofs.Load.Unwinding
import ModuleLoader.Proofs.Scope.Register
import ModuleLoader.Script.Checker

/-!
# Imports of a module that is being checked

A module that is being checked lies on a desk: its options, the scope with the imports so far, the list
of these imports, and its warnings. All of it is changed in place. When the checker asks for an import,
the desk lends its loader out to resolve it, and the loader may find artifacts out of date, fork itself,
and check any number of modules with scopes, imports and warnings of their own. Only then does the desk
itself change, one thing after the other: the interface is merged into the tables of the scope, the
module is listed as an import, warnings about its options are added, and then the message that it has
for its importers (`Desk.resolveImport`). A failure leaves everything as it is by then.

So an import changes nothing at the desk but what it should. It adds the one interface, or nothing, and
the loader comes back with the stack and the scope that it was lent out with
(`Desk.resolveImport_adds`).
-/

namespace ModuleLoader

/-- **A desk**, where a module is checked. -/
structure Desk where
  /-- The loader that resolves the imports. -/
  loader : Machine
  /-- The options of the module. -/
  options : Options
  /-- What has been imported, kept table by table. -/
  scope : Register
  /-- The imports in the order in which they were first asked for, each with its full digest. -/
  imports : List (ModuleName × Digest)
  /-- The warnings reported so far. -/
  warnings : List Diagnostic

/-- The desk of a check that has come to some context. -/
def Machine.desk (m : Machine) (context : CheckContext) : Desk :=
  ⟨m, context.options, context.scope.register, context.imports, context.warnings⟩

/-- **What is done at a desk**, with a result of some type. -/
abbrev AtDesk (α : Type) := ExceptT LoadError (StateT Desk Option) α

namespace AtDesk

variable {α β : Type}

/-- Lends the loader out. -/
def lend (exec : Exec α) : AtDesk α :=
  ExceptT.mk fun d => (exec.run.run d.loader).map fun r => (r.1, { d with loader := r.2 })

/-- Changes the scope in place. -/
def onScope (update : Register.Update) : AtDesk Unit :=
  ExceptT.mk fun d =>
    let r := update.run.run d.scope
    some (r.1, { d with scope := r.2 })

/-- Lists an import, unless it is listed. -/
def list (imported : ModuleName) (hash : Digest) : AtDesk Unit :=
  modify fun d =>
    if d.imports.any fun e => e.1 == imported then d
    else { d with imports := d.imports ++ [(imported, hash)] }

/-- Adds warnings. -/
def warn (warnings : List Diagnostic) : AtDesk Unit :=
  modify fun d => { d with warnings := d.warnings ++ warnings }

end AtDesk

namespace Desk

open AtDesk

/-- The interface of an import, and the warnings about its options, which are compared with those of
the module as they are now. -/
def askFor (setup : Setup) (importer : Exec.Importer) (imported : ModuleName) :
    AtDesk (Interface × List Diagnostic) := do
  let d ← get
  let entry ← lend (importer ⟨d.scope.contributions⟩ imported)
  return (entry.interface,
    setup.compatibility.check d.options entry.interface entry.isPrimitive)

/-- **Takes an import in**, with the warnings about its options. -/
def take (imported : ModuleName) (i : Interface) (compatibility : List Diagnostic) :
    AtDesk Interface := do
  onScope (Register.merge i)
  list imported i.fullHash
  warn compatibility
  if let some message := i.importWarning then warn [Diagnostic.ofImportWarning imported message]
  return i

/-- **Resolves an import of the module at the desk.** -/
def resolveImport (setup : Setup) (importer : Exec.Importer) (imported : ModuleName) :
    AtDesk Interface := do
  let (i, compatibility) ← askFor setup importer imported
  take imported i compatibility

variable {setup : Setup} {importer : Exec.Importer} {m : Machine} {context : CheckContext}
  {imported : ModuleName} {entry : VisitedEntry}

/-- What comes of asking for an import: only the loader has changed. -/
theorem run_askFor :
    (askFor setup importer imported).run.run (m.desk context)
      = ((importer context.scope imported).run.run m).map fun r =>
        (r.1.map fun entry => (entry.interface,
          setup.compatibility.check context.options entry.interface entry.isPrimitive),
        r.2.desk context) := by
  unfold askFor
  rw [runs_bind, show (get : AtDesk Desk).run.run (m.desk context)
    = some (.ok (m.desk context), m.desk context) from rfl]
  dsimp only [Option.bind_some]
  rw [runs_bind]
  show (((importer context.scope imported).run.run m).map _).bind _ = _
  cases (importer context.scope imported).run.run m with
  | none => rfl
  | some r =>
    obtain ⟨r | r, m'⟩ := r <;> rfl

/-- An interface is merged into the scope in place, or the desk is left as it is. -/
theorem run_onScope_merge (i : Interface) :
    (onScope (Register.merge i)).run.run (m.desk context) = some (
      match context.scope.merge i with
      | .ok scope => (.ok (), m.desk { context with scope })
      | .error e => (.error e, m.desk context)) := by
  show some (((Register.merge i).run.run context.scope.register).1,
    { m.desk context with scope := ((Register.merge i).run.run context.scope.register).2 }) = _
  rw [ImportedScope.run_merge]
  cases context.scope.merge i <;> rfl

/-- An import is listed. -/
theorem run_list (hash : Digest) :
    (list imported hash).run.run (m.desk context)
      = some (.ok (), m.desk
        { context with imports := CheckContext.listImport context.imports imported hash }) := by
  show some (Except.ok (), if context.imports.any _ then _ else _) = _
  unfold CheckContext.listImport
  split <;> rfl

/-- Warnings are added. -/
theorem run_warn (warnings : List Diagnostic) :
    (warn warnings).run.run (m.desk context)
      = some (.ok (), m.desk { context with warnings := context.warnings ++ warnings }) := rfl

/-- **What is taken in step by step is what an import adds to a context**, all of it or nothing. -/
theorem run_take (compatibility : Compatibility) :
    (take imported entry.interface
        (compatibility.check context.options entry.interface entry.isPrimitive)).run.run
        (m.desk context)
      = some ((context.afterImport compatibility imported (.ok entry)).1,
        m.desk (context.afterImport compatibility imported (.ok entry)).2) := by
  dsimp only [CheckContext.afterImport]
  unfold take CheckContext.addImport CheckContext.importWarnings
  rw [runs_bind, run_onScope_merge]
  cases context.scope.merge entry.interface with
  | error e => rfl
  | ok scope =>
    dsimp only [Option.bind_some]
    rw [runs_bind, run_list]
    dsimp only [Option.bind_some]
    rw [runs_bind, run_warn]
    dsimp only [Option.bind_some]
    cases entry.interface.importWarning with
    | none =>
      rw [Option.map_none, Option.toList_none, List.append_nil]
      rfl
    | some message =>
      dsimp only
      rw [runs_bind, run_warn]
      dsimp only [Option.bind_some]
      rw [List.append_assoc]
      rfl

/-- **To resolve an import at a desk is to import it into the context**: what has come of resolving it
decides on the answer and the context. -/
theorem run_resolveImport :
    (resolveImport setup importer imported).run.run (m.desk context)
      = ((importer context.scope imported).run.run m).map fun r =>
        ((context.afterImport setup.compatibility imported r.1).1,
          r.2.desk (context.afterImport setup.compatibility imported r.1).2) := by
  unfold resolveImport
  rw [runs_bind, run_askFor]
  cases (importer context.scope imported).run.run m with
  | none => rfl
  | some r =>
    obtain ⟨r | entry, m'⟩ := r
    · rfl
    · exact run_take setup.compatibility

end Desk

/-- Options are compared unless that is switched off or the import is built in. -/
theorem Compatibility.check_eq (c : Compatibility) (importer : Options) (i : Interface)
    (isPrimitive : Bool) :
    c.check importer i isPrimitive = if c.enabled = true ∧ isPrimitive = false then
      (missing importer i.options).map (Diagnostic.ofCoinfective · i.name)
        ++ (leaking importer i.options).map (Diagnostic.ofInfective · i.name)
    else [] := by
  unfold check
  cases c.enabled <;> cases isPrimitive <;> rfl

namespace CheckContext

/-- **A context has gained one import and nothing else**: its interface is merged, it is listed if it
was not, and there are warnings about its options, unless these are not compared, and then the message
that it has for all its importers. -/
structure Gains (setup : Setup) (builtIn : Bool) (imported : ModuleName) (i : Interface)
    (context context' : CheckContext) : Prop where
  /-- The options of the module stay. -/
  options : context'.options = context.options
  /-- The one interface is merged. -/
  scope : context.scope.merge i = .ok context'.scope
  /-- The import is listed. -/
  imports : context'.imports = if imported ∈ context.imports.map Prod.fst then context.imports
    else context.imports ++ [(imported, i.fullHash)]
  /-- Warnings are added. -/
  warnings : context'.warnings = context.warnings
    ++ (if setup.settings.checks.optionConsistency = true ∧ builtIn = false then
        (Compatibility.missing context.options i.options).map (Diagnostic.ofCoinfective · i.name)
          ++ (Compatibility.leaking context.options i.options).map (Diagnostic.ofInfective · i.name)
      else [])
    ++ match i.importWarning with
      | some message => [Diagnostic.ofImportWarning imported message]
      | none => []

/-- **What an import adds to a context is all that the context gains.** -/
theorem gains_of_addImport {setup : Setup} {context context' : CheckContext} {imported : ModuleName}
    {entry : VisitedEntry} (h : context.addImport setup.compatibility imported entry = .ok context') :
    context.Gains setup entry.isPrimitive imported entry.interface context' := by
  have ⟨scope, hmerge, hcontext'⟩ := addImport_eq_ok h
  subst hcontext'
  refine ⟨rfl, hmerge, ?_, ?_⟩
  · unfold listImport
    refine if_congr ?_ rfl rfl
    simp
  · show context.warnings ++ (setup.compatibility.check _ _ _ ++ _) = _
    rw [Compatibility.check_eq, ← List.append_assoc]
    cases entry.interface.importWarning <;> rfl

end CheckContext

namespace Setup

variable {setup : Setup} {importer : Importer} {scope : ImportedScope} {target : Target}
  {s : LoadState} {imported : ModuleName}

/-- An interface is obtained for a module that is built in if its target says so. -/
theorem ensures_obtain_isPrimitive :
    (setup.obtain importer scope target).Ensures s
      (fun entry _ => entry.isPrimitive = target.isPrimitive) fun _ _ => True := by
  unfold obtain
  refine Load.ensures_bind.2 (Load.Ensures.trivial.mono (fun r s₁ _ => ?_) fun _ _ => id)
  cases r with
  | ok i => exact Load.ensures_pure.2 rfl
  | error reason =>
    refine Load.ensures_bind.2 (Load.Ensures.trivial.mono (fun i s₂ _ => ?_) fun _ _ => id)
    exact Load.ensures_pure.2 rfl

/-- **Whether a module is built in** says the entry of the module if it is settled. Otherwise the
settings say so. -/
def holdsBuiltIn (setup : Setup) (visited : VisitedCache) (module : ModuleName) : Bool :=
  match visited.get? module with
  | some entry => entry.isPrimitive
  | none => setup.settings.isPrimitive module

/-- A module is settled as built in if it is. -/
theorem ensures_settleImport_isPrimitive :
    (setup.settleImport importer scope imported).Ensures s
      (fun entry _ => entry.isPrimitive = setup.holdsBuiltIn s.caches.visited imported)
      fun _ _ => True := by
  unfold settleImport holdsBuiltIn
  have hlook : (Load.visited? imported).run.run s = some (.ok (s.caches.visited.get? imported), s) :=
    rfl
  refine Load.Ensures.after hlook ?_
  cases s.caches.visited.get? imported with
  | some entry => exact Load.ensures_pure.2 rfl
  | none =>
    refine Load.ensures_bind.2 ((ensures_locate s).mono (fun target s₁ htarget => ?_)
      fun _ _ _ => trivial)
    refine Load.ensures_bind.2 (ensures_obtain_isPrimitive.mono (fun entry s₂ hentry => ?_)
      fun _ _ => id)
    exact Load.Ensures.of_run rfl (hentry.trans htarget.isPrimitive)

/-- **What is imported counts as built in if it is**, whether it had been settled or not. -/
theorem ensures_resolve_isPrimitive (depth : Nat) (stack : ImportStack) :
    (setup.resolve depth stack scope imported).Ensures s
      (fun entry _ => entry.isPrimitive = setup.holdsBuiltIn s.caches.visited imported)
      fun _ _ => True := by
  cases depth with
  | zero => exact Load.ensures_exhausted
  | succ depth =>
    rw [resolve_succ]
    unfold resolveStep entering
    cases stack.push imported with
    | error cycle => exact Load.Ensures.of_failure rfl trivial
    | ok pushed =>
      refine Load.ensures_bind.2 (ensures_settleImport_isPrimitive.mono (fun entry s₁ hentry => ?_)
        fun _ _ => id)
      split
      · exact Load.ensures_pure.2 hentry
      · exact Load.ensures_throw.2 trivial

end Setup

namespace Desk

variable {setup : Setup} {depth : Nat} {m : Machine} {context : CheckContext}
  {imported : ModuleName} {answer : Except LoadError Interface} {after : Desk}

/-- **What has happened at a desk where an import was resolved**: the loader has gone through what
resolving the import takes, and has its stack and scope back, and the rest follows from the answer. -/
theorem resolve_of_run (hnodup : m.stack.Nodup)
    (hrun : (resolveImport setup (Exec.resolve setup depth) imported).run.run (m.desk context)
      = some (answer, after)) :
    ∃ resolved s steps,
      (setup.resolve depth ⟨m.stack, hnodup⟩ context.scope imported).run.run m.loadState
          = some (resolved, s) ∧
        (answer, after) = ((context.afterImport setup.compatibility imported resolved).1,
          (m.after s m.scope steps).desk
            (context.afterImport setup.compatibility imported resolved).2) := by
  have hfollows := (Exec.follows_resolve setup depth ⟨m.stack, hnodup⟩ context.scope imported m
    rfl).runs hnodup
  rw [run_resolveImport] at hrun
  cases hresolve : (setup.resolve depth ⟨m.stack, hnodup⟩ context.scope imported).run.run
      m.loadState with
  | none =>
    rw [hresolve] at hfollows
    rw [show (Exec.resolve setup depth context.scope imported).run.run m = none
      from hfollows] at hrun
    contradiction
  | some p =>
    rw [hresolve] at hfollows
    obtain ⟨r, scope, steps, hexec, ⟨rfl, rfl⟩, -⟩ := hfollows
    rw [hexec] at hrun
    exact ⟨_, p.2, steps, rfl, (Option.some.inj hrun).symm⟩

/-- **An import changes the desk by that import alone.** Let a module be checked at a desk, in any
context, with any modules in progress and any caches and files, and let it ask for an import. However
deep the builds are that this leads to, and whatever comes of it, the loader has its stack and its
scope back, and the options of the module are what they were. If the import fails, so are its scope,
its list of imports and its warnings. If it succeeds, its context has gained the one interface that is
settled for the import now, and was if one was settled before. And the answer and the context are those
of a load that imports a module into a context. -/
theorem resolveImport_adds (hnodup : m.stack.Nodup)
    (hrun : (resolveImport setup (Exec.resolve setup depth) imported).run.run (m.desk context)
      = some (answer, after)) :
    ∃ context', after = after.loader.desk context' ∧
      (setup.importInto (setup.resolve depth ⟨m.stack, hnodup⟩) context imported).run.run m.loadState
        = some (.ok (answer, context'), after.loader.loadState) ∧
      after.loader.stack = m.stack ∧ after.loader.scope = m.scope ∧
      (∀ e, answer = .error e → context' = context) ∧
      ∀ i, answer = .ok i →
        context.Gains setup (setup.holdsBuiltIn m.caches.visited imported) imported i context' ∧
          ∃ entry, after.loader.loadState.Knows imported entry ∧ entry.interface = i ∧
            ∀ known, m.caches.visited.get? imported = some known → known = entry := by
  have ⟨resolved, s, steps, hresolve, hanswer⟩ := resolve_of_run hnodup hrun
  have ⟨hext, hknows⟩ := Setup.knows_of_resolve hresolve
  obtain ⟨rfl, rfl⟩ := Prod.mk.inj hanswer
  refine ⟨_, rfl, ?_, rfl, rfl, fun e => CheckContext.afterImport_of_error, fun i hok => ?_⟩
  · rw [Setup.run_importInto, hresolve]
    rfl
  · have ⟨entry, hresolved, hinterface, hadd⟩ := CheckContext.afterImport_of_ok hok
    have hentry := hknows entry hresolved
    have hbuiltIn : entry.isPrimitive = setup.holdsBuiltIn m.caches.visited imported :=
      Setup.ensures_resolve_isPrimitive depth _ (.ok entry) s (hresolved ▸ hresolve)
    refine ⟨?_, entry, hentry, hinterface, fun known hknown => ?_⟩
    · rw [← hbuiltIn, ← hinterface]
      exact CheckContext.gains_of_addImport hadd
    · exact Option.some.inj ((hext.get? hknown).symm.trans hentry.1)

/-- A directory with two scripts. The first one imports the second, enables a flag that importers have
to enable too, and has a message for them. -/
def warningDisk : Disk :=
  ⟨[(["p"], .directory),
    (["p", "A.lm"], .file (Bytes.ofText "option prop\nimport B\nimport-warning careful")),
    (["p", "B.lm"], .file (Bytes.ofText "def b"))]⟩

set_option maxRecDepth 100000 in
/-- A third module is checked, in safe mode, and imports the first script. To resolve that, both
scripts are checked, the second one below the first, and settled. But the second one is not merged into
the scope of the third module, and there are just the three warnings about the first one. -/
theorem resolveImport_adds_rebuilt :
    ∃ (m : Machine) (context context' : CheckContext) (i : Interface) (after : Desk),
      m.stack.Nodup ∧
      (resolveImport (.scripts {} [⟨"p"⟩]) (Exec.resolve (.scripts {} [⟨"p"⟩]) 3) ⟨"A"⟩).run.run
        (m.desk context) = some (.ok i, after) ∧
      after = after.loader.desk context' ∧
      after.loader.stack = [⟨"C"⟩] ∧ after.loader.scope = m.scope ∧
      context.Gains (.scripts {} [⟨"p"⟩]) false ⟨"A"⟩ i context' ∧
      (∃ moment ∈ after.loader.trail, moment.stack = [⟨"C"⟩, ⟨"A"⟩, ⟨"B"⟩]) ∧
      after.loader.caches.visited.contains ⟨"B"⟩ = true ∧
      after.scope.contributions.map Interface.name = [⟨"A"⟩] ∧
      after.warnings.map Diagnostic.code = [⟨301⟩, ⟨300⟩, ⟨302⟩] := by
  let m : Machine := ⟨[⟨"C"⟩], ∅, ∅, .quiet warningDisk, []⟩
  let context := CheckContext.start (Options.none.set .safe true) ∅
  have hrun : ((resolveImport (.scripts {} [⟨"p"⟩]) (Exec.resolve (.scripts {} [⟨"p"⟩]) 3)
      ⟨"A"⟩).run.run (m.desk context)).map (fun r => (r.1.toOption.isSome,
        r.2.loader.trail.any (fun moment => moment.stack == [⟨"C"⟩, ⟨"A"⟩, ⟨"B"⟩]),
        r.2.loader.caches.visited.contains ⟨"B"⟩,
        r.2.scope.contributions.map Interface.name, r.2.warnings.map Diagnostic.code))
      = some (true, true, true, [⟨"A"⟩], [⟨301⟩, ⟨300⟩, ⟨302⟩]) := by
    decide +kernel
  obtain ⟨⟨answer, after⟩, hrun, heq⟩ := Option.map_eq_some_iff.1 hrun
  simp only [Prod.mk.injEq] at heq
  obtain ⟨hok, htrail, hvisited, hscope, hwarnings⟩ := heq
  obtain ⟨i, rfl⟩ := LoadError.exists_eq_ok hok
  have hnodup : m.stack.Nodup := by decide
  obtain ⟨context', hafter, -, hstack, hmerged, -, hgains⟩ := resolveImport_adds hnodup hrun
  obtain ⟨moment, hmem, hmoment⟩ := List.any_eq_true.1 htrail
  exact ⟨m, context, context', i, after, hnodup, hrun, hafter, hstack, hmerged,
    (hgains i rfl).1, ⟨moment, hmem, by simpa using hmoment⟩, hvisited, hscope, hwarnings⟩

end Desk

end ModuleLoader
