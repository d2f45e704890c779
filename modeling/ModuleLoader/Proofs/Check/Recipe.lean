import ModuleLoader.Proofs.Check.Transcript

/-!
# Checks that follow a recipe

A check may ask for anything and may look at the disk. If what it comes to depends on its options
and on the interfaces of its imports alone, there is a *recipe* for it: the same tree with only
those requests, in which an import has one continuation, for the case that it is granted. A check
follows the recipe (`Check.Follows`) if it asks for what the recipe says, and if files, notes and the
scope make no difference to it.

That nothing else matters can be said without a recipe: two checks agree (`Check.Agrees`) if they
differ only in what a check of this kind does not heed. A check that agrees with another one follows
the recipe of that one (`Check.Agrees.follows`).

A recipe says nothing about imports that are refused. A check may go on without them, and then the
loader records nothing of them. If it does not, it *insists* on its imports (`Check.Insists`), and
what it comes to is what its recipe comes to (`Check.Follows.comes`).

Recipes are what a clean build is made of. What a recipe comes to is determined by what is known of
the modules that it imports (`Recipe.Comes.unique`), and of these only the ones that it lists matter
(`Recipe.Comes.restrict`).
-/

namespace ModuleLoader

/-- **A recipe**: the part of a check that decides about its result. -/
inductive Recipe (α : Type) where
  /-- There is a result. -/
  | done (result : α)
  /-- There is none. -/
  | fail
  /-- A module is imported, and the rest depends on its interface. -/
  | bring (imported : ModuleName) (next : Interface → Recipe α)
  /-- The rest depends on the options. -/
  | see (next : Options → Recipe α)
  /-- The options are changed. -/
  | setOptions (options : Options) (rest : Recipe α)
  /-- A warning is reported. -/
  | warn (warning : Diagnostic) (rest : Recipe α)

/-- What a check puts down on its way, the scope aside. -/
structure Ledger where
  /-- The options of the module. -/
  options : Options
  /-- The imports in order. -/
  imports : List (ModuleName × Digest)
  /-- The warnings. -/
  warnings : List Diagnostic

namespace Ledger

/-- The ledger at the start of a check. -/
def start (options : Options) : Ledger := ⟨options, [], []⟩

/-- The ledger after an import. -/
def addImport (ledger : Ledger) (compatibility : Compatibility) (imported : ModuleName)
    (entry : VisitedEntry) : Ledger where
  options := ledger.options
  imports := CheckContext.listImport ledger.imports imported entry.interface.fullHash
  warnings := ledger.warnings ++
    CheckContext.importWarnings compatibility ledger.options imported entry

end Ledger

/-- The ledger of a context. -/
def CheckContext.ledger (context : CheckContext) : Ledger :=
  ⟨context.options, context.imports, context.warnings⟩

/-- An import that succeeds changes the ledger, whatever becomes of the scope. -/
theorem CheckContext.ledger_of_addImport {compatibility : Compatibility}
    {context context' : CheckContext} {imported : ModuleName} {entry : VisitedEntry}
    (h : context.addImport compatibility imported entry = .ok context') :
    context'.ledger = context.ledger.addImport compatibility imported entry := by
  obtain ⟨scope, -, rfl⟩ := addImport_eq_ok h
  rfl

/-! ## Following a recipe -/

/-- The part of a recipe that a request stands for. Files do not belong to a recipe, and neither do
notes: where a check asks for them, one of the answers is as good as another. -/
def Request.recipe {α : Type} : (request : Request) → (request.Answer → Recipe α) → Recipe α
  | .resolve imported, next => .bring imported fun i => next (.ok i)
  | .context, next => .see fun options => next (.start options ∅)
  | .setOptions options, next => .setOptions options (next ())
  | .warn warning, next => .warn warning (next ())
  | .read _, next => next (.error .notFound)
  | .edit _, next => next (.error .notFound)
  | .note _, next => next ()

namespace Check

/-- **The recipe of a check**: what it asks for if every import is granted. -/
def recipe {α : Type} : Check α → Recipe α
  | .done result => .done result
  | .fail _ => .fail
  | .ask request next => request.recipe fun reply => (next reply).recipe

/-- **A check follows a recipe.** -/
inductive Follows {α : Type} : Check α → Recipe α → Prop where
  /-- Both have a result. -/
  | done (result : α) : Follows (.done result) (.done result)
  /-- Neither has one. -/
  | fail (error : LoadError) : Follows (.fail error) .fail
  /-- Both import a module, and it is granted. -/
  | bring {imported : ModuleName} {next : Except LoadError Interface → Check α}
      {rest : Interface → Recipe α} :
      (∀ i, Follows (next (.ok i)) (rest i)) →
        Follows (.ask (.resolve imported) next) (.bring imported rest)
  /-- Of the context the options matter. -/
  | see {next : CheckContext → Check α} {rest : Options → Recipe α} :
      (∀ context, Follows (next context) (rest context.options)) →
        Follows (.ask .context next) (.see rest)
  /-- Both change the options. -/
  | setOptions {options : Options} {next : Unit → Check α} {rest : Recipe α} :
      Follows (next ()) rest → Follows (.ask (.setOptions options) next) (.setOptions options rest)
  /-- Both report a warning. -/
  | warn {warning : Diagnostic} {next : Unit → Check α} {rest : Recipe α} :
      Follows (next ()) rest → Follows (.ask (.warn warning) next) (.warn warning rest)
  /-- The content of a file does not matter. -/
  | read {path : Path} {next : Except DiskFault Bytes → Check α} {recipe : Recipe α} :
      (∀ reply, Follows (next reply) recipe) → Follows (.ask (.read path) next) recipe
  /-- Whether a change of the disk succeeds does not matter. -/
  | edit {change : Disk → Except DiskFault Disk} {next : Except DiskFault Unit → Check α}
      {recipe : Recipe α} :
      (∀ reply, Follows (next reply) recipe) → Follows (.ask (.edit change) next) recipe
  /-- A note does not matter. -/
  | note {text : String} {next : Unit → Check α} {recipe : Recipe α} :
      Follows (next ()) recipe → Follows (.ask (.note text) next) recipe

/-- **Two checks agree**: they come to the same with the same options and the same interfaces of their
imports. Files, notes, the scope, and the reasons why imports are refused make no difference to
them. -/
inductive Agrees {α : Type} : Check α → Check α → Prop where
  /-- Both have one result. -/
  | done (result : α) : Agrees (.done result) (.done result)
  /-- Both have none. -/
  | fail (error error' : LoadError) : Agrees (.fail error) (.fail error')
  /-- Both import a module. -/
  | resolve {imported : ModuleName} {next next' : Except LoadError Interface → Check α} :
      (∀ i, Agrees (next (.ok i)) (next' (.ok i))) →
      (∀ error error', Agrees (next (.error error)) (next' (.error error'))) →
        Agrees (.ask (.resolve imported) next) (.ask (.resolve imported) next')
  /-- Of the context the options matter. -/
  | context {next next' : CheckContext → Check α} :
      (∀ context context', context.options = context'.options →
        Agrees (next context) (next' context')) → Agrees (.ask .context next) (.ask .context next')
  /-- Both change the options. -/
  | setOptions {options : Options} {next next' : Unit → Check α} : Agrees (next ()) (next' ()) →
      Agrees (.ask (.setOptions options) next) (.ask (.setOptions options) next')
  /-- Both report a warning. -/
  | warn {warning : Diagnostic} {next next' : Unit → Check α} : Agrees (next ()) (next' ()) →
      Agrees (.ask (.warn warning) next) (.ask (.warn warning) next')
  /-- Both read a file, which may be another one. -/
  | read {path path' : Path} {next next' : Except DiskFault Bytes → Check α} :
      (∀ reply reply', Agrees (next reply) (next' reply')) →
        Agrees (.ask (.read path) next) (.ask (.read path') next')
  /-- Both change the disk somehow. -/
  | edit {change change' : Disk → Except DiskFault Disk}
      {next next' : Except DiskFault Unit → Check α} :
      (∀ reply reply', Agrees (next reply) (next' reply')) →
        Agrees (.ask (.edit change) next) (.ask (.edit change') next')
  /-- Both leave a note. -/
  | note {text text' : String} {next next' : Unit → Check α} : Agrees (next ()) (next' ()) →
      Agrees (.ask (.note text) next) (.ask (.note text') next')

/-- **A check that agrees with another one follows the recipe of that one.** -/
theorem Agrees.follows {α : Type} {check check' : Check α} (h : check.Agrees check') :
    check.Follows check'.recipe := by
  induction h with
  | done result => exact .done result
  | fail error _ => exact .fail error
  | resolve _ _ ih _ => exact .bring ih
  | context _ ih => exact .see fun context => ih context (.start context.options ∅) rfl
  | setOptions _ ih => exact .setOptions ih
  | warn _ ih => exact .warn ih
  | read _ ih => exact .read fun reply => ih reply (.error .notFound)
  | edit _ ih => exact .edit fun reply => ih reply (.error .notFound)
  | note _ ih => exact .note ih

/-- **A check without a result**, whatever it is answered from now on. -/
inductive Fails {α : Type} : Check α → Prop where
  /-- It has failed. -/
  | fail (error : LoadError) : Fails (.fail error)
  /-- It asks for something first. -/
  | ask {request : Request} {next : request.Answer → Check α} :
      (∀ reply, Fails (next reply)) → Fails (.ask request next)

/-- **A check insists on its imports**: one that is refused an import comes to nothing. -/
inductive Insists {α : Type} : Check α → Prop where
  /-- It has ended. -/
  | done (result : α) : Insists (.done result)
  /-- It has failed. -/
  | fail (error : LoadError) : Insists (.fail error)
  /-- It imports a module. -/
  | resolve {imported : ModuleName} {next : Except LoadError Interface → Check α} :
      (∀ i, Insists (next (.ok i))) → (∀ error, Fails (next (.error error))) →
        Insists (.ask (.resolve imported) next)
  /-- It sees the context. -/
  | context {next : CheckContext → Check α} :
      (∀ context, Insists (next context)) → Insists (.ask .context next)
  /-- It changes the options. -/
  | setOptions {options : Options} {next : Unit → Check α} :
      Insists (next ()) → Insists (.ask (.setOptions options) next)
  /-- It reports a warning. -/
  | warn {warning : Diagnostic} {next : Unit → Check α} :
      Insists (next ()) → Insists (.ask (.warn warning) next)
  /-- It reads a file. -/
  | read {path : Path} {next : Except DiskFault Bytes → Check α} :
      (∀ reply, Insists (next reply)) → Insists (.ask (.read path) next)
  /-- It changes the disk. -/
  | edit {change : Disk → Except DiskFault Disk} {next : Except DiskFault Unit → Check α} :
      (∀ reply, Insists (next reply)) → Insists (.ask (.edit change) next)
  /-- It leaves a note. -/
  | note {text : String} {next : Unit → Check α} :
      Insists (next ()) → Insists (.ask (.note text) next)

/-- A check without a result has not gone any way to one. -/
theorem Fails.not_went {α : Type} {compatibility : Compatibility}
    {known : ModuleName → VisitedEntry → Prop} {check : Check α} {context context' : CheckContext}
    {result : α} (h : check.Fails) :
    ¬ check.Went compatibility known context result context' := by
  intro hwent
  induction hwent with
  | done => cases h
  | refused e _ ih => cases h with | ask h => exact ih (h (.error e))
  | imported _ _ _ ih => cases h with | ask h => exact ih (h (.ok _))
  | context _ ih => cases h with | ask h => exact ih (h _)
  | setOptions _ ih => cases h with | ask h => exact ih (h ())
  | warn _ ih => cases h with | ask h => exact ih (h ())
  | read reply _ ih => cases h with | ask h => exact ih (h reply)
  | edit reply _ ih => cases h with | ask h => exact ih (h reply)
  | note _ ih => cases h with | ask h => exact ih (h ())

end Check

/-! ## What a recipe comes to -/

namespace Recipe

/-- **What a recipe comes to**: a result, and the ledger then, when everything imported is known. -/
inductive Comes {α : Type} (compatibility : Compatibility)
    (known : ModuleName → VisitedEntry → Prop) : Recipe α → Ledger → α → Ledger → Prop where
  /-- There is a result. -/
  | done (result : α) (ledger : Ledger) :
      Comes compatibility known (.done result) ledger result ledger
  /-- A module is imported. -/
  | bring {imported : ModuleName} {next : Interface → Recipe α} {ledger ledger' : Ledger}
      {result : α} {entry : VisitedEntry} :
      known imported entry →
        Comes compatibility known (next entry.interface)
          (ledger.addImport compatibility imported entry) result ledger' →
        Comes compatibility known (.bring imported next) ledger result ledger'
  /-- The options are seen. -/
  | see {next : Options → Recipe α} {ledger ledger' : Ledger} {result : α} :
      Comes compatibility known (next ledger.options) ledger result ledger' →
        Comes compatibility known (.see next) ledger result ledger'
  /-- The options are changed. -/
  | setOptions {options : Options} {rest : Recipe α} {ledger ledger' : Ledger} {result : α} :
      Comes compatibility known rest { ledger with options } result ledger' →
        Comes compatibility known (.setOptions options rest) ledger result ledger'
  /-- A warning is reported. -/
  | warn {warning : Diagnostic} {rest : Recipe α} {ledger ledger' : Ledger} {result : α} :
      Comes compatibility known rest { ledger with warnings := ledger.warnings ++ [warning] }
          result ledger' →
        Comes compatibility known (.warn warning rest) ledger result ledger'

namespace Comes

variable {α : Type} {compatibility : Compatibility} {known known' : ModuleName → VisitedEntry → Prop}
  {recipe : Recipe α} {ledger ledger' ledger'' : Ledger} {result result' : α}

/-- What comes of little knowledge comes of more. -/
theorem mono (hmono : ∀ x e, known x e → known' x e)
    (h : Comes compatibility known recipe ledger result ledger') :
    Comes compatibility known' recipe ledger result ledger' := by
  induction h with
  | done => exact .done _ _
  | bring hknown _ ih => exact .bring (hmono _ _ hknown) ih
  | see _ ih => exact .see ih
  | setOptions _ ih => exact .setOptions ih
  | warn _ ih => exact .warn ih

/-- **What a recipe comes to is determined** by what is known of its imports. -/
theorem unique (hagree : ∀ x e e', known x e → known' x e' → e = e')
    (h : Comes compatibility known recipe ledger result ledger')
    (h' : Comes compatibility known' recipe ledger result' ledger'') :
    result = result' ∧ ledger' = ledger'' := by
  induction h with
  | done => cases h' with | done => exact ⟨rfl, rfl⟩
  | bring hknown _ ih =>
    cases h' with
    | bring hknown' h' =>
      obtain rfl := hagree _ _ _ hknown hknown'
      exact ih h'
  | see _ ih => cases h' with | see h' => exact ih h'
  | setOptions _ ih => cases h' with | setOptions h' => exact ih h'
  | warn _ ih => cases h' with | warn h' => exact ih h'

/-- What is listed stays listed, and stands first. -/
theorem prefix_imports (h : Comes compatibility known recipe ledger result ledger') :
    ledger.imports <+: ledger'.imports := by
  induction h with
  | done => exact List.prefix_refl _
  | bring _ _ ih => exact (CheckContext.prefix_listImport _ _ _).trans ih
  | see _ ih => exact ih
  | setOptions _ ih => exact ih
  | warn _ ih => exact ih

/-- Warnings that were reported stay reported. -/
theorem prefix_warnings (h : Comes compatibility known recipe ledger result ledger') :
    ledger.warnings <+: ledger'.warnings := by
  induction h with
  | done => exact List.prefix_refl _
  | bring _ _ ih => exact (List.prefix_append _ _).trans ih
  | see _ ih => exact ih
  | setOptions _ ih => exact ih
  | warn _ ih => exact (List.prefix_append _ _).trans ih

/-- **Without warnings a recipe comes to the same**, however options are compared and whatever is
built in, as long as its imports have the same interfaces. -/
theorem eq_of_unwarned {compatibility' : Compatibility}
    (hagree : ∀ x e e', known x e → known' x e' → e.interface = e'.interface)
    (h : Comes compatibility known recipe ledger result ledger')
    (h' : Comes compatibility' known' recipe ledger result' ledger'')
    (hnone : ledger'.warnings = []) (hnone' : ledger''.warnings = []) :
    result = result' ∧ ledger' = ledger'' := by
  induction h with
  | done => cases h' with | done => exact ⟨rfl, rfl⟩
  | @bring imported _ ledger _ _ entry hknown hrest ih =>
    cases h' with
    | @bring _ _ _ _ _ entry' hknown' hrest' =>
      have hsame := hagree _ _ _ hknown hknown'
      -- The import has brought no warnings on either way.
      have hbefore : (ledger.addImport compatibility imported entry).warnings = [] :=
        List.prefix_nil.1 (hnone ▸ hrest.prefix_warnings)
      have hbefore' : (ledger.addImport compatibility' imported entry').warnings = [] :=
        List.prefix_nil.1 (hnone' ▸ hrest'.prefix_warnings)
      have hledger : ledger.addImport compatibility' imported entry'
          = ledger.addImport compatibility imported entry := by
        rw [Ledger.mk.injEq]
        exact ⟨rfl, by simp [Ledger.addImport, hsame], hbefore'.trans hbefore.symm⟩
      rw [hledger, ← hsame] at hrest'
      exact ih hrest' hnone
  | see _ ih => cases h' with | see h' => exact ih h' hnone
  | setOptions _ ih => cases h' with | setOptions h' => exact ih h' hnone
  | warn _ ih => cases h' with | warn h' => exact ih h' hnone

/-- **Two ways through a recipe list the same imports as far as they know them alike**, and one
more: the first import that they know differently. -/
theorem listed_of_agree (h : Comes compatibility known recipe ledger result ledger')
    (h' : Comes compatibility known' recipe ledger result' ledger'')
    {before after : List (ModuleName × Digest)} {y : ModuleName × Digest}
    (hlist : ledger'.imports = before ++ y :: after)
    (hagree : ∀ x e e', (∃ hash, (x, hash) ∈ before) → known x e → known' x e' → e = e') :
    ∀ b ∈ before ++ [y], ∃ hash, (b.1, hash) ∈ ledger''.imports := by
  have hfull : before ++ [y] <+: before ++ y :: after := ⟨after, by rw [List.append_assoc]; rfl⟩
  induction h with
  | done =>
    cases h' with
    | done => exact fun b hb => ⟨b.2, hlist ▸ hfull.subset hb⟩
  | @bring imported _ ledger _ _ entry hknown hrest ih =>
    cases h' with
    | @bring _ _ _ _ _ entry' hknown' hrest' =>
      by_cases hbefore : ∃ hash, (imported, hash) ∈ before
      · obtain rfl := hagree _ _ _ hbefore hknown hknown'
        exact ih hrest' hlist
      · -- All that the two ways need to share is in the list by now.
        have hfirst : CheckContext.listImport ledger.imports imported entry.interface.fullHash
            <+: before ++ y :: after := hlist ▸ hrest.prefix_imports
        have hlong : before.length
            < (CheckContext.listImport ledger.imports imported entry.interface.fullHash).length := by
          refine Nat.lt_of_not_le fun hle => hbefore ?_
          have hshort := List.prefix_of_prefix_length_le hfirst (List.prefix_append _ _) hle
          obtain ⟨hash, hlisted⟩ := CheckContext.exists_mem_listImport ledger.imports imported
            entry.interface.fullHash
          exact ⟨hash, hshort.subset hlisted⟩
        have hshared := List.prefix_of_prefix_length_le hfull hfirst
          (by rw [List.length_append]; exact hlong)
        intro b hb
        obtain ⟨hash, hmem⟩ := CheckContext.exists_mem_listImport_iff.1 ⟨b.2, hshared.subset hb⟩
        exact ⟨hash, hrest'.prefix_imports.subset hmem⟩
  | see _ ih => cases h' with | see h' => exact ih h' hlist
  | setOptions _ ih => cases h' with | setOptions h' => exact ih h' hlist
  | warn _ ih => cases h' with | warn h' => exact ih h' hlist

/-- **Every import that a recipe lists is known**, with the digest that is listed. -/
theorem known_of_mem_imports (h : Comes compatibility known recipe ledger result ledger')
    {e : ModuleName × Digest} (he : e ∈ ledger'.imports) :
    e ∈ ledger.imports ∨ ∃ entry, known e.1 entry ∧ entry.interface.fullHash = e.2 := by
  induction h with
  | done => exact .inl he
  | bring hknown _ ih =>
    obtain hbefore | hnew := ih he
    · obtain hbefore | rfl := CheckContext.mem_listImport hbefore
      · exact .inl hbefore
      · exact .inr ⟨_, hknown, rfl⟩
    · exact .inr hnew
  | see _ ih => exact ih he
  | setOptions _ ih => exact ih he
  | warn _ ih => exact ih he

/-- **Only the imports that are listed matter.** -/
theorem restrict (h : Comes compatibility known recipe ledger result ledger') :
    Comes compatibility (fun x e => known x e ∧ ∃ hash, (x, hash) ∈ ledger'.imports)
      recipe ledger result ledger' := by
  induction h with
  | done => exact .done _ _
  | @bring imported next ledger _ _ entry hknown hrest ih =>
    refine .bring ⟨hknown, ?_⟩ ih
    obtain ⟨hash, hlisted⟩ := CheckContext.exists_mem_listImport ledger.imports imported
      entry.interface.fullHash
    exact ⟨hash, hrest.prefix_imports.subset hlisted⟩
  | see _ ih => exact .see ih
  | setOptions _ ih => exact .setOptions ih
  | warn _ ih => exact .warn ih

end Comes

end Recipe

/-- **A check that follows a recipe and insists on its imports comes to what the recipe comes to.** -/
theorem Check.Follows.comes {α : Type} {compatibility : Compatibility}
    {known : ModuleName → VisitedEntry → Prop} {check : Check α} {recipe : Recipe α}
    {context context' : CheckContext} {result : α} (h : check.Follows recipe) (hinsists : check.Insists)
    (hwent : check.Went compatibility known context result context') :
    recipe.Comes compatibility known context.ledger result context'.ledger := by
  induction hwent generalizing recipe with
  | done => cases h with | done => exact .done _ _
  | refused e hwent _ =>
    cases hinsists with
    | resolve _ hfails => exact absurd hwent (hfails e).not_went
  | imported hknown hadd _ ih =>
    cases hinsists with
    | resolve hinsists _ =>
      cases h with
      | bring h =>
        refine .bring hknown ?_
        rw [← CheckContext.ledger_of_addImport hadd]
        exact ih (h _) (hinsists _)
  | context _ ih =>
    cases hinsists with
    | context hinsists => cases h with | see h => exact .see (ih (h _) (hinsists _))
  | setOptions _ ih =>
    cases hinsists with
    | setOptions hinsists => cases h with | setOptions h => exact .setOptions (ih h hinsists)
  | warn _ ih =>
    cases hinsists with
    | warn hinsists => cases h with | warn h => exact .warn (ih h hinsists)
  | read reply _ ih =>
    cases hinsists with
    | read hinsists => cases h with | read h => exact ih (h reply) (hinsists reply)
  | edit reply _ ih =>
    cases hinsists with
    | edit hinsists => cases h with | edit h => exact ih (h reply) (hinsists reply)
  | note _ ih =>
    cases hinsists with
    | note hinsists => cases h with | note h => exact ih h hinsists

end ModuleLoader
