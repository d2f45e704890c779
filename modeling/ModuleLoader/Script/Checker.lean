import ModuleLoader.Load.Resolve
import ModuleLoader.Script

/-!
# Checking scripts

The checker of scripts carries out one directive after the other. What the module exports grows line
by line; imports, options and warnings go through requests. A directive that fails ends the check,
and so does an import that cannot be resolved, unless it was only tried.

What a script comes to depends on its text, the mode, the options and the interfaces of its imports,
and on nothing else as long as it leaves files alone.
-/

namespace ModuleLoader

namespace Script

/-- The code of the warnings that scripts report. -/
def warningCode : DiagnosticCode := ⟨100⟩

/-- Names between brackets. -/
def bracketed (names : List String) : String := "[" ++ String.intercalate "," names ++ "]"

/-- The line that describes how far the check of a module has come. -/
def describe (module : ModuleName) (context : CheckContext) : String :=
  s!"show {module} options {bracketed (context.options.enabled.map Flag.name)}" ++
    s!" modules {bracketed context.scope.modules.toList}" ++
    s!" names {bracketed context.scope.names.toList} warnings {context.warnings.length}"

/-- Adds a line to a file that exists. -/
def touchFile (path : Path) : Check Unit := do
  match ← Check.request (.edit fun disk => disk.append path (Bytes.ofText touchMark)) with
  | .ok () => return ()
  | .error fault => Check.fail (.source path fault)

/-- Switches flags of the module. -/
def switchFlags (switches : List (Flag × Bool)) : Check Unit := do
  let context ← Check.request .context
  let options := switches.foldl (fun (o : Options) s => o.set s.1 s.2) context.options
  Check.request (.setOptions options)

/-- **Carries out a directive**, given what the module amounts to so far. -/
def perform (module : ModuleName) (source : SourceFile) (mode : CheckMode) (draft : CheckedModule) :
    Directive → Check CheckedModule
  | .declare name => return { draft with name }
  | .options switches => do
    switchFlags switches
    return draft
  | .bring imported => do
    match ← Check.request (.resolve imported) with
    | .ok i =>
      Check.request (.note s!"import {imported} {bracketed i.exports.scope.toList}")
      return draft
    | .error e => Check.fail e
  | .tryBring imported => do
    match ← Check.request (.resolve imported) with
    | .ok _ => Check.request (.note s!"imported {imported}")
    | .error e => Check.request (.note s!"refused {imported} {e.kind}")
    return draft
  | .define name type =>
    return { draft with exports := { draft.exports with
      scope := NameSet.insert draft.exports.scope name
      signature := draft.exports.signature.insert s!"{module}.{name}" type } }
  | .hidden name =>
    if mode.retainsPrivate then
      return { draft with exports := { draft.exports with
        scope := NameSet.insert draft.exports.scope name } }
    else return draft
  | .incomplete name =>
    return { draft with exports := { draft.exports with
      partialDefinitions := NameSet.insert draft.exports.partialDefinitions name } }
  | .builtin name definition =>
    return { draft with exports := { draft.exports with
      builtins := draft.exports.builtins.insert name definition } }
  | .signature name type =>
    return { draft with exports := { draft.exports with
      signature := draft.exports.signature.insert name type } }
  | .pattern name body =>
    return { draft with exports := { draft.exports with
      patternSynonyms := draft.exports.patternSynonyms.insert name body } }
  | .userWarning name message =>
    return { draft with exports := { draft.exports with
      userWarnings := draft.exports.userWarnings.insert name message } }
  | .display name form =>
    let forms := (draft.exports.displayForms.get? name).getD []
    return { draft with exports := { draft.exports with
      displayForms := draft.exports.displayForms.insert name (forms ++ [form]) } }
  | .warn message => do
    Check.request (.warn ⟨warningCode, message, some module, []⟩)
    return draft
  | .importWarning message => return { draft with importWarning := some message }
  | .reject message => Check.fail (.typeCheck module message)
  | .touchSelf => do
    touchFile source.path
    return draft
  | .touchUntil count => do
    if touches source.text < count then touchFile source.path
    return draft
  | .touch path => do
    touchFile path
    return draft
  | .delete path => do
    let _ ← Check.request (.edit fun disk => disk.removeFile path)
    return draft
  | .report => do
    Check.request (.note (describe module (← Check.request .context)))
    return draft
  | .unknown word => Check.fail (.typeCheck module s!"unknown directive `{word}`")

/-- **The checker of scripts.** -/
def checker : Checker := fun module source mode =>
  (directives source.text).foldlM (perform module source mode) ⟨module, ∅, none⟩

end Script

/-- What sessions that check scripts below some include roots run with. -/
def Setup.scripts (settings : Settings) (roots : List Path) : Setup :=
  ⟨settings, Finder.ofRoots roots, Script.checker, .standard⟩

end ModuleLoader
