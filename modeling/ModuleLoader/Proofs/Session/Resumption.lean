import ModuleLoader.Proofs.Load.Carried
import ModuleLoader.Proofs.Session.Failure
import ModuleLoader.Proofs.Session.Settled

/-!
# A session that resumes an earlier one

What was decoded in one session can be carried over into the next. This is to save time and nothing
else: whatever is done in a session that resumes another one, there is no difference to be seen to a
session that starts from scratch on the same disk. What can be seen is the outcome of each load,
what is settled then, which sources are remembered, the scope, and the world: the files on disk and
the journal of what the checkers were called on (`Session.View`).

The disk may be any other than that on which the interfaces were decoded, and others may edit files
between two loads. What is asked of it is that the artifacts on it are whole and sealed
(`Disk.Intact`), as are the interfaces that are carried over, and that checkers and edits leave it
at that. The loader sees to it that its own artifacts are. As interfaces are told apart by digests,
no two of them may have the same one, at no moment at which the loader looks at what is stored.
-/

namespace ModuleLoader

open Load

/-! ## Looking through disks and caches -/

namespace Interface

/-- Whether some interfaces are sealed, and no two of them collide. -/
def areSafe (codec : Codec) (l : List Interface) : Bool :=
  l.all fun i => i.Sealed codec && l.all fun j => !decide (i.Collides codec j)

theorem sealed_of_areSafe {codec : Codec} {l : List Interface} (h : areSafe codec l = true)
    {i : Interface} (hi : i ∈ l) : i.Sealed codec :=
  of_decide_eq_true (Bool.and_eq_true_iff.1 (List.all_eq_true.1 h i hi)).1

/-- Then the digest determines the bytes of those that are among them. -/
theorem injOn_of_areSafe {codec : Codec} {l : List Interface} (h : areSafe codec l = true)
    {interfaces : Set Interface} (hsubset : ∀ i ∈ interfaces, i ∈ l) :
    Set.InjOn Digest.ofBytes (allBytes codec interfaces) := by
  rintro bytes ⟨i, hi, hbytes⟩ bytes' ⟨j, hj, hbytes'⟩ hhash
  by_contra hne
  have hfree := List.all_eq_true.1
    (Bool.and_eq_true_iff.1 (List.all_eq_true.1 h i (hsubset i hi))).2 j (hsubset j hj)
  rw [Bool.not_eq_true', decide_eq_false_iff_not] at hfree
  exact hfree ⟨bytes, bytes', hbytes, hbytes', hne, hhash⟩

end Interface

namespace Disk

/-- The interfaces that files read as, wherever they are. -/
def interfaces (codec : Codec) (d : Disk) : List Interface :=
  d.entries.filterMap fun e =>
    match e.2 with
    | .file content => Artifact.interface? Setup.compilerVersion codec content
    | .directory => none

/-- What is on disk is among these. -/
theorem mem_interfaces_of_onDisk {codec : Codec} {d : Disk} {i : Interface}
    (h : i.OnDisk Setup.compilerVersion codec d) : i ∈ d.interfaces codec := by
  obtain ⟨_, _, _, content, hfile, hinterface⟩ := h
  exact List.mem_filterMap.2 ⟨_, mem_entries_of_at? hfile, hinterface⟩

/-- Whether every file with a header reads as a sealed interface, wherever it is. -/
def isIntact (codec : Codec) (d : Disk) : Bool :=
  d.entries.all fun e =>
    match e.2 with
    | .file content => (Artifact.header? Setup.compilerVersion content).isNone ||
      (Artifact.interface? Setup.compilerVersion codec content).any fun i => i.Sealed codec
    | .directory => true

/-- Then the disk is intact. -/
theorem intact_of_isIntact {codec : Codec} {d : Disk} (h : d.isIntact codec = true) :
    d.Intact codec := by
  intro directory root module content header hfile hheader
  have hentry := List.all_eq_true.1 h _ (mem_entries_of_at? hfile)
  simp only [hheader, Option.isNone_some, Bool.false_or] at hentry
  obtain ⟨i, hinterface, hsealed⟩ := (Option.any_eq_true _ _).1 hentry
  exact ⟨i, hinterface, of_decide_eq_true hsealed⟩

end Disk

namespace Session

/-! ## What is done in a session -/

/-- **Something that is done** while there is a session. -/
inductive Action where
  /-- The session loads a module. -/
  | load (module : ModuleName) (mode : CheckMode)
  /-- Somebody else changes the disk. -/
  | edit (change : Disk → Disk)

/-- **What can be seen of a session when it has loaded a module**: all but what it has decoded. -/
structure View where
  /-- What the load has come to. -/
  result : Except LoadError Loaded
  /-- The settled modules. -/
  visited : VisitedCache
  /-- The sources that are remembered. -/
  sources : SourceCache
  /-- Everything merged so far. -/
  scope : ImportedScope
  /-- The world, with the disk and the journal. -/
  world : World

/-- A way of loading modules. -/
abbrev Loader :=
  Session → ModuleName → CheckMode → World → Option (Except LoadError Loaded × Session × World)

/-- **Does one thing after the other**, and collects what can be seen after each load. -/
def perform (load : Loader) : List Action → Session → World → Option (List View)
  | [], _, _ => some []
  | .edit change :: rest, s, world => perform load rest s { world with disk := change world.disk }
  | .load module mode :: rest, s, world => do
    let (result, s, world) ← load s module mode world
    let views ← perform load rest s world
    return ⟨result, s.caches.visited, s.caches.sources, s.scope, world⟩ :: views

/-- What can be seen of a session, unless more than `depth` imports would be in progress at once. -/
def views (depth : Nat) (actions : List Action) (s : Session) (world : World) :
    Option (List View) :=
  perform (loadWithin depth) actions s world

/-- Loads a module if the disk is of a kind, and is again whenever an import is to be resolved. -/
def loadIf (p : Disk → Prop) [DecidablePred p] (depth : Nat) : Loader :=
  fun s module mode world =>
    if p world.disk then s.loadBy (s.setup.resolveIf (fun _ _ => p) depth) module mode world
    else none

/-- What can be seen of a session as long as the disk is of a kind: loads and resolutions that would
begin on another disk have no outcome. -/
def viewsIf (p : Disk → Prop) [DecidablePred p] (depth : Nat) (actions : List Action) (s : Session)
    (world : World) : Option (List View) :=
  perform (loadIf p depth) actions s world

/-- If all disks are of the kind, that is all that can be seen. -/
theorem loadIf_true (depth : Nat) : loadIf (fun _ => True) depth = loadWithin depth := by
  funext s module mode world
  unfold loadIf
  rw [if_pos trivial, Setup.resolveIf_true, loadWithin_eq_loadBy]

/-! ## Alike sessions -/

/-- **Two sessions are alike**: they differ at most in what was carried over. -/
structure Alike (carried : Set Interface) (world : World) (s t : Session) : Prop where
  /-- They run with the same. -/
  setup : t.setup = s.setup
  /-- The same modules are in progress. -/
  stack : t.stack = s.stack
  /-- The same is merged. -/
  scope : t.scope = s.scope
  /-- They remember the same, apart from what was carried over. -/
  state : LoadState.Alike s.setup.codec carried ⟨s.caches, world⟩ ⟨t.caches, world⟩

variable {carried : Set Interface} {p p' : Disk → Prop} [DecidablePred p] [DecidablePred p']
  {s t s' : Session} {world world' : World}

/-- Two sessions that conclude a load alike are alike. -/
theorem Alike.concluded (h : Alike carried world s t) {state state' : LoadState}
    (halike : LoadState.Alike s.setup.codec carried state state')
    (outcome : Except LoadError (Loaded × ImportedScope)) :
    ∃ result s' t', s.concluded (outcome, state) = (result, s', state.world) ∧
      t.concluded (outcome, state') = (result, t', state.world) ∧
      Alike carried state.world s' t' ∧ s'.setup = s.setup := by
  have hcaches : LoadState.Alike s.setup.codec carried ⟨state.caches, state.world⟩
      ⟨state'.caches, state.world⟩ :=
    ⟨halike.visited, halike.sources, rfl, halike.quiet, halike.intact, halike.decoded⟩
  unfold Session.concluded
  rw [halike.world]
  cases outcome with
  | ok p => exact ⟨_, _, _, rfl, rfl, ⟨h.setup, h.stack, rfl, hcaches⟩, rfl⟩
  | error e => exact ⟨_, _, _, rfl, rfl, ⟨h.setup, h.stack, h.scope, hcaches⟩, rfl⟩

/-- **A load in a session comes to the same in one that is alike**, and leaves the two alike. -/
theorem Alike.loadIf (hsafe : s.setup.CarriesSafely carried p) (hp' : ∀ d, p d → p' d)
    (h : Alike carried world s t) {depth : Nat} {module : ModuleName} {mode : CheckMode}
    {result : Except LoadError Loaded}
    (hload : Session.loadIf p depth s module mode world = some (result, s', world')) :
    ∃ t', Session.loadIf p' depth t module mode world = some (result, t', world') ∧
      Alike carried world' s' t' ∧ s'.setup = s.setup := by
  unfold Session.loadIf at hload
  split at hload
  · rename_i hp
    rw [loadBy_eq_map] at hload
    obtain ⟨⟨outcome, state⟩, hrun, hconcluded⟩ := Option.map_eq_some_iff.1 hload
    have hmirrors : Mirrors s.setup.codec carried
        (Setup.entering s.stack module fun stack => s.setup.loadEntry
          (s.setup.resolveIf (fun _ _ => p) depth stack) (s.scope.forget module) module mode)
        (Setup.entering s.stack module fun stack => s.setup.loadEntry
          (s.setup.resolveIf (fun _ _ => p') depth stack) (s.scope.forget module) module mode)
        ⟨s.caches, world⟩ ⟨t.caches, world⟩ fun _ _ _ => True := by
      unfold Setup.entering
      cases s.stack.push module with
      | error cycle => exact .throw h.state _
      | ok pushed =>
        exact Setup.mirrors_loadEntry (Setup.mirrors_resolveIf hsafe hp' depth pushed) hsafe h.state
          hp _ module mode
    obtain ⟨state', hrun', halike, -⟩ := hmirrors outcome state hrun
    obtain ⟨result', s₁, t₁, hs, ht, hafter, hsetup⟩ := h.concluded halike outcome
    obtain ⟨rfl, hrest⟩ := Prod.mk.inj (hconcluded.symm.trans hs)
    obtain ⟨rfl, rfl⟩ := Prod.mk.inj hrest
    refine ⟨t₁, ?_, hafter, hsetup⟩
    unfold Session.loadIf
    rw [if_pos (hp' _ hp), loadBy_eq_map, h.setup, h.stack, h.scope, hrun', Option.map_some, ht]
  · contradiction

/-- **What can be seen of a session can be seen of one that is alike**, by induction on what is
done. -/
theorem Alike.viewsIf (hsafe : s.setup.CarriesSafely carried p) (hp' : ∀ d, p d → p' d)
    (depth : Nat) {actions : List Action}
    (hedits : ∀ change, .edit change ∈ actions → ∀ d : Disk, d.Intact s.setup.codec →
      (change d).Intact s.setup.codec)
    (h : Alike carried world s t) {views : List View}
    (hviews : s.viewsIf p depth actions world = some views) :
    t.viewsIf p' depth actions world = some views := by
  unfold Session.viewsIf at hviews ⊢
  induction actions generalizing s t world views with
  | nil => exact hviews
  | cons action rest ih =>
    have hrest : ∀ change, .edit change ∈ rest → ∀ d : Disk, d.Intact s.setup.codec →
        (change d).Intact s.setup.codec :=
      fun change hmem => hedits change (List.mem_cons_of_mem _ hmem)
    cases action with
    | edit change =>
      refine ih hsafe hrest ⟨h.setup, h.stack, h.scope, ?_⟩ hviews
      exact h.state.withDisk (hedits change List.mem_cons_self _ h.state.intact)
    | load module mode =>
      obtain ⟨⟨result, s', world'⟩, hload, hviews⟩ := Option.bind_eq_some_iff.1 hviews
      obtain ⟨later, hlater, hviews⟩ := Option.bind_eq_some_iff.1 hviews
      obtain ⟨t', hload', halike, hsetup⟩ := h.loadIf hsafe hp' hload
      have hlater' : perform (Session.loadIf p' depth) rest t' world' = some later :=
        ih (hsetup ▸ hsafe) (hsetup ▸ hrest) halike hlater
      unfold perform
      rw [hload']
      dsimp only [bind, Option.bind_some]
      rw [hlater', halike.scope, halike.state.visited, halike.state.sources]
      exact hviews

/-! ## Resuming a session -/

/-- **Carrying decoded interfaces over is invisible.** Whatever is done in a session that resumes an
earlier one, what can be seen is what can be seen of a session from scratch, as long as both look at
disks on which no digests collide. And if the session from scratch never looks at another disk, this
is all that can be seen of the two. -/
theorem resume_invisible {setup : Setup} {decoded : DecodedCache} {d : Disk}
    {actions : List Action} (hcodec : setup.codec.Faithful)
    (hcheckers : ∀ change, setup.MayEdit change → ∀ d d' : Disk, d.Intact setup.codec →
      change d = .ok d' → d'.Intact setup.codec)
    (hedits : ∀ change, .edit change ∈ actions → ∀ d : Disk, d.Intact setup.codec →
      (change d).Intact setup.codec)
    (hdecoded : ∀ i ∈ decoded.interfaces, i.Sealed setup.codec) (hd : d.Intact setup.codec)
    (hp : ∀ d, p d → Set.InjOn Digest.ofBytes (Interface.allBytes setup.codec
      (decoded.interfaces ∪ { i | i.OnDisk Setup.compilerVersion setup.codec d })))
    (depth : Nat) :
    (resume setup decoded).viewsIf p depth actions (.quiet d)
        = (start setup).viewsIf p depth actions (.quiet d) ∧
      ∀ views, (start setup).viewsIf p depth actions (.quiet d) = some views →
        (start setup).views depth actions (.quiet d) = some views ∧
        (resume setup decoded).views depth actions (.quiet d) = some views := by
  have hsafe : setup.CarriesSafely decoded.interfaces p := ⟨hcodec, hdecoded, hcheckers, hp⟩
  have halike : Alike decoded.interfaces (.quiet d) (start setup) (resume setup decoded) :=
    ⟨rfl, rfl, rfl, rfl, rfl, rfl, rfl, hd, fun module => .inr ⟨nofun, fun i hi => ⟨module, hi⟩⟩⟩
  have halike' : Alike decoded.interfaces (.quiet d) (resume setup decoded) (start setup) :=
    ⟨rfl, rfl, rfl, halike.state.symm⟩
  have hsame : Alike decoded.interfaces (.quiet d) (start setup) (start setup) :=
    ⟨rfl, rfl, rfl, rfl, rfl, rfl, rfl, hd, fun _ => .inl rfl⟩
  refine ⟨Option.ext fun views => ⟨fun hviews => ?_, fun hviews => ?_⟩, fun views hviews => ?_⟩
  · exact halike'.viewsIf hsafe (fun _ => id) depth hedits hviews
  · exact halike.viewsIf hsafe (fun _ => id) depth hedits hviews
  · unfold Session.views
    rw [← loadIf_true]
    exact ⟨hsame.viewsIf hsafe (fun _ _ => trivial) depth hedits hviews,
      halike.viewsIf hsafe (fun _ _ => trivial) depth hedits hviews⟩

/-- The first script has something to define now. -/
def editedDisk (d : Disk) : Disk :=
  d.put ["p", "A.lm"] (.file (Bytes.ofText "import B\ndef more"))

/-- It is checked, everything on disk is put back, and it is checked again, with
its private names. -/
def twice (d : Disk) : List Action :=
  [.load ⟨"A"⟩ .batch, .edit fun _ => d, .load ⟨"A"⟩ (.typeCheck true)]

/-- The interfaces that are kept or can be read. -/
def held (decoded : DecodedCache) (d : Disk) : List Interface :=
  decoded.entries.map Prod.snd ++ d.interfaces Script.plainSetup.codec

set_option maxRecDepth 100000 in
/-- A script has been checked with another one that it imports, and then it is changed. A session
that resumes the one that has decoded both is like a session from scratch: the first script is
checked again, and the second is not. -/
theorem resume_invisible_edited : ∃ (decoded : DecodedCache) (d : Disk) (views : List View),
    (decoded.get? ⟨"B"⟩).isSome = true ∧ d.Intact Script.plainSetup.codec ∧
    (start Script.plainSetup).views 3 (twice d) (.quiet d) = some views ∧
    (resume Script.plainSetup decoded).views 3 (twice d) (.quiet d) = some views ∧
    views.map (fun view => view.world.log) =
      [["check A batch", "import B [open]"],
        ["check A batch", "import B [open]", "check A private", "import B [open]"]] := by
  have hrun : (((start Script.plainSetup).loadWithin 3 ⟨"A"⟩ .batch (.quiet keptDisk)).map fun r =>
      ((r.2.1.caches.decoded.get? ⟨"B"⟩).isSome,
        (editedDisk r.2.2.disk).isIntact Script.plainSetup.codec,
        Interface.areSafe Script.plainSetup.codec
          (held r.2.1.caches.decoded (editedDisk r.2.2.disk)),
        ((start Script.plainSetup).viewsIf (· = editedDisk r.2.2.disk) 3
          (twice (editedDisk r.2.2.disk)) (.quiet (editedDisk r.2.2.disk))).any fun views =>
            views.map (fun view => view.world.log) =
              [["check A batch", "import B [open]"],
                ["check A batch", "import B [open]", "check A private", "import B [open]"]]))
      = some (true, true, true, true) := by
    decide +kernel
  obtain ⟨⟨result, s, world⟩, -, heq⟩ := Option.map_eq_some_iff.1 hrun
  simp only [Prod.mk.injEq] at heq
  obtain ⟨hkept, hintact, hsafe, hviews⟩ := heq
  obtain ⟨views, hviews, hlog⟩ := (Option.any_eq_true _ _).1 hviews
  have hintact' := Disk.intact_of_isIntact hintact
  have hdecoded : ∀ i ∈ s.caches.decoded.interfaces,
      i ∈ held s.caches.decoded (editedDisk world.disk) := by
    rintro i ⟨module, hget⟩
    exact List.mem_append_left _ (List.mem_map.2 ⟨_, mem_of_lookup hget, rfl⟩)
  have honDisk : ∀ d, d = editedDisk world.disk →
      Set.InjOn Digest.ofBytes (Interface.allBytes Script.plainSetup.codec
        (s.caches.decoded.interfaces ∪
          { i | i.OnDisk Setup.compilerVersion Script.plainSetup.codec d })) := by
    rintro _ rfl
    refine Interface.injOn_of_areSafe hsafe ?_
    rintro i (hi | hi)
    · exact hdecoded i hi
    · exact List.mem_append_right _ (Disk.mem_interfaces_of_onDisk hi)
  have hputBack : ∀ change, Action.edit change ∈ twice (editedDisk world.disk) →
      ∀ d : Disk, d.Intact Script.plainSetup.codec →
        (change d).Intact Script.plainSetup.codec := by
    intro change hmem d _
    obtain rfl : change = fun _ => editedDisk world.disk := by simpa [twice] using hmem
    exact hintact'
  obtain ⟨-, hreal⟩ := resume_invisible Script.discreet_plainSetup.faithful
    (fun change hedit => absurd hedit (Script.not_mayEdit_plainSetup change)) hputBack
    (fun i hi => Interface.sealed_of_areSafe hsafe (hdecoded i hi)) hintact' honDisk 3
  obtain ⟨hstart, hresume⟩ := hreal views hviews
  exact ⟨s.caches.decoded, editedDisk world.disk, views, hkept, hintact', hstart, hresume,
    of_decide_eq_true hlog⟩

end Session

end ModuleLoader
