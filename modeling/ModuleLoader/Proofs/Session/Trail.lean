import ModuleLoader.Proofs.Project.Imports
import ModuleLoader.Proofs.Session.Undisturbed

/-!
# The trail of a load

What a part of a load leaves behind is told by two lists: the modules that it has settled, with their
entries, and the modules that checkers were called on. The two belong together (`Season.Trail`). A
module is checked only if it is settled then, and once; it is checked just if its artifact did not
read as the interface that it is settled with; and afterwards its artifact does, if interfaces are
written and there were no warnings. The artifacts of all other modules read as before.

Trails of two parts, one after the other, make a trail of both (`Season.Trail.trans`). A module in
progress is not settled yet, but it may have been checked, and its artifact written. It is the
trail's *own* for so long, and joins the others when it is settled (`Season.Trail.settle`).
-/

namespace ModuleLoader

open Relation

/-- The modules that checkers were called on, in order. -/
def World.checks (w : World) : List ModuleName :=
  w.journal.filterMap fun
    | .checking module _ => some module
    | _ => none

/-- A record of one more call of a checker. -/
theorem World.checks_record_checking (w : World) (module : ModuleName) (mode : CheckMode) :
    (w.record (.checking module mode)).checks = w.checks ++ [module] :=
  List.filterMap_append

/-- A note is no call. -/
theorem World.checks_record_note (w : World) (text : String) :
    (w.record (.note text)).checks = w.checks :=
  List.filterMap_append.trans (List.append_nil _)

/-- Neither is it one that a module is settled. -/
theorem World.checks_record_settled (w : World) (module : ModuleName) :
    (w.record (.settled module)).checks = w.checks :=
  List.filterMap_append.trans (List.append_nil _)

namespace Season

/-- **The trail of a part of a load**: the modules that it has settled and those that were checked.
The modules of its own are still in progress, and everything that it has settled is reached from its
roots. -/
structure Trail (season : Season) (own roots : Set ModuleName) (s s' : LoadState)
    (new : List (ModuleName × VisitedEntry)) (checked : List ModuleName) : Prop where
  /-- These were settled, one after the other. -/
  entries : s'.caches.visited.entries = s.caches.visited.entries ++ new
  /-- These were checked. -/
  checks : s'.world.checks = s.world.checks ++ checked
  /-- None of the modules had been settled before. -/
  unsettled : ∀ e ∈ new, s.caches.visited.get? e.1 = none
  /-- None of them is still in progress. -/
  ended : ∀ e ∈ new, e.1 ∉ own
  /-- They are settled as they are derived. -/
  derives : ∀ e ∈ new, season.toolchain.Derives season.edition e.1 e.2
  /-- They are reached from the roots. -/
  reached : ∀ e ∈ new, ∃ root ∈ roots,
    ReflTransGen (season.toolchain.Imports season.edition) root e.1
  /-- No module was checked twice. -/
  nodup : checked.Nodup
  /-- What was checked has been settled, or is in progress. -/
  accounted : ∀ x ∈ checked, x ∈ own ∨ ∃ e ∈ new, e.1 = x
  /-- No module was checked whose artifact was up to date. -/
  rechecked : ∀ e ∈ new, e.1 ∈ checked →
    ¬ season.setup.Holds s.world.disk e.1 e.2.interface
  /-- No module was left unchecked whose artifact was not. -/
  reused : ∀ e ∈ new, e.1 ∉ checked → ∀ j, season.setup.Holds s.world.disk e.1 j →
    j = e.2.interface
  /-- What was settled without warnings is on disk. -/
  stored : season.setup.settings.build.writeInterfaces = true → ∀ e ∈ new,
    e.2.hasWarnings = false → season.setup.Holds s'.world.disk e.1 e.2.interface
  /-- The artifacts of other modules were left alone. -/
  frame : ∀ x ∈ season.modules, x ∉ own → (∀ e ∈ new, e.1 ≠ x) → ∀ j,
    season.setup.Holds s.world.disk x j → season.setup.Holds s'.world.disk x j

namespace Trail

variable {season : Season} {own roots : Set ModuleName} {s s₁ s₂ s₃ : LoadState}
  {new new₁ new₂ : List (ModuleName × VisitedEntry)} {checked checked₁ checked₂ : List ModuleName}

/-- Nothing has happened. -/
theorem refl (s : LoadState) : season.Trail own roots s s [] [] where
  entries := (List.append_nil _).symm
  checks := (List.append_nil _).symm
  unsettled := nofun
  ended := nofun
  derives := nofun
  reached := nofun
  nodup := .nil
  accounted := nofun
  rechecked := nofun
  reused := nofun
  stored := nofun
  frame _ _ _ _ _ := id

/-- A checker is called on a module in progress. -/
theorem checking (s : LoadState) (module : ModuleName) (mode : CheckMode) :
    season.Trail {module} roots s (s.record (.checking module mode)) [] [module] :=
  { refl s with
    checks := s.world.checks_record_checking module mode
    nodup := List.pairwise_singleton _ module
    accounted := fun _ hx => .inl (List.mem_singleton.1 hx)
    rechecked := nofun
    reused := nofun }

/-- Afterwards nothing changes but artifacts of modules in progress. -/
theorem congr (h : season.Trail own roots s₁ s₂ new checked)
    (hvisited : s₃.caches.visited = s₂.caches.visited)
    (hchecks : s₃.world.checks = s₂.world.checks)
    (hframe : ∀ x ∈ season.modules, x ∉ own → ∀ j, season.setup.Holds s₂.world.disk x j →
      season.setup.Holds s₃.world.disk x j) :
    season.Trail own roots s₁ s₃ new checked :=
  { h with
    entries := by rw [hvisited, h.entries]
    checks := by rw [hchecks, h.checks]
    stored := fun hwrite e he hwarnings =>
      hframe e.1 (h.derives e he).mem (h.ended e he) _ (h.stored hwrite e he hwarnings)
    frame := fun x hx hnot hother j hholds =>
      hframe x hx hnot j (h.frame x hx hnot hother j hholds) }

/-- Before a trail begins nothing of interest has changed. -/
theorem since (h : season.Trail own roots s₁ s₂ new checked)
    (hvisited : s₁.caches.visited = s.caches.visited)
    (hchecks : s₁.world.checks = s.world.checks) (hdisk : s₁.world.disk = s.world.disk) :
    season.Trail own roots s s₂ new checked :=
  { h with
    entries := by rw [h.entries, hvisited]
    checks := by rw [h.checks, hchecks]
    unsettled := hvisited ▸ h.unsettled
    rechecked := hdisk ▸ h.rechecked
    reused := hdisk ▸ h.reused
    frame := hdisk ▸ h.frame }

/-- A module with an entry among those settled is not unsettled. -/
theorem ne_of_mem (h : season.Trail own roots s₁ s₂ new checked) {e : ModuleName × VisitedEntry}
    (he : e ∈ new) {x : ModuleName} (hx : s₂.caches.visited.get? x = none) : e.1 ≠ x := by
  rintro rfl
  unfold VisitedCache.get? at hx
  rw [h.entries, List.lookup_eq_none_iff] at hx
  exact absurd (beq_self_eq_true e.1) (by simpa using hx e (List.mem_append_right _ he))

/-- What is known stays known. -/
theorem knows (h : season.Trail own roots s₁ s₂ new checked) {x : ModuleName} {entry : VisitedEntry}
    (hknows : s₁.Knows x entry) : s₂.Knows x entry := by
  refine ⟨?_, hknows.2⟩
  show s₂.caches.visited.entries.lookup x = some entry
  rw [h.entries, List.lookup_append, show s₁.caches.visited.entries.lookup x = some entry from
    hknows.1]
  rfl

/-- What is not settled afterwards was not settled before. -/
theorem get?_eq_none (h : season.Trail own roots s₁ s₂ new checked) {x : ModuleName}
    (hx : s₂.caches.visited.get? x = none) : s₁.caches.visited.get? x = none := by
  unfold VisitedCache.get? at hx ⊢
  rw [h.entries, List.lookup_append] at hx
  exact (Option.or_eq_none_iff.1 hx).1

/-- A module that is neither in progress nor among those settled was not checked. -/
theorem not_mem_checked (h : season.Trail own roots s₁ s₂ new checked) {x : ModuleName}
    (hown : x ∉ own) (hnew : ∀ e ∈ new, e.1 ≠ x) : x ∉ checked := by
  intro hmem
  obtain hmine | ⟨e, he, heq⟩ := h.accounted x hmem
  · exact hown hmine
  · exact hnew e he heq

/-- **Two parts of a load settle different modules**: what is settled is not settled again. -/
theorem apart (h₁ : season.Trail own roots s₁ s₂ new₁ checked₁)
    (h₂ : season.Trail own roots s₂ s₃ new₂ checked₂) : ∀ e ∈ new₁, ∀ e' ∈ new₂, e.1 ≠ e'.1 :=
  fun _ he e' he' => h₁.ne_of_mem he (h₂.unsettled e' he')

/-- **The trails of two parts of a load make the trail of both**, if no module in progress was
checked in both. -/
theorem trans (h₁ : season.Trail own roots s₁ s₂ new₁ checked₁)
    (h₂ : season.Trail own roots s₂ s₃ new₂ checked₂)
    (hown : ∀ x ∈ own, x ∈ checked₁ → x ∉ checked₂) :
    season.Trail own roots s₁ s₃ (new₁ ++ new₂) (checked₁ ++ checked₂) := by
  have hapart := h₁.apart h₂
  -- What one part has settled was not checked in the other one.
  have hfirst : ∀ e ∈ new₁, e.1 ∉ checked₂ := fun e he =>
    h₂.not_mem_checked (h₁.ended e he) fun e' he' => (hapart e he e' he').symm
  have hsecond : ∀ e ∈ new₂, e.1 ∉ checked₁ := fun e he =>
    h₁.not_mem_checked (h₂.ended e he) fun e' he' => hapart e' he' e he
  -- What the first part left alone is as it was when the second part began.
  have hkept : ∀ e ∈ new₂, ∀ j, season.setup.Holds s₁.world.disk e.1 j →
      season.setup.Holds s₂.world.disk e.1 j := fun e he =>
    h₁.frame e.1 (h₂.derives e he).mem (h₂.ended e he) fun e' he' => hapart e' he' e he
  constructor
  case entries => rw [h₂.entries, h₁.entries, List.append_assoc]
  case checks => rw [h₂.checks, h₁.checks, List.append_assoc]
  case unsettled =>
    exact List.forall_mem_append.2
      ⟨h₁.unsettled, fun e he => h₁.get?_eq_none (h₂.unsettled e he)⟩
  case ended => exact List.forall_mem_append.2 ⟨h₁.ended, h₂.ended⟩
  case derives => exact List.forall_mem_append.2 ⟨h₁.derives, h₂.derives⟩
  case reached => exact List.forall_mem_append.2 ⟨h₁.reached, h₂.reached⟩
  case nodup =>
    refine List.nodup_append.2 ⟨h₁.nodup, h₂.nodup, ?_⟩
    rintro x hx y hy rfl
    obtain hmine | ⟨e, he, rfl⟩ := h₁.accounted x hx
    · exact hown x hmine hx hy
    · exact hfirst e he hy
  case accounted =>
    intro x hx
    obtain hx | hx := List.mem_append.1 hx
    · obtain hmine | ⟨e, he, heq⟩ := h₁.accounted x hx
      · exact .inl hmine
      · exact .inr ⟨e, List.mem_append_left _ he, heq⟩
    · obtain hmine | ⟨e, he, heq⟩ := h₂.accounted x hx
      · exact .inl hmine
      · exact .inr ⟨e, List.mem_append_right _ he, heq⟩
  case rechecked =>
    intro e he hmem
    obtain he | he := List.mem_append.1 he
    · exact h₁.rechecked e he ((List.mem_append.1 hmem).resolve_right (hfirst e he))
    · refine fun hholds => h₂.rechecked e he ?_ (hkept e he _ hholds)
      exact (List.mem_append.1 hmem).resolve_left (hsecond e he)
  case reused =>
    intro e he hmem j hholds
    obtain he | he := List.mem_append.1 he
    · exact h₁.reused e he (fun h => hmem (List.mem_append_left _ h)) j hholds
    · exact h₂.reused e he (fun h => hmem (List.mem_append_right _ h)) j (hkept e he j hholds)
  case stored =>
    intro hwrite e he hwarnings
    obtain he | he := List.mem_append.1 he
    · exact h₂.frame e.1 (h₁.derives e he).mem (h₁.ended e he)
        (fun e' he' => (hapart e he e' he').symm) _ (h₁.stored hwrite e he hwarnings)
    · exact h₂.stored hwrite e he hwarnings
  case frame =>
    intro x hx hnot hother j hholds
    refine h₂.frame x hx hnot (fun e he => hother e (List.mem_append_right _ he)) j ?_
    exact h₁.frame x hx hnot (fun e he => hother e (List.mem_append_left _ he)) j hholds

/-- What is reached from some roots is reached from these and others. -/
theorem mono {roots' : Set ModuleName} (h : season.Trail own roots s₁ s₂ new checked)
    (hroots : roots ⊆ roots') : season.Trail own roots' s₁ s₂ new checked :=
  { h with
    reached := fun e he => by
      obtain ⟨root, hroot, hreaches⟩ := h.reached e he
      exact ⟨root, hroots hroot, hreaches⟩ }

/-- While a module is in progress it is not settled. -/
theorem owning {own' : Set ModuleName} (h : season.Trail ∅ roots s₁ s₂ new checked)
    (hown : ∀ e ∈ new, e.1 ∉ own') : season.Trail own' roots s₁ s₂ new checked :=
  { h with
    ended := hown
    accounted := fun x hx => .inr ((h.accounted x hx).resolve_left id)
    frame := fun x hx _ => h.frame x hx id }

/-- **A module is checked, and its check brings in others**: the trail of both begins with the module
itself. -/
theorem after_checking {module : ModuleName} {mode : CheckMode}
    (h : season.Trail ∅ roots (s.record (.checking module mode)) s₁ new checked)
    (hnew : ∀ e ∈ new, e.1 ≠ module) :
    season.Trail {module} roots s s₁ new (module :: checked) := by
  refine (Trail.checking s module mode).trans (h.owning hnew) ?_
  rintro x rfl -
  exact h.not_mem_checked id hnew

/-- The modules that a part of a load settles are none of those in progress. -/
theorem not_mem_frames (h : season.Trail own roots s₁ s₂ new checked) {frames : List ModuleName}
    (hextends : LoadState.Extends frames s₁ s₂) : ∀ e ∈ new, e.1 ∉ frames := by
  obtain ⟨new', heq, hnew'⟩ := hextends
  rw [h.entries] at heq
  rw [List.append_cancel_left heq]
  exact hnew'

end Trail

/-! ## Settling a module -/

/-- **A module in progress is ready to be settled** with an entry: whether it was checked tells
whether its artifact was up to date, and if it has no warnings, its artifact is up to date now. -/
structure Ready (season : Season) (module : ModuleName) (entry : VisitedEntry) (s s' : LoadState)
    (new : List (ModuleName × VisitedEntry)) (checked : List ModuleName) : Prop where
  /-- The entry is the one that is derived. -/
  derives : season.toolchain.Derives season.edition module entry
  /-- The trail so far, from the imports of the module. -/
  trail : season.Trail {module} {x | season.toolchain.Imports season.edition module x} s s' new
    checked
  /-- It was not checked if its artifact was up to date. -/
  rechecked : module ∈ checked → ¬ season.setup.Holds s.world.disk module entry.interface
  /-- It was checked if its artifact was not. -/
  reused : module ∉ checked → ∀ j, season.setup.Holds s.world.disk module j → j = entry.interface
  /-- Its artifact is up to date. -/
  stored : season.setup.settings.build.writeInterfaces = true → entry.hasWarnings = false →
    season.setup.Holds s'.world.disk module entry.interface

namespace Trail

variable {season : Season} {roots : Set ModuleName} {s s₁ s₂ : LoadState}
  {new new' : List (ModuleName × VisitedEntry)} {checked checked' : List ModuleName}
  {module : ModuleName} {entry : VisitedEntry}

/-- **A module whose artifact is up to date is ready** once its imports have been compared. -/
theorem ready_of_reuse (h : season.Trail ∅ roots s s₁ new checked)
    (hnew : ∀ e ∈ new, e.1 ≠ module)
    (hderives : season.toolchain.Derives season.edition module entry)
    (hroots : ∀ x ∈ roots, season.toolchain.Imports season.edition module x)
    (hholds : season.setup.Holds s.world.disk module entry.interface) :
    season.Ready module entry s s₁ new checked where
  derives := hderives
  trail := (h.mono hroots).owning hnew
  rechecked hmem := absurd hmem (h.not_mem_checked id hnew)
  reused _ _ hj := hj.unique hholds
  stored _ _ := h.frame module hderives.mem id hnew _ hholds

/-- **A module whose artifact is not up to date is ready** once it has been built. -/
theorem ready_of_build (h : season.Trail ∅ roots s s₁ new checked)
    (hnew : ∀ e ∈ new, e.1 ≠ module)
    (hderives : season.toolchain.Derives season.edition module entry)
    (hroots : ∀ x ∈ roots, season.toolchain.Imports season.edition module x)
    (hstale : ¬ season.setup.Holds s.world.disk module entry.interface)
    (hbuilt : season.Trail {module} {x | entry.interface.Lists x} s₁ s₂ new' (module :: checked'))
    (hstored : season.setup.settings.build.writeInterfaces = true → entry.hasWarnings = false →
      season.setup.Holds s₂.world.disk module entry.interface) :
    season.Ready module entry s s₂ (new ++ new') (checked ++ module :: checked') where
  derives := hderives
  trail := by
    have himports : season.Trail {module} {x | season.toolchain.Imports season.edition module x} s₁
        s₂ new' (module :: checked') := hbuilt.mono fun _ hlists => hderives.imports_iff.2 hlists
    refine ((h.mono hroots).owning hnew).trans himports ?_
    rintro x rfl hmem
    exact absurd hmem (h.not_mem_checked id hnew)
  rechecked _ := hstale
  reused hmem := absurd (List.mem_append_right _ List.mem_cons_self) hmem
  stored := hstored

end Trail

/-- **A module that is ready is settled**: it joins the modules that the trail has settled. -/
theorem Ready.settle {season : Season} {s s' : LoadState}
    {new : List (ModuleName × VisitedEntry)} {checked : List ModuleName} {module : ModuleName}
    {entry : VisitedEntry} (h : season.Ready module entry s s' new checked)
    (hunsettled : s'.caches.visited.get? module = none) :
    season.Trail ∅ {module} s ((s'.settle module entry).record (.settled module))
      (new ++ [(module, entry)]) checked := by
  have hcases : ∀ e ∈ new ++ [(module, entry)], e ∈ new ∨ e = (module, entry) := fun e he =>
    (List.mem_append.1 he).imp_right List.mem_singleton.1
  constructor
  case entries =>
    show (s'.settle module entry).caches.visited.entries = _
    rw [LoadState.entries_settle hunsettled, h.trail.entries, List.append_assoc]
  case checks =>
    show (s'.world.record (.settled module)).checks = _
    rw [World.checks_record_settled, h.trail.checks]
  case unsettled =>
    intro e he
    obtain he | rfl := hcases e he
    · exact h.trail.unsettled e he
    · exact h.trail.get?_eq_none hunsettled
  case ended => exact fun _ _ => id
  case derives =>
    intro e he
    obtain he | rfl := hcases e he
    · exact h.trail.derives e he
    · exact h.derives
  case reached =>
    intro e he
    refine ⟨module, rfl, ?_⟩
    obtain he | rfl := hcases e he
    · obtain ⟨root, hroot, hreaches⟩ := h.trail.reached e he
      exact .head hroot hreaches
    · exact .refl
  case nodup => exact h.trail.nodup
  case accounted =>
    intro x hx
    obtain hmine | ⟨e, he, heq⟩ := h.trail.accounted x hx
    · exact .inr ⟨_, List.mem_append_right _ (List.mem_singleton_self _), hmine.symm⟩
    · exact .inr ⟨e, List.mem_append_left _ he, heq⟩
  case rechecked =>
    intro e he
    obtain he | rfl := hcases e he
    · exact h.trail.rechecked e he
    · exact h.rechecked
  case reused =>
    intro e he
    obtain he | rfl := hcases e he
    · exact h.trail.reused e he
    · exact h.reused
  case stored =>
    intro hwrite e he
    obtain he | rfl := hcases e he
    · exact h.trail.stored hwrite e he
    · exact h.stored hwrite
  case frame =>
    intro x hx _ hother j
    refine h.trail.frame x hx ?_ (fun e he => hother e (List.mem_append_left _ he)) j
    rintro rfl
    exact hother (x, entry) (List.mem_append_right _ (List.mem_singleton_self _)) rfl

end Season

end ModuleLoader
