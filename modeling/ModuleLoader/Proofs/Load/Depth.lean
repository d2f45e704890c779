import Mathlib.Data.Finset.Card
import ModuleLoader.Proofs.Load.Conditional
import ModuleLoader.Proofs.Load.Returns

/-!
# How deep a load goes

A module whose resolution is in progress is not entered again. So along any chain of nested
resolutions there are fewer and fewer modules left to enter, and if only finitely many may be asked
for, the chain ends: a depth that exceeds what is left is enough for an outcome
(`Setup.Contract.returnsOn_resolve`), and any other such depth leads to the same one.

Which modules may be asked for is the business of a contract, as is the invariant that keeps it so.
The resolutions can be put under a condition that all chains meet which begin with some stack
(`Setup.Contract.sameOn_resolveIf`); this is how something is said of the chains themselves.
-/

namespace ModuleLoader

open Load

namespace ImportStack

variable {stack pushed : ImportStack} {module : ModuleName} {names : Finset ModuleName}

/-- **The modules that are left to enter** among some names. -/
def left (stack : ImportStack) (names : Finset ModuleName) : Finset ModuleName :=
  names.filter (· ∉ stack.frames)

/-- **Entering a module leaves fewer.** -/
theorem card_left_lt (h : stack.push module = .ok pushed) (hmem : module ∈ names) :
    (pushed.left names).card < (stack.left names).card := by
  have hframes := frames_of_push h
  refine Finset.card_lt_card (Finset.ssubset_iff_of_subset ?_ |>.2 ⟨module, ?_, ?_⟩)
  · intro x hx
    obtain ⟨hname, hnot⟩ := Finset.mem_filter.1 hx
    rw [hframes] at hnot
    exact Finset.mem_filter.2 ⟨hname, fun h => hnot (List.mem_append_left _ h)⟩
  · exact Finset.mem_filter.2 ⟨hmem, notMem_of_push h⟩
  · intro hx
    refine (Finset.mem_filter.1 hx).2 ?_
    rw [hframes]
    exact List.mem_append_right _ (List.mem_singleton_self module)

end ImportStack

namespace Importer

variable {inv : LoadState → Prop} {wanted : ModuleName → Prop} {importer : Importer}

/-- **A way of importing returns** wherever an invariant holds, asked for modules that may be asked
for. -/
def ReturnsOn (inv : LoadState → Prop) (wanted : ModuleName → Prop) (importer : Importer) : Prop :=
  ∀ scope module s, wanted module → inv s → ∃ r, (importer scope module).run.run s = some r

/-- The way of importing that fails where another one has no outcome. -/
def orFail (importer : Importer) (e : LoadError) : Importer :=
  fun scope module => (importer scope module).orFail e

theorem returns_orFail (importer : Importer) (e : LoadError) (scope : ImportedScope)
    (module : ModuleName) : (importer.orFail e scope module).Returns :=
  Load.returns_orFail e (importer scope module)

/-- Where a way of importing returns, one that always does is the same. -/
theorem ReturnsOn.sameOn_orFail (h : importer.ReturnsOn inv wanted) (e : LoadError) :
    importer.SameOn inv wanted (importer.orFail e) := by
  intro scope module s hwanted hs
  obtain ⟨r, hr⟩ := h scope module s hwanted hs
  exact run_orFail hr

end Importer

namespace Setup

namespace Contract

variable {setup : Setup} {inv : LoadState → Prop} (c : setup.Contract inv)
  {names : Finset ModuleName} (hnames : ∀ module, c.rule.wanted module → module ∈ names)

include c hnames

/-- **A resolution has an outcome if it may go deeper than there are modules left**, by induction on
the depth. -/
theorem returnsOn_resolve {depth : Nat} {stack : ImportStack}
    (hdepth : (stack.left names).card < depth) :
    (setup.resolve depth stack).ReturnsOn inv c.rule.wanted := by
  induction depth generalizing stack with
  | zero => exact absurd hdepth (Nat.not_lt_zero _)
  | succ depth ih =>
    intro scope module s hwanted hs
    rw [resolve_succ]
    unfold Setup.resolveStep entering
    cases hpush : stack.push module with
    | error cycle => exact ⟨(.error (.importCycle cycle), s), rfl⟩
    | ok pushed =>
      have hleft : (pushed.left names).card < depth :=
        Nat.lt_of_lt_of_le (ImportStack.card_left_lt hpush (hnames module hwanted))
          (Nat.le_of_lt_succ hdepth)
      -- Where it matters the next level returns, so it may as well be one that always does.
      have hreturns : (setup.settleImport ((setup.resolve depth pushed).orFail (.importCycle ⟨[]⟩))
          scope module).Returns :=
        returns_settleImport ((setup.resolve depth pushed).returns_orFail _) scope module
      have hsame := (ih hleft).sameOn_orFail (.importCycle ⟨[]⟩)
      obtain ⟨⟨result, s'⟩, hrun⟩ := hreturns s
      rw [c.settleImport_congr (c.resolve depth pushed) hsame hwanted scope hs] at hrun
      dsimp only
      rw [Load.run_bind, hrun]
      cases result with
      | error e => exact ⟨(.error e, s'), rfl⟩
      | ok entry =>
        dsimp only [Option.bind_some]
        split
        · exact ⟨(.ok entry, s'), rfl⟩
        · exact ⟨(.error (.importedWithWarnings module), s'), rfl⟩

/-- **How deep it may go does not matter then, and neither does a condition** on resolutions that is
met on all chains. -/
theorem sameOn_resolveIf {p : ImportStack → ModuleName → Disk → Prop}
    [∀ stack module, DecidablePred (p stack module)] {chain : ImportStack → Prop}
    (hnext : ∀ stack module pushed, chain stack → c.rule.wanted module →
      stack.push module = .ok pushed → chain pushed)
    (hp : ∀ stack module d, chain stack → c.rule.wanted module → p stack module d)
    {depth depth' : Nat} {stack : ImportStack} (hchain : chain stack)
    (hdepth : (stack.left names).card < depth) (hdepth' : (stack.left names).card < depth') :
    (setup.resolve depth stack).SameOn inv c.rule.wanted (setup.resolveIf p depth' stack) := by
  induction depth generalizing depth' stack with
  | zero => exact absurd hdepth (Nat.not_lt_zero _)
  | succ depth ih =>
    obtain ⟨depth', rfl⟩ := Nat.exists_eq_succ_of_ne_zero (Nat.ne_zero_of_lt hdepth')
    intro scope module s hwanted hs
    rw [resolveIf_succ, run_onlyIf (hp stack module _ hchain hwanted), resolve_succ]
    unfold Setup.resolveStep entering
    cases hpush : stack.push module with
    | error cycle => rfl
    | ok pushed =>
      have hless := ImportStack.card_left_lt hpush (hnames module hwanted)
      have hsame := ih (hnext stack module pushed hchain hwanted hpush)
        (Nat.lt_of_lt_of_le hless (Nat.le_of_lt_succ hdepth))
        (Nat.lt_of_lt_of_le hless (Nat.le_of_lt_succ hdepth'))
      dsimp only
      rw [Load.run_bind, Load.run_bind,
        c.settleImport_congr (c.resolve depth pushed) hsame hwanted scope hs]

/-- **Loading an entry module has an outcome**, with that module on the stack, and it is the same to
every depth that exceeds what is left, and under every condition that is met on all chains. -/
theorem returns_loadEntry {p : ImportStack → ModuleName → Disk → Prop}
    [∀ stack module, DecidablePred (p stack module)] {chain : ImportStack → Prop}
    (hnext : ∀ stack module pushed, chain stack → c.rule.wanted module →
      stack.push module = .ok pushed → chain pushed)
    (hp : ∀ stack module d, chain stack → c.rule.wanted module → p stack module d)
    {stack : ImportStack} (hchain : chain stack) (scope : ImportedScope) {module : ModuleName}
    (hwanted : c.rule.wanted module) (mode : CheckMode) {s : LoadState} (hs : inv s) :
    ∃ r, ∀ depth, (stack.left names).card < depth →
      (setup.loadEntry (setup.resolve depth stack) scope module mode).run.run s = some r ∧
      (setup.loadEntry (setup.resolveIf p depth stack) scope module mode).run.run s = some r := by
  have hleft : (stack.left names).card < (stack.left names).card + 1 := Nat.lt_succ_self _
  have hentry := c.resolve ((stack.left names).card + 1) stack
  have hsame := (c.returnsOn_resolve hnames hleft).sameOn_orFail (.importCycle ⟨[]⟩)
  have hreturns : (setup.loadEntry ((setup.resolve ((stack.left names).card + 1) stack).orFail
      (.importCycle ⟨[]⟩)) scope module mode).Returns :=
    Setup.returns_loadEntry (Importer.returns_orFail _ _) scope module mode
  obtain ⟨r, hr⟩ := hreturns s
  rw [c.loadEntry_congr hentry hsame hwanted scope mode hs] at hr
  have hif : ∀ depth, (stack.left names).card < depth →
      (setup.loadEntry (setup.resolveIf p depth stack) scope module mode).run.run s = some r := by
    intro depth hdepth
    rw [← hr]
    exact c.loadEntry_congr hentry (c.sameOn_resolveIf hnames hnext hp hchain hleft hdepth) hwanted
      scope mode hs
  refine ⟨r, fun depth hdepth => ⟨?_, hif depth hdepth⟩⟩
  rw [← hif depth hdepth]
  exact (c.loadEntry_congr (c.resolve depth stack) (c.sameOn_resolveIf hnames hnext hp hchain
    hdepth hdepth) hwanted scope mode hs).symm

end Contract

end Setup

end ModuleLoader
