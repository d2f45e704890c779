import ModuleLoader.Proofs.Check.Merging
import ModuleLoader.Proofs.Session.Snapshot

/-!
# What the scope holds of an import

An interface records the digests of the imports that it was checked against, and those are the
digests of the settled interfaces. What the scope of the session holds of an import is another
matter. A module that contributes already is not merged again, so an import that was loaded before in
a mode that does not settle – one that keeps private declarations, say – goes on contributing the
interface of that load, and whoever imports it is checked against that one
(`Session.Reachable.contribution_of_import`).

This is the only way in which the two can differ. If every load of the import itself was in the mode
that settles, the scope holds the settled interface, and so the one whose digest is recorded.
-/

namespace ModuleLoader

/-! ## Loads -/

namespace Setup

variable {setup : Setup} {located : Target → Prop} {s : LoadState} {scope merged : ImportedScope}
  {module : ModuleName} {mode : CheckMode} {loaded : Loaded}

/-- Consistent modules have interfaces of their own. -/
theorem Consistent.named {c : VisitedCache} (hc : setup.Consistent c) : c.Named := by
  intro module entry hget
  obtain ⟨before, after, hsplit⟩ := Consistent.exists_split hget
  exact (hc before module entry after hsplit).2.name

/-- What a consistent module records was settled before it, and so is another module. -/
theorem Consistent.imports {c : VisitedCache} (hc : setup.Consistent c) {entry : VisitedEntry}
    (hget : c.get? module = some entry) {e : ModuleName × Digest}
    (he : e ∈ entry.interface.imports) :
    e.1 ≠ module ∧ ∃ known, c.get? e.1 = some known ∧ known.importable = true ∧
      known.interface.fullHash = e.2 := by
  obtain ⟨before, after, hsplit⟩ := Consistent.exists_split hget
  obtain ⟨hnone, hfits⟩ := hc before module entry after hsplit
  obtain ⟨known, hknown, hrest⟩ := hfits.imports e he
  refine ⟨fun hsame => ?_, known, ?_, hrest⟩
  · rw [hsame, hnone] at hknown
    contradiction
  · show c.entries.lookup e.1 = some known
    rw [hsplit, List.lookup_append, show before.lookup e.1 = some known from hknown, Option.some_or]

namespace Ending

/-- **What the scope holds of an import when a load has ended**, if the module itself did not
contribute at the start. -/
theorem contribution?_of_import (hc : setup.Consistent s.caches.visited)
    (hfresh : scope.contribution? module = none)
    (h : setup.Ending located setup.FitsAfter scope module mode s loaded merged)
    {e : ModuleName × Digest} (he : e ∈ loaded.interface.imports) :
    ∃ entry, s.Knows e.1 entry ∧ entry.interface.fullHash = e.2 ∧
      merged.contribution? e.1 = some ((scope.contribution? e.1).getD entry.interface) := by
  cases h with
  | recalled hget hmerge =>
    obtain ⟨hother, known, hknown, himportable, hhash⟩ := hc.imports hget he
    have hname := hc.named module _ hget
    refine ⟨known, ⟨hknown, himportable⟩, hhash, ?_⟩
    exact ImportedScope.contribution?_of_mergeWithImports hc.named hmerge (hname ▸ hfresh) he
      (hname ▸ hother) hknown
  | reused hunsettled hfit hext hmerge =>
    have hname := hfit.name
    obtain ⟨known, hknown, himportable, hhash⟩ := hfit.imports e he
    -- Its imports were settled when the module itself was not.
    have hother : e.1 ≠ module := by
      intro hsame
      rw [hsame, show VisitedCache.get? _ module = none from hunsettled] at hknown
      contradiction
    refine ⟨known, ⟨hext.get? hknown, himportable⟩, hhash, ?_⟩
    exact ImportedScope.contribution?_of_mergeWithImports hc.named hmerge (hname ▸ hfresh) he
      (hname ▸ hother) (hext.get? hknown)
  | @built _ target built _ _ _ hcomes hext hmerge =>
    obtain ⟨checked, context, hwent, -, hsealed, hscope⟩ := hcomes
    have himports : built.interface.imports = context.imports := by
      obtain ⟨body, -, heq⟩ := Interface.sealed_eq_ok hsealed
      rw [heq]
      rfl
    have hlater := hwent.mono fun _ _ => hext.knows
    obtain hstart | ⟨entry, hknows, hhash, hcontribution⟩ := hlater.contribution?_of_import
      (fun x entry (hx : s.Knows x entry) => hc.named x entry hx.1)
      (fun _ _ _ => LoadState.Knows.unique) (himports ▸ he)
    · exact absurd hstart List.not_mem_nil
    · refine ⟨entry, hknows, hhash, ?_⟩
      rw [ImportedScope.contribution?_of_merge hmerge, ← hscope, hcontribution, Option.some_or]
      rfl

/-- What contributes when a load has ended did so at the start, or is the loaded interface, or is
settled. -/
theorem of_contribution? (hc : setup.Consistent s.caches.visited)
    (h : setup.Ending located setup.FitsAfter scope module mode s loaded merged) {x : ModuleName}
    {i : Interface} (hi : merged.contribution? x = some i) :
    scope.contribution? x = some i ∨ (x = module ∧ i = loaded.interface) ∨
      ∃ entry, s.caches.visited.get? x = some entry ∧ entry.interface = i := by
  cases h with
  | recalled hget hmerge =>
    refine (ImportedScope.of_contribution?_mergeWithImports hc.named hmerge hi).imp_right
      (Or.imp_left fun ⟨heq, hname⟩ => ⟨?_, heq⟩)
    rw [← hname]
    exact hc.named module _ hget
  | reused _ hfit _ hmerge =>
    refine (ImportedScope.of_contribution?_mergeWithImports hc.named hmerge hi).imp_right
      (Or.imp_left fun ⟨heq, hname⟩ => ⟨?_, heq⟩)
    rw [← hname]
    exact hfit.name
  | built htarget _ hcomes hext hmerge =>
    obtain ⟨checked, context, hwent, hname, hsealed, hscope⟩ := hcomes
    rw [ImportedScope.contribution?_of_merge hmerge, ← hscope] at hi
    obtain hcontext | ⟨-, hown⟩ := Option.or_eq_some_iff.1 hi
    · obtain hstart | ⟨entry, hknows, heq⟩ := hwent.of_contribution?
        (fun x entry hx => hc.named x entry (hext.get? hx.1)) hcontext
      · exact .inl hstart
      · exact .inr (.inr ⟨entry, hext.get? hknows.1, heq⟩)
    · split at hown
      · rename_i hx
        obtain ⟨body, -, heq⟩ := Interface.sealed_eq_ok hsealed
        refine .inr (.inl ⟨?_, (Option.some.inj hown).symm⟩)
        rw [← hx, heq]
        exact hname.trans htarget.name
      · contradiction

end Ending

end Setup

/-! ## Sessions -/

namespace Session

/-- **A session that has loaded a module only in the mode that settles it**, and other modules in any
mode. -/
inductive OnlySettles (module : ModuleName) : Session → Prop where
  /-- A session from scratch. -/
  | start (setup : Setup) : OnlySettles module (.start setup)
  /-- A session that starts with what another one decoded. -/
  | resume {s : Session} (setup : Setup) : Reachable s →
      OnlySettles module (.resume setup s.caches.decoded)
  /-- A session after one more load. -/
  | load {s s' : Session} {depth : Nat} {m : ModuleName} {mode : CheckMode} {world world' : World}
      {result : Except LoadError Loaded} : OnlySettles module s →
      s.loadWithin depth m mode world = some (result, s', world') → (m = module → mode = .batch) →
      OnlySettles module s'

variable {s s' : Session} {module imported : ModuleName}

theorem OnlySettles.reachable (h : s.OnlySettles module) : s.Reachable := by
  induction h with
  | start setup => exact .start setup
  | resume setup h => exact .resume setup h
  | load _ hload _ ih => exact .load ih hload

/-- **Such a module contributes what it is settled with.** -/
theorem OnlySettles.settled_of_contribution? (h : s.OnlySettles module)
    (hcodec : s.setup.codec.Faithful) {i : Interface} (hi : s.scope.contribution? module = some i) :
    ∃ entry, s.caches.visited.get? module = some entry ∧ entry.interface = i := by
  induction h generalizing i with
  | start setup => contradiction
  | resume setup _ => contradiction
  | @load s s' depth m mode world world' result hbefore hload hbatch ih =>
    have hreachable := hbefore.reachable
    obtain ⟨_, _, -, -, -, hsetup, -⟩ := loadWithin_eq_some hreachable.stack_eq hload
    rw [hsetup] at hcodec
    obtain ⟨hconsistent, hext, hled⟩ := ledTo_loadWithin rfl (Setup.snapshot _ hcodec)
      hreachable.stack_eq trivial (hreachable.consistent hcodec) hload
    have hstays : s.scope.contribution? module = some i →
        ∃ entry, s'.caches.visited.get? module = some entry ∧ entry.interface = i := by
      intro hi
      obtain ⟨entry, hget, heq⟩ := ih hcodec hi
      exact ⟨entry, hext.get? hget, heq⟩
    cases result with
    | error e => exact hstays ((show s'.scope = s.scope from hled) ▸ hi)
    | ok loaded =>
      obtain ⟨hsettled, hending⟩ := hled
      obtain hkept | ⟨rfl, rfl⟩ | hentry := hending.of_contribution? hconsistent hi
      · rw [ImportedScope.contribution?_forget] at hkept
        split at hkept
        · contradiction
        · exact hstays hkept
      · exact hsettled (by rw [hbatch rfl]; rfl)
      · exact hentry

/-- **What the scope holds of the imports that a loaded interface records.** Each import is settled
with the digest recorded for it. If it contributed to the scope before, it still contributes that
interface, and only otherwise the settled one; so the scope holds the recorded digest just if no
other one was there. That is so if every load of the import itself was in the mode that settles. -/
theorem Reachable.contribution_of_import (h : s.Reachable) (hcodec : s.setup.codec.Faithful)
    {depth : Nat} {mode : CheckMode} {world world' : World} {loaded : Loaded}
    (hload : s.loadWithin depth module mode world = some (.ok loaded, s', world')) {hash : Digest}
    (hmem : (imported, hash) ∈ loaded.interface.imports) :
    (∃ entry, s'.caches.visited.get? imported = some entry ∧ entry.interface.fullHash = hash ∧
      s'.scope.contribution? imported
        = some (((s.scope.forget module).contribution? imported).getD entry.interface)) ∧
    ((∃ held, s'.scope.contribution? imported = some held ∧ held.fullHash = hash) ↔
      ∀ earlier, (s.scope.forget module).contribution? imported = some earlier →
        earlier.fullHash = hash) ∧
    (s.OnlySettles imported →
      ∃ held, s'.scope.contribution? imported = some held ∧ held.fullHash = hash) := by
  obtain ⟨hconsistent, hext, -, hending⟩ := ledTo_loadWithin rfl (Setup.snapshot _ hcodec)
    h.stack_eq trivial (h.consistent hcodec) hload
  have hfresh : (s.scope.forget module).contribution? module = none := by
    rw [ImportedScope.contribution?_forget, if_pos rfl]
  obtain ⟨entry, hknows, hhash, hholds⟩ :=
    hending.contribution?_of_import hconsistent hfresh hmem
  have hiff : (∃ held, s'.scope.contribution? imported = some held ∧ held.fullHash = hash) ↔
      ∀ earlier, (s.scope.forget module).contribution? imported = some earlier →
        earlier.fullHash = hash := by
    rw [hholds]
    cases (s.scope.forget module).contribution? imported with
    | none => simpa using hhash
    | some earlier => simp
  refine ⟨⟨entry, hknows.1, hhash, hholds⟩, hiff, fun honly => hiff.2 fun earlier hearlier => ?_⟩
  rw [ImportedScope.contribution?_forget] at hearlier
  split at hearlier
  · contradiction
  · -- The earlier contribution is the settled interface as well.
    obtain ⟨known, hknown, rfl⟩ := honly.settled_of_contribution? hcodec hearlier
    rw [Option.some.inj ((hext.get? hknown).symm.trans hknows.1)]
    exact hhash

/-! ## A script that was loaded with its private declarations -/

/-- A directory with two scripts. The first imports the second, which has a private declaration. -/
def hidingDisk : Disk :=
  ⟨[(["p"], .directory), (["p", "M.lm"], .file (Bytes.ofText "import X")),
    (["p", "X.lm"], .file (Bytes.ofText "def pub\nprivate secret"))]⟩

set_option maxRecDepth 100000 in
/-- The second script is loaded with its private declarations and then the first one. The scope goes
on holding those declarations, under another digest than the first script records. -/
theorem contribution_of_import_hiding : ∃ (s s' : Session) (w w' : World) (loaded : Loaded)
    (hash : Digest) (entry : VisitedEntry) (held : Interface), s.Reachable ∧
    s.loadWithin 3 ⟨"M"⟩ .batch w = some (.ok loaded, s', w') ∧
    (⟨"X"⟩, hash) ∈ loaded.interface.imports ∧
    s'.caches.visited.get? ⟨"X"⟩ = some entry ∧ entry.interface.fullHash = hash ∧
    s'.scope.contribution? ⟨"X"⟩ = some held ∧ held.exports.scope.toList = ["pub", "secret"] ∧
    held.fullHash ≠ hash := by
  let start := Session.start (.scripts {} [⟨"p"⟩])
  have hrun : ((start.loadWithin 3 ⟨"X"⟩ (.typeCheck true) (.quiet hidingDisk)).bind fun r =>
      (r.2.1.loadWithin 3 ⟨"M"⟩ .batch r.2.2).bind fun r' => r'.1.toOption.bind fun loaded =>
        (r'.2.1.scope.contribution? ⟨"X"⟩).bind fun held => loaded.interface.imports.head?.map fun e =>
          (e.1, held.exports.scope.toList, held.fullHash == e.2))
      = some (⟨"X"⟩, ["pub", "secret"], false) := by
    decide +kernel
  obtain ⟨⟨result, s, w⟩, hfirst, hrun⟩ := Option.bind_eq_some_iff.1 hrun
  obtain ⟨⟨result', s', w'⟩, hload, hrun⟩ := Option.bind_eq_some_iff.1 hrun
  obtain ⟨loaded, hok, hrun⟩ := Option.bind_eq_some_iff.1 hrun
  obtain ⟨held, hheld, hrun⟩ := Option.bind_eq_some_iff.1 hrun
  obtain ⟨⟨imported, hash⟩, hhead, heq⟩ := Option.map_eq_some_iff.1 hrun
  simp only [Prod.mk.injEq, beq_eq_false_iff_ne] at heq
  obtain ⟨rfl, hnames, hdiffer⟩ := heq
  have hreachable : Reachable s := .load (.start _) hfirst
  have hcodec : s.setup.codec.Faithful := by
    obtain ⟨_, _, -, -, -, hsetup, -⟩ := loadWithin_eq_some rfl hfirst
    rw [hsetup]
    exact Codec.standard_faithful
  have hmem := List.mem_of_mem_head? hhead
  cases result' with
  | error e => contradiction
  | ok found =>
    obtain rfl : found = loaded := Option.some.inj hok
    obtain ⟨⟨entry, hget, hhash, -⟩, -, -⟩ := hreachable.contribution_of_import hcodec hload hmem
    exact ⟨s, s', w, w', found, hash, entry, held, hreachable, hload, hmem, hget, hhash, hheld,
      hnames, hdiffer⟩

end Session

end ModuleLoader
