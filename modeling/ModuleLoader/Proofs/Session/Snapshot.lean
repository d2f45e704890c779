import Mathlib.Logic.Relation
import ModuleLoader.Proofs.Artifact.Write
import ModuleLoader.Proofs.Load.Maintained
import ModuleLoader.Proofs.Load.Steps
import ModuleLoader.Script.Checker

/-!
# What is settled is a consistent snapshot

A session settles modules one after the other and never takes anything back. Each module is settled
with an interface that belongs to it, was checked under the base options of the session, and records
only imports that had been settled before, are importable, and still have the digest recorded for
them. This is `Setup.FitsAfter`, and `Setup.Consistent` says it of every settled module.

It holds whatever the disk holds: a stored interface may claim anything, but it is compared with the
session before it is used, and what a check has led to imports nothing but settled modules. Nothing
is assumed of checkers, of the files, or of what other programs do to them meanwhile; the codec is
relied on to decode what it encoded, because an interface that was just written is used as it is
read back.

Since imports are settled before their importers, no module imports itself through others
(`Setup.Consistent.not_transGen`).
-/

namespace ModuleLoader

open Load

namespace VisitedCache

/-- **A settled module records another one among its imports.** -/
def Records (c : VisitedCache) (module imported : ModuleName) : Prop :=
  ∃ entry, c.get? module = some entry ∧ ∃ hash, (imported, hash) ∈ entry.interface.imports

end VisitedCache

namespace Setup

/-- **The entry of a module is consistent with what was settled before it.** -/
structure FitsAfter (setup : Setup) (earlier : VisitedCache) (module : ModuleName)
    (entry : VisitedEntry) : Prop where
  /-- The interface belongs to the module. -/
  name : entry.interface.name = module
  /-- The module counts as built in if it is. -/
  isPrimitive : entry.isPrimitive = setup.settings.isPrimitive module
  /-- The interface was checked under the base options of the session. -/
  baseOptions : entry.interface.baseOptions = setup.settings.options.fingerprint
  /-- Its imports are settled and importable, with the digests that it records. -/
  imports : ∀ e ∈ entry.interface.imports, ∃ known, earlier.get? e.1 = some known ∧
    known.importable = true ∧ known.interface.fullHash = e.2

/-- **Every settled module was settled once, and is consistent with those settled before it.** -/
def Consistent (setup : Setup) (c : VisitedCache) : Prop :=
  ∀ before module entry after, c.entries = before ++ (module, entry) :: after →
    VisitedCache.get? ⟨before⟩ module = none ∧ setup.FitsAfter ⟨before⟩ module entry

/-- More may have been settled before. -/
theorem FitsAfter.mono {setup : Setup} {earlier later : VisitedCache} {module : ModuleName}
    {entry : VisitedEntry} (h : setup.FitsAfter earlier module entry)
    (hmono : ∀ m known, earlier.get? m = some known → later.get? m = some known) :
    setup.FitsAfter later module entry where
  name := h.name
  isPrimitive := h.isPrimitive
  baseOptions := h.baseOptions
  imports e he := by
    obtain ⟨known, hget, hrest⟩ := h.imports e he
    exact ⟨known, hmono e.1 known hget, hrest⟩

namespace Consistent

variable {setup : Setup} {c : VisitedCache}

theorem empty : setup.Consistent VisitedCache.empty := by
  intro before module entry after h
  exact absurd (congrArg List.length h) (by simp [VisitedCache.empty])

/-- **A module that is settled last** leaves the others as consistent as they were. -/
theorem append (hc : setup.Consistent c) {module : ModuleName} {entry : VisitedEntry}
    (hnone : c.get? module = none) (hfits : setup.FitsAfter c module entry) :
    setup.Consistent ⟨c.entries ++ [(module, entry)]⟩ := by
  intro before m e after h
  obtain rfl | ⟨after', last, rfl⟩ := List.eq_nil_or_concat after
  · obtain ⟨hbefore, hlast⟩ := List.append_inj' h rfl
    obtain ⟨rfl, rfl⟩ := Prod.mk.inj (List.singleton_inj.1 hlast)
    subst hbefore
    exact ⟨hnone, hfits⟩
  · have hsplit : c.entries ++ [(module, entry)] = (before ++ (m, e) :: after') ++ [last] := by
      refine h.trans ?_
      rw [List.concat_eq_append, List.append_assoc]
      rfl
    exact hc before m e after' (List.append_inj' hsplit rfl).1

/-- A settled module has its place among the others. -/
theorem exists_split {module : ModuleName} {entry : VisitedEntry}
    (hget : c.get? module = some entry) :
    ∃ before after, c.entries = before ++ (module, entry) :: after := by
  unfold VisitedCache.get? at hget
  obtain ⟨before, after, heq, -⟩ := List.lookup_eq_some_iff.1 hget
  exact ⟨before, after, heq⟩

/-- The number of modules that were settled before a module. -/
def rank (c : VisitedCache) (module : ModuleName) : Nat :=
  c.entries.findIdx fun e => e.1 == module

/-- A module has as many before it as stand before its entry. -/
theorem rank_eq (hc : setup.Consistent c) {before after : List (ModuleName × VisitedEntry)}
    {module : ModuleName} {entry : VisitedEntry}
    (h : c.entries = before ++ (module, entry) :: after) : rank c module = before.length := by
  have hnone := (hc before module entry after h).1
  unfold VisitedCache.get? at hnone
  rw [List.lookup_eq_none_iff] at hnone
  unfold rank
  rw [h, List.findIdx_append, List.findIdx_cons, beq_self_eq_true]
  have hbefore : before.findIdx (fun e => e.1 == module) = before.length := by
    rw [List.findIdx_eq_length]
    intro e he
    have := hnone e he
    rw [bne_iff_ne] at this
    exact beq_eq_false_iff_ne.2 (Ne.symm this)
  rw [hbefore, if_neg (Nat.lt_irrefl _)]
  simp

/-- **What a module records as an import was settled before it.** -/
theorem rank_lt (hc : setup.Consistent c) {module imported : ModuleName}
    (h : c.Records module imported) : rank c imported < rank c module := by
  obtain ⟨entry, hget, hash, hmem⟩ := h
  obtain ⟨before, after, heq⟩ := exists_split hget
  obtain ⟨known, hknown, -⟩ := (hc before module entry after heq).2.imports _ hmem
  obtain ⟨before', after', heq'⟩ := exists_split hknown
  have hsplit : c.entries = before' ++ (imported, known) :: (after' ++ (module, entry) :: after) := by
    rw [heq, show before = before' ++ (imported, known) :: after' from heq', List.append_assoc]
    rfl
  rw [rank_eq hc hsplit, rank_eq hc heq, show before = before' ++ _ from heq', List.length_append]
  simp

/-- **No settled module imports itself through others.** -/
theorem not_transGen (hc : setup.Consistent c) (module : ModuleName) :
    ¬ Relation.TransGen c.Records module module := by
  intro h
  have hlt : ∀ {m m'}, Relation.TransGen c.Records m m' → rank c m' < rank c m := by
    intro m m' hpath
    induction hpath with
    | single hrecords => exact rank_lt hc hrecords
    | tail _ hrecords ih => exact Nat.lt_trans (rank_lt hc hrecords) ih
  exact Nat.lt_irrefl _ (hlt h)

end Consistent

/-! ## The contract -/

/-- **Consistency is maintained by every load**: the steps of a load keep it. -/
def snapshot (setup : Setup) (hcodec : setup.codec.Faithful) :
    setup.Contract fun s => setup.Consistent s.caches.visited where
  located _ := True
  stored _ _ _ := True
  fit := setup.FitsAfter
  rule := .anything
  abides {target} mode _ := Check.abides_anything (setup.checker target.name target.source mode)
  grant _ _ := trivial
  record _ hs := hs
  access hs := hs
  edit hs _ := Load.maintains_edit hs fun _ _ => hs
  locate {s frames module} hs _ := by
    refine (maintains_locate_of module hs (fun _ h => h) fun _ _ h => h).mono fun target s' _ _ => ?_
    rintro ⟨_, found, file, -, rfl⟩
    exact ⟨setup.isTarget_targetAt module found file, trivial⟩
  refresh {s target frames} hs _ := by
    refine (maintains_refresh_of target hs (fun _ h => h) fun _ _ h => h).mono
      fun target' s' _ _ => ?_
    rintro ⟨file, rfl⟩
    exact ⟨fun module h => ⟨h.name, h.isPrimitive⟩, trivial⟩
  read hs _ := (maintains_stored hs (fun _ h => h) (fun _ _ h => h)).mono
    fun _ _ _ _ _ _ _ => trivial
  recorded _ _ _ := trivial
  reuse {s target i} hs _ hprimitive _ hlocal himports := by
    obtain ⟨hname, -, hoptions⟩ := Interface.localStaleness?_eq_none_iff.1 hlocal
    refine ⟨hname, hprimitive, hoptions, fun e he => ?_⟩
    obtain ⟨entry, hknows, hhash⟩ := himports e he
    exact ⟨entry, hknows.1, hknows.2, hhash⟩
  built {s target i checked scope context} hs _ hprimitive hwent hname hsealed := by
    obtain ⟨body, -, rfl⟩ := Interface.sealed_eq_ok hsealed
    refine ⟨hname, hprimitive, rfl, fun e he => ?_⟩
    obtain hstart | ⟨entry, hknows, hhash⟩ := hwent.known_of_mem_imports he
    · exact absurd hstart List.not_mem_nil
    · exact ⟨entry, hknows.1, hknows.2, hhash⟩
  keep hs _ := hs
  persist hs _ _ _ := maintains_persist hcodec hs fun _ h => h
  settle {s module entry} hs hnone hfit := by
    have happend := hs.append hnone hfit
    rwa [← LoadState.entries_settle hnone entry] at happend
  stored_mono _ h := h
  fit_mono hext hfit := hfit.mono fun _ _ hget => hext.get? hget
  fit_hasWarnings _ hfit := ⟨hfit.name, hfit.isPrimitive, hfit.baseOptions, hfit.imports⟩

end Setup

/-! ## Reachable sessions -/

namespace Session

/-- **The sessions that sequences of loads can lead to**, in any world: the disk may have been
changed in any way between two loads, and while one was running before each of its accesses to the
disk, though not in the middle of writing an artifact. A load may have failed. A session starts from
scratch, or with the decoded interfaces of another one. -/
inductive Reachable : Session → Prop where
  /-- A session from scratch. -/
  | start (setup : Setup) : Reachable (.start setup)
  /-- A session that starts with what another one decoded. -/
  | resume {s : Session} (setup : Setup) : Reachable s → Reachable (.resume setup s.caches.decoded)
  /-- A session after one more load. -/
  | load {s s' : Session} {depth : Nat} {module : ModuleName} {mode : CheckMode}
      {world world' : World} {result : Except LoadError Loaded} : Reachable s →
      s.loadWithin depth module mode world = some (result, s', world') → Reachable s'

/-- Between two loads nothing is in progress. -/
theorem Reachable.stack_eq {s : Session} (h : Reachable s) : s.stack = ∅ := by
  induction h with
  | start setup => rfl
  | resume setup _ _ => rfl
  | load _ hload ih =>
    obtain ⟨_, _, -, -, -, -, hstack, -⟩ := loadWithin_eq_some ih hload
    exact hstack

/-- What a reachable session has settled is consistent. -/
theorem Reachable.consistent {s : Session} (h : Reachable s) (hcodec : s.setup.codec.Faithful) :
    s.setup.Consistent s.caches.visited := by
  induction h with
  | start setup => exact Setup.Consistent.empty
  | resume setup _ _ => exact Setup.Consistent.empty
  | load hreachable hload ih =>
    obtain ⟨_, _, -, -, -, hsetup, -⟩ := loadWithin_eq_some hreachable.stack_eq hload
    rw [hsetup] at hcodec ⊢
    exact (maintains_loadWithin rfl (Setup.snapshot _ hcodec) hreachable.stack_eq trivial
      (ih hcodec) hload).1

/-- **What a session has settled is a consistent snapshot, closed under imports.** After any
sequence of loads, each settled module has an interface of its own that was checked under the base
options of the session, and every import that this interface records was settled before the module,
is importable, and has the digest recorded for it. So no module imports itself through others. -/
theorem Reachable.settled_snapshot {s : Session} (h : Reachable s)
    (hcodec : s.setup.codec.Faithful) :
    (∀ module entry, s.caches.visited.get? module = some entry →
      entry.interface.name = module ∧
      entry.isPrimitive = s.setup.settings.isPrimitive module ∧
      entry.interface.baseOptions = s.setup.settings.options.fingerprint ∧
      ∀ imported hash, (imported, hash) ∈ entry.interface.imports →
        ∃ known first second third, s.caches.visited.get? imported = some known ∧
          known.importable = true ∧ known.interface.fullHash = hash ∧
          s.caches.visited.entries
            = first ++ (imported, known) :: second ++ (module, entry) :: third) ∧
    ∀ module, ¬ Relation.TransGen s.caches.visited.Records module module := by
  have hconsistent := h.consistent hcodec
  refine ⟨fun module entry hget => ?_, hconsistent.not_transGen⟩
  obtain ⟨before, after, heq⟩ := Setup.Consistent.exists_split hget
  have hfits := (hconsistent before module entry after heq).2
  refine ⟨hfits.name, hfits.isPrimitive, hfits.baseOptions, fun imported hash hmem => ?_⟩
  obtain ⟨known, hknown, himportable, hhash⟩ := hfits.imports _ hmem
  obtain ⟨first, second, hbefore⟩ := Setup.Consistent.exists_split hknown
  refine ⟨known, first, second, after, ?_, himportable, hhash, ?_⟩
  · show s.caches.visited.entries.lookup imported = some known
    rw [heq, List.lookup_append, show before.lookup imported = some known from hknown]
    rfl
  · rw [heq, show before = first ++ (imported, known) :: second from hbefore]

end Session

/-! ## A session with two modules -/

namespace Session

/-- A directory with two scripts, of which the first imports the second. -/
def pairDisk : Disk :=
  ⟨[(["p"], .directory), (["p", "A.lm"], .file (Bytes.ofText "import B")),
    (["p", "B.lm"], .file (Bytes.ofText "def b"))]⟩

set_option maxRecDepth 100000 in
/-- The two scripts are settled by a load, with one import recorded, and form such a snapshot. -/
theorem settled_snapshot_pair : ∃ s : Session, s.Reachable ∧ s.setup.codec.Faithful ∧
    (∃ entry hash, s.caches.visited.get? ⟨"A"⟩ = some entry ∧
      entry.interface.imports = [(⟨"B"⟩, hash)]) ∧
    ∀ module, ¬ Relation.TransGen s.caches.visited.Records module module := by
  let start := Session.start (.scripts {} [⟨"p"⟩])
  have hrun : ((start.loadWithin 3 ⟨"A"⟩ .batch (.quiet pairDisk)).bind fun r =>
      (r.2.1.caches.visited.get? ⟨"A"⟩).map fun e => e.interface.imports.map Prod.fst)
        = some [⟨"B"⟩] := by
    decide +kernel
  obtain ⟨⟨result, s, world⟩, hload, hentry⟩ := Option.bind_eq_some_iff.1 hrun
  obtain ⟨entry, hget, himports⟩ := Option.map_eq_some_iff.1 hentry
  have hreachable : Reachable s := .load (.start _) hload
  have hsetup : s.setup = .scripts {} [⟨"p"⟩] := by
    obtain ⟨_, _, -, -, -, hsetup, -⟩ := loadWithin_eq_some rfl hload
    exact hsetup
  have hcodec : s.setup.codec.Faithful := hsetup ▸ Codec.standard_faithful
  obtain ⟨e, hlist, hname⟩ := List.map_eq_singleton_iff.1 himports
  refine ⟨s, hreachable, hcodec, ⟨entry, e.2, hget, ?_⟩, (hreachable.settled_snapshot hcodec).2⟩
  rw [hlist, ← hname]

end Session

end ModuleLoader
