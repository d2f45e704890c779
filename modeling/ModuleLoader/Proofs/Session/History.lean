import ModuleLoader.Proofs.Project.Clean
import ModuleLoader.Proofs.Script.Project
import ModuleLoader.Proofs.Session.Run

/-!
# Incremental loading agrees with a clean build

A history of a project begins with a disk that holds no artifacts. Sessions follow, each with any
number of loads, successful or not. From one session to the next the sources and the base options
may be edited, artifacts may be deleted or moved, and the decoded interfaces may be carried over; no
interface is put on disk but by the loader. While a load runs the sources stay as they are.

Each session has a season, and whatever a session has settled is what is derived in the edition of
that season (`History.sound`). A session that starts now, on a disk without artifacts, settles what
is derived in the same edition, and so the two agree (`History.settled_eq_clean`): the caches make
no difference to what a module comes to.

This takes checks that have no result once an import was refused (`Season.insists`). What becomes of
an import that is refused is not recorded, so a check that goes on without it looks up to date when
the import could be granted, and the two do not agree (`History.settled_ne_clean_lenient`).
-/

namespace ModuleLoader

/-- **What lasts through some seasons of a project**: the tools, checkers that abide by the rule of
each season, a codec that can be relied on, and digests without collisions. -/
structure Toolchain.Lasts (t : Toolchain) (seasons : Set Season) : Prop where
  /-- The tools are the same in all of them. -/
  toolchain_eq : ∀ season ∈ seasons, season.toolchain = t
  /-- Checkers abide by the rule. -/
  abiding : ∀ season ∈ seasons, season.Abiding
  /-- The codec can be relied on. -/
  faithful : t.codec.Faithful
  /-- What is hashed has a digest of its own. -/
  collisionFree : t.CollisionFree (Season.edition '' seasons)

/-- Every load of a season maintains what makes its caches trustworthy. -/
def Toolchain.Lasts.contract {t : Toolchain} {seasons : Set Season} (hlasts : t.Lasts seasons)
    {season : Season} (hseason : season ∈ seasons) :
    season.setup.Contract (season.Sound (Season.edition '' seasons)) :=
  have hsame := hlasts.toolchain_eq season hseason
  season.sound ⟨season, hseason, rfl⟩ (hlasts.abiding season hseason)
    (show season.toolchain.codec.Faithful from hsame ▸ hlasts.faithful)
    (hsame ▸ hlasts.collisionFree)

/-- What lasts through a single season. -/
theorem Toolchain.Lasts.single {season : Season} (habiding : season.Abiding)
    (hfaithful : season.toolchain.codec.Faithful)
    (hinj : Set.InjOn Digest.ofBytes (season.toolchain.Hashed season.edition)) :
    season.toolchain.Lasts {season} where
  toolchain_eq _ h := by rw [Set.mem_singleton_iff.1 h]
  abiding _ h := by
    rw [Set.mem_singleton_iff.1 h]
    exact habiding
  faithful := hfaithful
  collisionFree := by
    refine hinj.mono ?_
    rintro bytes ⟨edition, ⟨season, rfl, rfl⟩, h⟩
    exact h

/-- **The histories of a project** through some seasons: which session there may be, in which
season, with which disk. -/
inductive History (seasons : Set Season) : Season → Session → Disk → Prop where
  /-- The first session finds no artifacts. -/
  | first {season : Season} {d : Disk} : season ∈ seasons → d ∈ season.disks →
      (∀ i : Interface, ¬ i.OnDisk Setup.compilerVersion season.setup.codec d) →
      History seasons season (.start season.setup) d
  /-- A session from scratch follows another one. -/
  | start {season next : Season} {s : Session} {d d' : Disk} : History seasons season s d →
      next ∈ seasons → d' ∈ next.disks → d.ForgesNothing next.setup.codec d' →
      History seasons next (.start next.setup) d'
  /-- A session that starts with what another one decoded follows it. -/
  | resume {season next : Season} {s : Session} {d d' : Disk} : History seasons season s d →
      next ∈ seasons → d' ∈ next.disks → d.ForgesNothing next.setup.codec d' →
      History seasons next (.resume next.setup s.caches.decoded) d'
  /-- A module of the project is loaded while the season goes on. -/
  | load {season : Season} {s s' : Session} {depth : Nat} {module : ModuleName} {mode : CheckMode}
      {world world' : World} {result : Except LoadError Loaded} :
      History seasons season s world.disk → module ∈ season.modules → season.Calm world →
      s.loadWithin depth module mode world = some (result, s', world') →
      History seasons season s' world'.disk

namespace History

variable {t : Toolchain} {seasons : Set Season} {season : Season} {s : Session} {d : Disk}

/-- A session that follows another one, perhaps in another season, can trust what it finds. -/
theorem sound_of_next (hlasts : t.Lasts seasons) {next : Season} (hseason : season ∈ seasons)
    (hnext : next ∈ seasons) {c : Caches} {editions : Set Edition}
    (hsound : season.Sound editions ⟨c, .quiet d⟩) {d' : Disk} (hd : d' ∈ next.disks)
    (hforges : d.ForgesNothing next.setup.codec d') {decoded : DecodedCache}
    (hdecoded : ∀ module i, decoded.get? module = some i → season.toolchain.Genuine editions i) :
    next.Sound editions ⟨{ Caches.empty with decoded }, .quiet d'⟩ := by
  have hsame : season.toolchain = next.toolchain :=
    (hlasts.toolchain_eq season hseason).trans (hlasts.toolchain_eq next hnext).symm
  have hcodec : season.setup.codec = next.setup.codec := congrArg Toolchain.codec hsame
  refine .fresh (Season.calm_quiet hd) (fun i hi => ?_) (fun m i hget => hsame ▸ hdecoded m i hget)
  rw [← hsame]
  refine hsound.onDisk i ?_
  rw [hcodec]
  exact hforges i hi

/-- **In every session of a history the caches can be trusted**, and so can the disk. The session
runs with what its season says, and is between two loads. -/
theorem sound (hlasts : t.Lasts seasons) (h : History seasons season s d) :
    season ∈ seasons ∧ s.setup = season.setup ∧ s.stack = ∅ ∧
      season.Sound (Season.edition '' seasons) ⟨s.caches, .quiet d⟩ := by
  induction h with
  | first hseason hd hnone =>
    exact ⟨hseason, rfl, rfl,
      .fresh (Season.calm_quiet hd) (fun i hi => absurd hi (hnone i)) nofun⟩
  | start _ hnext hd hforges ih =>
    obtain ⟨hseason, -, -, hsound⟩ := ih
    exact ⟨hnext, rfl, rfl, sound_of_next hlasts hseason hnext hsound hd hforges nofun⟩
  | resume _ hnext hd hforges ih =>
    obtain ⟨hseason, -, -, hsound⟩ := ih
    exact ⟨hnext, rfl, rfl, sound_of_next hlasts hseason hnext hsound hd hforges hsound.decoded⟩
  | @load season s s' depth module mode world world' result _ hmem hcalm hload ih =>
    obtain ⟨hseason, hsetup, hstack, hsound⟩ := ih
    have hstate := hsound.inWorld hcalm rfl
    have hafter := (Session.maintains_loadWithin hsetup (hlasts.contract hseason) hstack hmem hstate
      hload).1
    obtain ⟨_, _, -, -, -, hsetup', hstack', -⟩ := Session.loadWithin_eq_some hstack hload
    exact ⟨hseason, hsetup'.trans hsetup, hstack',
      hafter.inWorld (Season.calm_quiet hafter.calm.disk) rfl⟩

/-- **Incremental loading agrees with a clean build.** Whatever history a session has, the interface
of each module that it has settled is the one that a session settles which starts now, with the same
sources and settings and no artifact on disk, if loading the module in the mode that settles
succeeds there. In all its seasons a check that was refused an import has no result. -/
theorem settled_eq_clean (hlasts : t.Lasts seasons) (h : History seasons season s d)
    {module : ModuleName} {entry : VisitedEntry}
    (hsettled : s.caches.visited.get? module = some entry) {depth : Nat} {world world' : World}
    (hcalm : season.Calm world)
    (hnone : ∀ i : Interface, ¬ i.OnDisk Setup.compilerVersion season.setup.codec world.disk)
    {loaded : Loaded} {clean : Session}
    (hclean : (Session.start season.setup).loadWithin depth module .batch world
      = some (.ok loaded, clean, world')) :
    ∃ entry', clean.caches.visited.get? module = some entry' ∧
      entry'.interface = entry.interface ∧ loaded.interface = entry.interface := by
  obtain ⟨hseason, -, -, hsound⟩ := h.sound hlasts
  have hderives := hsound.visited module entry hsettled
  have hstart : season.Sound (Season.edition '' seasons) ⟨Caches.empty, world⟩ :=
    .fresh hcalm (fun i hi => absurd hi (hnone i)) nofun
  obtain ⟨hafter, -, hloaded⟩ := Session.maintains_loadWithin rfl (hlasts.contract hseason) rfl
    hderives.mem hstart hclean
  obtain ⟨entry', hget, hinterface⟩ := hloaded loaded rfl rfl
  have hsame : entry' = entry := (hafter.visited module entry' hget).unique hderives
  exact ⟨entry', hget, by rw [hsame], by rw [← hinterface, hsame]⟩

end History

/-! ## A project of two scripts -/

namespace ScriptProject

/-- A directory with a script that imports another one. -/
def pairOn (text : String) : Disk :=
  ⟨[(["p"], .directory), (["p", "A.lm"], .file (Bytes.ofText text)),
    (["p", "B.lm"], .file (Bytes.ofText "def b"))]⟩

set_option maxRecDepth 100000 in
/-- The project at first. -/
def pair : ScriptProject where
  settings := {}
  roots := [⟨"p"⟩]
  modules := [⟨"A"⟩, ⟨"B"⟩]
  disk := pairOn "import B"
  closed := Disk.closed_of_entries (by decide +kernel)
  plain := by decide +kernel
  direct := by decide +kernel
  apart := by decide +kernel

set_option maxRecDepth 100000 in
/-- The project after an edit of the script that imports. -/
def editedPair : ScriptProject where
  settings := {}
  roots := [⟨"p"⟩]
  modules := [⟨"A"⟩, ⟨"B"⟩]
  disk := pair.disk.put ["p", "A.lm"] (.file (Bytes.ofText "import B\ndef a"))
  closed := Disk.closed_of_entries (by decide +kernel)
  plain := by decide +kernel
  direct := by decide +kernel
  apart := by decide +kernel

instance : DecidablePred (· ∈ pair.season.toolchain.modules) :=
  fun module => inferInstanceAs (Decidable (module ∈ pair.modules))

set_option maxRecDepth 100000 in
/-- All that is hashed for the two has digests of its own. -/
theorem lasts_pair : pair.season.toolchain.Lasts {pair.season, editedPair.season} where
  toolchain_eq season h := by obtain rfl | rfl := h <;> rfl
  abiding season h := by
    obtain rfl | rfl := h
    · exact pair.abiding
    · exact editedPair.abiding
  faithful := Codec.standard_faithful
  collisionFree := by
    refine Toolchain.collisionFree_of_hashedList [pair.season.edition, editedPair.season.edition] 2
      pair.modules ?_ (fun _ h => h) (by decide +kernel) (by decide +kernel)
    rintro edition ⟨season, rfl | rfl, rfl⟩
    · exact List.mem_cons_self
    · exact List.mem_cons_of_mem _ List.mem_cons_self

/-- What the edit makes of a disk. -/
def edit (d : Disk) : Disk := d.put ["p", "A.lm"] (.file (Bytes.ofText "import B\ndef a"))

set_option maxRecDepth 100000 in
theorem edit_mem_disks {d : Disk} (hd : d ∈ pair.disks) : edit d ∈ editedPair.disks := by
  have hold : pair.disk.at? ["p", "A.lm"] = some (.file (Bytes.ofText "import B")) := by
    decide +kernel
  exact put_mem_disks (p := pair) (q := editedPair) (f := ⟨⟨"p"⟩, ⟨"p/A.lm"⟩⟩) rfl rfl rfl
    List.mem_cons_self (by decide +kernel) (by decide +kernel) hold hd

end ScriptProject

namespace History

open ScriptProject

set_option maxRecDepth 100000 in
/-- After the edit one script is checked again, while the interface of the other one is reused, and
the result is that of a clean build. -/
theorem settled_eq_clean_editedPair : ∃ (s clean : Session) (d : Disk) (entry : VisitedEntry)
    (loaded : Loaded) (world : World),
    History {pair.season, editedPair.season} editedPair.season s d ∧
    s.caches.visited.get? ⟨"A"⟩ = some entry ∧
    (Session.start editedPair.season.setup).loadWithin 3 ⟨"A"⟩ .batch (.quiet editedPair.disk)
      = some (.ok loaded, clean, world) ∧
    loaded.interface = entry.interface := by
  have hrun : (((Session.start pair.season.setup).loadWithin 3 ⟨"A"⟩ .batch
      (.quiet pair.disk)).bind fun r => ((Session.start editedPair.season.setup).loadWithin 3 ⟨"A"⟩
        .batch (.quiet (edit r.2.2.disk))).bind fun r' => (r'.2.1.caches.visited.get? ⟨"A"⟩).map
          fun _ => r'.2.2.journal) = some [.checking ⟨"A"⟩ .batch, .settled ⟨"B"⟩,
            .note "import B [b]", .settled ⟨"A"⟩] := by
    decide +kernel
  obtain ⟨⟨result, s, world⟩, hload, hrun⟩ := Option.bind_eq_some_iff.1 hrun
  obtain ⟨⟨result', s', world'⟩, hload', hrun⟩ := Option.bind_eq_some_iff.1 hrun
  obtain ⟨entry, hsettled, -⟩ := Option.map_eq_some_iff.1 hrun
  have hclean : (((Session.start editedPair.season.setup).loadWithin 3 ⟨"A"⟩ .batch
      (.quiet editedPair.disk)).bind fun r => r.1.toOption.map fun _ => ()) = some () := by
    decide +kernel
  obtain ⟨⟨outcome, clean, world''⟩, hcleanload, hclean⟩ := Option.bind_eq_some_iff.1 hclean
  obtain ⟨loaded, hok, -⟩ := Option.map_eq_some_iff.1 hclean
  obtain rfl := LoadError.eq_ok_of_toOption hok
  have hfirst : History {pair.season, editedPair.season} pair.season (.start pair.season.setup)
      pair.disk :=
    .first (.inl rfl) pair.disk_mem (Disk.not_onDisk_of_entries (by decide +kernel))
  have hended := hfirst.load List.mem_cons_self (Season.calm_quiet pair.disk_mem) hload
  have hedited := edit_mem_disks (hended.sound lasts_pair).2.2.2.calm.disk
  have hsecond := (hended.start (.inr rfl) hedited (Disk.forgesNothing_put (by decide)
    (by decide +kernel))).load List.mem_cons_self (Season.calm_quiet hedited) hload'
  obtain ⟨entry', -, -, hsame⟩ := settled_eq_clean lasts_pair hsecond hsettled
    (Season.calm_quiet editedPair.disk_mem) (Disk.not_onDisk_of_entries (by decide +kernel))
    hcleanload
  exact ⟨s', clean, world'.disk, entry, loaded, world'', hsecond, hsettled, hcleanload, hsame⟩

end History

/-! ## A script that does without its import -/

namespace Lenient

/-- The texts of three scripts: one that goes on if it cannot import the second, the second, and one
that imports the first. -/
def texts : List String := ["try-import B", "def b", "import A"]

/-- Their modules. -/
def modules : List ModuleName := [⟨"A"⟩, ⟨"B"⟩, ⟨"C"⟩]

/-- What sessions run with. -/
def setup : Setup := .scripts {} [⟨"p"⟩]

/-- The first and the third script; the second one is not there yet. -/
def disk : Disk :=
  ⟨[(["p"], .directory), (["p", "A.lm"], .file (Bytes.ofText "try-import B")),
    (["p", "C.lm"], .file (Bytes.ofText "import A"))]⟩

/-- The second one is written. -/
def edit (d : Disk) : Disk := d.put ["p", "B.lm"] (.file (Bytes.ofText "def b"))

/-- What is hashed apart from interfaces: the base options and the texts. -/
def bytes : List Bytes := setup.settings.options.bytes :: texts.map Bytes.ofText

/-- The scripts heed what they may heed. -/
theorem agrees {text : String} (htext : text ∈ texts) (module : ModuleName) (path path' : Path)
    (mode : CheckMode) :
    (setup.checker module ⟨path, text⟩ mode).Agrees
      (setup.checker module ⟨path', text⟩ mode) := by
  have htidy : ∀ text ∈ texts, Script.Tidy text := by decide +kernel
  have hchecker : setup.checker = Script.checker := Setup.checker_scripts _ _
  rw [hchecker]
  exact Script.checker_agrees (htidy text htext) path path'

set_option maxRecDepth 100000 in
/-- There are no artifacts before the edit. -/
theorem not_onDisk (i : Interface) : ¬ i.OnDisk Setup.compilerVersion setup.codec disk :=
  Disk.not_onDisk_of_entries (by decide +kernel) i

set_option maxRecDepth 100000 in
/-- Nor are there any after it, where nothing was loaded. -/
theorem not_onDisk_edit (i : Interface) :
    ¬ i.OnDisk Setup.compilerVersion setup.codec (edit disk) :=
  Disk.not_onDisk_of_entries (by decide +kernel) i

end Lenient

namespace History

open Lenient

set_option maxRecDepth 100000 in
/-- **A check that goes on without an import spoils this.** The first script heeds nothing but its
text, the mode, the options and the interfaces of its imports, as the others do. It is checked while
the second one is not there, and nothing is recorded of the import that was refused. So when the
second one has been written, the next session takes the first one from disk, for the third to
import, while a session without artifacts checks it again and records the import. -/
theorem settled_ne_clean_lenient : ∃ (first loaded cleanly : Loaded) (s s' clean : Session)
    (w w' w'' : World) (entry : VisitedEntry),
    (∀ text ∈ texts, ∀ module path path' mode,
      (setup.checker module ⟨path, text⟩ mode).Agrees (setup.checker module ⟨path', text⟩ mode)) ∧
    (∀ i : Interface, ¬ i.OnDisk Setup.compilerVersion setup.codec disk) ∧
    (Session.start setup).loadWithin 3 ⟨"A"⟩ .batch (.quiet disk) = some (.ok first, s, w) ∧
    (Session.start setup).loadWithin 3 ⟨"C"⟩ .batch (.quiet (edit w.disk))
      = some (.ok loaded, s', w') ∧
    s'.caches.visited.get? ⟨"A"⟩ = some entry ∧
    (∀ i : Interface, ¬ i.OnDisk Setup.compilerVersion setup.codec (edit disk)) ∧
    (∀ module ∈ modules, setup.text? (edit disk) module = setup.text? (edit w.disk) module) ∧
    (Session.start setup).loadWithin 3 ⟨"A"⟩ .batch (.quiet (edit disk))
      = some (.ok cleanly, clean, w'') ∧
    Set.InjOn Digest.ofBytes ({ b | b ∈ Lenient.bytes } ∪ Interface.allBytes .standard
      (s.caches.visited.interfaces ∪ s'.caches.visited.interfaces ∪
        clean.caches.visited.interfaces)) ∧
    cleanly.interface ≠ entry.interface := by
  have hrun : ((Session.start setup).loadWithin 3 ⟨"A"⟩ .batch (.quiet disk)).any (fun r =>
      ((Session.start setup).loadWithin 3 ⟨"C"⟩ .batch (.quiet (edit r.2.2.disk))).any fun r' =>
        ((Session.start setup).loadWithin 3 ⟨"A"⟩ .batch (.quiet (edit disk))).any fun r'' =>
          decide ((r.1.toOption.isSome ∧ r'.1.toOption.isSome ∧
            (r''.1.toOption.map fun l => l.interface.imports.isEmpty) = some false) ∧
            ((r'.2.1.caches.visited.get? ⟨"A"⟩).map fun e => e.interface.imports.isEmpty)
              = some true ∧
            (∀ module ∈ modules, setup.text? (edit disk) module
              = setup.text? (edit r.2.2.disk) module) ∧
            ((Lenient.bytes ++ (r.2.1.caches.visited.sealedBytes ++
              r'.2.1.caches.visited.sealedBytes ++ r''.2.1.caches.visited.sealedBytes)).map
                fun b => (Digest.ofBytes b, b)).Pairwise
              fun x y => x.1 = y.1 → x.2 = y.2)) = true := by
    decide +kernel
  obtain ⟨⟨outcome, s, w⟩, hfirst, hrun⟩ := (Option.any_eq_true _ _).1 hrun
  obtain ⟨⟨outcome', s', w'⟩, hsecond, hrun⟩ := (Option.any_eq_true _ _).1 hrun
  obtain ⟨⟨outcome'', clean, w''⟩, hclean, hrun⟩ := (Option.any_eq_true _ _).1 hrun
  obtain ⟨⟨hok, hok', hcleanly⟩, hentry, htexts, hdistinct⟩ := of_decide_eq_true hrun
  obtain ⟨first, rfl⟩ := LoadError.exists_eq_ok hok
  obtain ⟨loaded, rfl⟩ := LoadError.exists_eq_ok hok'
  obtain ⟨cleanly, hsome, himports⟩ := Option.map_eq_some_iff.1 hcleanly
  obtain rfl := LoadError.eq_ok_of_toOption hsome
  obtain ⟨entry, hget, hnone⟩ := Option.map_eq_some_iff.1 hentry
  refine ⟨first, loaded, cleanly, s, s', clean, w, w', w'', entry, fun _ => agrees,
    not_onDisk, hfirst, hsecond, hget, not_onDisk_edit, htexts, hclean, ?_, fun heq => ?_⟩
  · refine Digest.injOn_of_list _ (fun b hb => ?_) hdistinct
    simp only [List.mem_append]
    obtain hb | ⟨i, (hi | hi) | hi, hbytes⟩ := hb
    · exact .inl hb
    · exact .inr (.inl (.inl (VisitedCache.mem_sealedBytes ⟨i, hi, hbytes⟩)))
    · exact .inr (.inl (.inr (VisitedCache.mem_sealedBytes ⟨i, hi, hbytes⟩)))
    · exact .inr (.inr (VisitedCache.mem_sealedBytes ⟨i, hi, hbytes⟩))
  · rw [heq] at himports
    exact absurd (himports.symm.trans hnone) nofun

end History

end ModuleLoader
