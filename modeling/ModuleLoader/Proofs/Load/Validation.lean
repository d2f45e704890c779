import ModuleLoader.Proofs.Load.Passage

/-!
# How a target is validated, and how it is built

To validate what is stored for a target means to read it, to compare what it records of the module
itself, and to resolve what it imports until one of the imports has changed. `Setup.Validates` tells
the five ways in which that can end, and says of each what the interface was read from and which
state is left. `Setup.Builds` does the same for a build: of its six ways to end two have a result, and
in one of these the interface was written.

The target may be in progress meanwhile, as it is when a module has just been checked, or when the
module to be loaded is validated. Of what is decoded of it then, only three things can become: it is
the same, it is dropped, or it is replaced by what was on disk at some moment on the way
(`LoadState.Fate`).
-/

namespace ModuleLoader

open Load LoadState

namespace Setup

variable {setup : Setup} {importer : Importer} {frames : List ModuleName} {target : Target}
  {scope : ImportedScope} {s s' : LoadState}

/-! ## Reading what is stored -/

/-- Reading what is stored never fails. -/
theorem ok_of_stored {r : Except LoadError (Except StalenessReason Interface)}
    (h : (setup.stored target).run.run s = some (r, s')) : ∃ found, r = .ok found := by
  cases looksUp_of_run h <;> exact ⟨_, rfl⟩

/-- While what is stored is read nothing happens but that others get in. -/
theorem passes_stored {r : Except LoadError (Except StalenessReason Interface)}
    (h : (setup.stored target).run.run s = some (r, s')) : Passes setup frames s s' := by
  have hlooked : Passes setup frames s (setup.lookedUp s target) :=
    (Passes.access s).trans (.of_eq rfl rfl rfl)
  have hexists := hlooked.trans (.access _)
  cases looksUp_of_run h with
  | decoded _ _ _ => exact hlooked
  | absent _ => exact hexists
  | unreadable _ => exact hexists.trans (.access _)
  | read _ => exact hexists.trans (.access _)

/-- What is decoded of a target whose stored interface is read stays as it is, or is dropped. -/
theorem decoded_of_stored {r : Except LoadError (Except StalenessReason Interface)}
    (h : (setup.stored target).run.run s = some (r, s')) :
    s'.caches.decoded.get? target.name = s.caches.decoded.get? target.name ∨
      s'.caches.decoded.get? target.name = none := by
  have hself := s.caches.decoded.get?_getCurrent?_self target.name
    ((setup.headerAt target s.nextDisk).map Artifact.Header.fullHash)
  cases looksUp_of_run h <;> exact hself

/-- **What is stored for a target was decoded before**, and has the digest in the header that was
read, **or it was read from the disk** that is left. -/
theorem read_of_stored {i : Interface}
    (h : (setup.stored target).run.run s = some (.ok (.ok i), s')) :
    (s'.caches.decoded.get? target.name = some i ∧ s' = s.access ∧
      ∃ header, setup.headerAt target s.nextDisk = some header ∧ header.fullHash = i.fullHash) ∨
    setup.store.readInterface? setup.codec target.interfacePath s'.world.disk = some i := by
  cases looksUp_of_run h with
  | @decoded _ header hget hheader hhash =>
    rw [lookedUp_of_decoded hget hheader hhash]
    exact .inl ⟨hget, rfl, header, hheader, hhash⟩
  | read hread => exact .inr hread

/-! ## Comparing it -/

/-- **How a validation ends.** -/
inductive Validates (setup : Setup) (importer : Importer) (target : Target) (scope : ImportedScope)
    (s : LoadState) : Except LoadError (Except StalenessReason Interface) → LoadState → Prop where
  /-- Nothing is stored that could be read. -/
  | absent {reason : StalenessReason} {s₁ : LoadState} :
      (setup.stored target).run.run s = some (.ok (.error reason), s₁) →
      Validates setup importer target scope s (.ok (.error reason)) s₁
  /-- The interface belongs to another module, another source or other options. -/
  | outdated {i : Interface} {reason : StalenessReason} {s₁ : LoadState} :
      (setup.stored target).run.run s = some (.ok (.ok i), s₁) →
      i.localStaleness? target.name target.source.hash setup.settings.options.fingerprint
        = some reason →
      Validates setup importer target scope s (.ok (.error reason)) s₁
  /-- An import that it records cannot be resolved. -/
  | failed {i : Interface} {e : LoadError} {s₁ s₂ : LoadState} :
      (setup.stored target).run.run s = some (.ok (.ok i), s₁) →
      i.localStaleness? target.name target.source.hash setup.settings.options.fingerprint = none →
      (Interface.changedImport? (currentHash importer scope) i.imports).run.run s₁
        = some (.error e, s₂) →
      Validates setup importer target scope s (.error e) s₂
  /-- An import that it records has changed. -/
  | changed {i : Interface} {reason : StalenessReason} {s₁ s₂ : LoadState} :
      (setup.stored target).run.run s = some (.ok (.ok i), s₁) →
      i.localStaleness? target.name target.source.hash setup.settings.options.fingerprint = none →
      (Interface.changedImport? (currentHash importer scope) i.imports).run.run s₁
        = some (.ok (some reason), s₂) →
      Validates setup importer target scope s (.ok (.error reason)) s₂
  /-- The interface is up to date, and is kept. -/
  | current {i : Interface} {s₁ s₂ : LoadState} :
      (setup.stored target).run.run s = some (.ok (.ok i), s₁) →
      i.localStaleness? target.name target.source.hash setup.settings.options.fingerprint = none →
      (Interface.changedImport? (currentHash importer scope) i.imports).run.run s₁
        = some (.ok none, s₂) →
      Validates setup importer target scope s (.ok (.ok i)) (s₂.keep target.name i)

/-- A validation that has read an interface goes on with comparing it. -/
theorem run_validate_of_stored {i : Interface} {s₁ : LoadState}
    (hstored : (setup.stored target).run.run s = some (.ok (.ok i), s₁))
    (hlocal : i.localStaleness? target.name target.source.hash
      setup.settings.options.fingerprint = none) :
    (setup.validate importer target scope).run.run s =
      ((Interface.changedImport? (currentHash importer scope) i.imports).run.run s₁).map fun r =>
        match r.1 with
        | .error e => (.error e, r.2)
        | .ok (some reason) => (.ok (.error reason), r.2)
        | .ok none => (.ok (.ok i), r.2.keep target.name i) := by
  unfold validate
  rw [Load.run_bind, hstored]
  dsimp only [Option.bind_some]
  rw [hlocal]
  show (Interface.changedImport? (currentHash importer scope) i.imports >>= _).run.run s₁ = _
  rw [Load.run_bind]
  cases (Interface.changedImport? (currentHash importer scope) i.imports).run.run s₁ with
  | none => rfl
  | some r =>
    obtain ⟨r, s₂⟩ := r
    cases r with
    | error e => rfl
    | ok reason => cases reason <;> rfl

/-- **Every validation ends in one of these ways.** -/
theorem validates_of_run {r : Except LoadError (Except StalenessReason Interface)}
    (h : (setup.validate importer target scope).run.run s = some (r, s')) :
    setup.Validates importer target scope s r s' := by
  have hvalidate := h
  unfold validate at h
  rw [Load.run_bind] at h
  obtain ⟨⟨r₁, s₁⟩, hstored, h⟩ := Option.bind_eq_some_iff.1 h
  obtain ⟨found, rfl⟩ := ok_of_stored hstored
  cases found with
  | error reason =>
    obtain ⟨rfl, rfl⟩ := Prod.mk.inj (Option.some.inj h)
    exact .absent hstored
  | ok i =>
    cases hlocal : i.localStaleness? target.name target.source.hash
        setup.settings.options.fingerprint with
    | some reason =>
      dsimp only at h
      rw [hlocal] at h
      obtain ⟨rfl, rfl⟩ := Prod.mk.inj (Option.some.inj h)
      exact .outdated hstored hlocal
    | none =>
      rw [run_validate_of_stored hstored hlocal] at hvalidate
      obtain ⟨⟨compared, s₂⟩, hcompare, heq⟩ := Option.map_eq_some_iff.1 hvalidate
      cases compared with
      | error e =>
        obtain ⟨rfl, rfl⟩ := Prod.mk.inj heq
        exact .failed hstored hlocal hcompare
      | ok reason =>
        cases reason with
        | some reason =>
          obtain ⟨rfl, rfl⟩ := Prod.mk.inj heq
          exact .changed hstored hlocal hcompare
        | none =>
          obtain ⟨rfl, rfl⟩ := Prod.mk.inj heq
          exact .current hstored hlocal hcompare

/-! ## Building it -/

/-- The state in which the check of a target begins: the call of the checker is recorded. -/
def checking (target : Target) (mode : CheckMode) (s : LoadState) : LoadState :=
  s.record (.checking target.name mode)

/-- The check of a target, as a build runs it. -/
def check (setup : Setup) (importer : Importer) (target : Target) (mode : CheckMode)
    (scope : ImportedScope) : Load (CheckedModule × CheckContext) :=
  setup.run importer (.start setup.settings.options scope)
    (setup.checker target.name target.source mode)

/-- **How a build ends.** -/
inductive Builds (setup : Setup) (importer : Importer) (target : Target) (mode : CheckMode)
    (scope : ImportedScope) (s : LoadState) : Except LoadError Built → LoadState → Prop where
  /-- The check fails. -/
  | failed {e : LoadError} {s₁ : LoadState} :
      (setup.check importer target mode scope).run.run (checking target mode s)
        = some (.error e, s₁) →
      Builds setup importer target mode scope s (.error e) s₁
  /-- The source declares another module. -/
  | misnamed {checked : CheckedModule} {context : CheckContext} {s₁ : LoadState} :
      (setup.check importer target mode scope).run.run (checking target mode s)
        = some (.ok (checked, context), s₁) →
      checked.name ≠ target.name →
      Builds setup importer target mode scope s
        (.error (.moduleNameMismatch target.name checked.name target.source.path)) s₁
  /-- The interface has no encoded form. -/
  | unsealed {checked : CheckedModule} {context : CheckContext} {e : CacheError}
      {s₁ : LoadState} :
      (setup.check importer target mode scope).run.run (checking target mode s)
        = some (.ok (checked, context), s₁) →
      (setup.interfaceOf target checked context).sealed setup.codec = .error e →
      Builds setup importer target mode scope s (.error (.cache e)) s₁
  /-- The interface is not to be written. -/
  | unwritten {checked : CheckedModule} {context : CheckContext} {i : Interface}
      {s₁ : LoadState} :
      (setup.check importer target mode scope).run.run (checking target mode s)
        = some (.ok (checked, context), s₁) →
      checked.name = target.name →
      (setup.interfaceOf target checked context).sealed setup.codec = .ok i →
      setup.writes mode i = false →
      Builds setup importer target mode scope s (.ok ⟨i, context.scope, false⟩) s₁
  /-- The interface cannot be written. -/
  | unwritable {checked : CheckedModule} {context : CheckContext} {i : Interface} {e : LoadError}
      {s₁ s₂ : LoadState} :
      (setup.check importer target mode scope).run.run (checking target mode s)
        = some (.ok (checked, context), s₁) →
      (setup.persist target i).run.run s₁ = some (.error e, s₂) →
      Builds setup importer target mode scope s (.error e) s₂
  /-- The interface is written, and read back. -/
  | written {checked : CheckedModule} {context : CheckContext} {i durable : Interface}
      {s₁ s₂ : LoadState} :
      (setup.check importer target mode scope).run.run (checking target mode s)
        = some (.ok (checked, context), s₁) →
      checked.name = target.name →
      (setup.interfaceOf target checked context).sealed setup.codec = .ok i →
      setup.writes mode i = true →
      (setup.persist target i).run.run s₁ = some (.ok durable, s₂) →
      Builds setup importer target mode scope s (.ok ⟨durable, context.scope, true⟩) s₂

/-- **Every build ends in one of these ways.** -/
theorem builds_of_run {mode : CheckMode} {r : Except LoadError Built}
    (h : (setup.build importer target mode scope).run.run s = some (r, s')) :
    setup.Builds importer target mode scope s r s' := by
  unfold build at h
  change (setup.check importer target mode scope >>= _).run.run (checking target mode s)
    = some (r, s') at h
  obtain ⟨e, hcheck, rfl⟩ | ⟨⟨checked, context⟩, s₁, hcheck, h⟩ := bind_eq_some h
  · exact .failed hcheck
  dsimp only at h
  split at h
  · rename_i hname
    cases hsealed : (setup.interfaceOf target checked context).sealed setup.codec with
    | error e =>
      rw [hsealed] at h
      obtain ⟨rfl, rfl⟩ := Prod.mk.inj (Option.some.inj h)
      exact .unsealed hcheck hsealed
    | ok i =>
      rw [hsealed] at h
      change (if setup.writes mode i = true then _ else _ : Load Built).run.run s₁ = some (r, s') at h
      split at h
      · rename_i hwrites
        obtain ⟨e, hpersist, rfl⟩ | ⟨durable, s₂, hpersist, h⟩ := bind_eq_some h
        · exact .unwritable hcheck hpersist
        · obtain ⟨rfl, rfl⟩ := Prod.mk.inj (Option.some.inj h)
          exact .written hcheck hname hsealed hwrites hpersist
      · rename_i hwrites
        obtain ⟨rfl, rfl⟩ := Prod.mk.inj (Option.some.inj h)
        exact .unwritten hcheck hname hsealed (Bool.eq_false_iff.2 hwrites)
  · rename_i hname
    obtain ⟨rfl, rfl⟩ := Prod.mk.inj (Option.some.inj h)
    exact .misnamed hcheck hname

end Setup

/-! ## What becomes of the module that is validated -/

namespace LoadState

/-- **What becomes of what is decoded of a module** in progress, whose artifact is at a path. -/
inductive Fate (setup : Setup) (frames : List ModuleName) (module : ModuleName) (path : Path)
    (s s' : LoadState) : Prop where
  /-- It is the same. -/
  | same : s'.caches.decoded.get? module = s.caches.decoded.get? module → Fate setup frames module
      path s s'
  /-- It is dropped. -/
  | dropped : s'.caches.decoded.get? module = none → Fate setup frames module path s s'
  /-- It was on disk at some moment. -/
  | read {t : LoadState} {i : Interface} : Passes setup frames s t →
      setup.store.readInterface? setup.codec path t.world.disk = some i →
      Passes setup frames t s' → s'.caches.decoded.get? module = some i →
      Fate setup frames module path s s'

namespace Fate

variable {setup : Setup} {frames : List ModuleName} {module : ModuleName} {path : Path}
  {s₁ s₂ s₃ : LoadState}

/-- What avoids the module before changes nothing about this. -/
theorem of_avoids (h : Avoids setup frames s₁ s₂) (hmem : module ∈ frames)
    (h' : Fate setup frames module path s₂ s₃) : Fate setup frames module path s₁ s₃ := by
  cases h' with
  | same hsame => exact .same (hsame.trans (h.decoded module hmem))
  | dropped hnone => exact .dropped hnone
  | read hbefore hread hafter hget => exact .read (h.toPasses.trans hbefore) hread hafter hget

/-- Nor does what avoids the module afterwards. -/
theorem avoids (h : Fate setup frames module path s₁ s₂) (hmem : module ∈ frames)
    (h' : Avoids setup frames s₂ s₃) : Fate setup frames module path s₁ s₃ := by
  have hkept := h'.decoded module hmem
  cases h with
  | same hsame => exact .same (hkept.trans hsame)
  | dropped hnone => exact .dropped (hkept.trans hnone)
  | read hbefore hread hafter hget =>
    exact .read hbefore hread (hafter.trans h'.toPasses) (hkept.trans hget)

end Fate

end LoadState

namespace Setup

variable {setup : Setup} {importer : Importer} {frames : List ModuleName} {target : Target}
  {scope : ImportedScope} {s s' : LoadState}

/-- **A target in progress is validated**: what happens meanwhile, and what becomes of what is decoded
of it. -/
theorem Validates.passes {r : Except LoadError (Except StalenessReason Interface)}
    (himporter : ∀ scope m, (importer scope m).Obeys setup.avoidance frames)
    (hmem : target.name ∈ frames) (h : setup.Validates importer target scope s r s') :
    Passes setup frames s s' ∧ Fate setup frames target.name target.interfacePath s s' := by
  have hfate : ∀ {r : Except LoadError (Except StalenessReason Interface)} {s₁ : LoadState},
      (setup.stored target).run.run s = some (r, s₁) →
      Fate setup frames target.name target.interfacePath s s₁ :=
    fun hstored => (decoded_of_stored hstored).elim .same .dropped
  have hcompared : ∀ {i : Interface} {s₁ : LoadState} {compared s₂},
      (Interface.changedImport? (currentHash importer scope) i.imports).run.run s₁
        = some (compared, s₂) → Avoids setup frames s₁ s₂ :=
    fun {i} _ _ _ hcompare => Conduct.changedImport? himporter scope i.imports _ _ _ hcompare
  cases h with
  | absent hstored => exact ⟨passes_stored hstored, hfate hstored⟩
  | outdated hstored _ => exact ⟨passes_stored hstored, hfate hstored⟩
  | failed hstored _ hcompare =>
    exact ⟨(passes_stored hstored).trans (hcompared hcompare).toPasses,
      (hfate hstored).avoids hmem (hcompared hcompare)⟩
  | changed hstored _ hcompare =>
    exact ⟨(passes_stored hstored).trans (hcompared hcompare).toPasses,
      (hfate hstored).avoids hmem (hcompared hcompare)⟩
  | @current i s₁ s₂ hstored _ hcompare =>
    have hread : Passes setup frames s s₁ := passes_stored hstored
    have hkeep : Passes setup frames s₁ (s₂.keep target.name i) :=
      (hcompared hcompare).toPasses.trans (.of_eq rfl rfl rfl)
    have hget : (s₂.keep target.name i).caches.decoded.get? target.name = some i := by
      show (s₂.caches.decoded.insert target.name i).get? target.name = _
      rw [DecodedCache.get?_insert, if_pos rfl]
    refine ⟨hread.trans hkeep, ?_⟩
    obtain ⟨hbefore, -, -⟩ | hdisk := read_of_stored hstored
    · -- What was decoded before is kept again, so nothing has changed.
      obtain hsame | hnone := decoded_of_stored hstored
      · exact .same (hget.trans (hbefore.symm.trans hsame))
      · exact absurd (hnone.symm.trans hbefore) nofun
    · exact .read hread hdisk hkeep hget

end Setup

end ModuleLoader
