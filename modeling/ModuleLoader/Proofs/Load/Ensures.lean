import ModuleLoader.Load.Basic

/-!
# Reasoning about loads

A load started in some state has at most one outcome, a result or a failure together with the state
it leaves. `Load.Ensures` says what holds of the outcome if there is one: one thing of a result,
another of a failure. It is computed along the load: the rules below are equivalences, one for each
way in which loads are put together, so nothing is lost by applying them.

`Load.Succeeds` says that there is an outcome, that it is a result, and what holds of it. The two
are used together: what a load ensures holds of the result that it is shown to have. And where the
same steps show both, `Load.Leads` goes through them once: a load may be known to have a result or
not, but either way it is known which one.
-/

namespace ModuleLoader

/-- **One computation after another**, on any kind of state: a failure of the first is that of both. -/
theorem runs_bind {σ α β : Type} (first : ExceptT LoadError (StateT σ Option) α)
    (next : α → ExceptT LoadError (StateT σ Option) β) (s : σ) :
    (first >>= next).run.run s = (first.run.run s).bind fun r =>
      match r.1 with
      | .ok a => (next a).run.run r.2
      | .error e => some (.error e, r.2) := by
  show ((first.run.run s).bind fun r => (ExceptT.bindCont next r.1).run r.2) = _
  refine congrArg (Option.bind _) (funext fun r => ?_)
  obtain ⟨r | r, s'⟩ := r <;> rfl

namespace Load

variable {α β : Type}

/-- **What holds of the outcome of a load** that starts in a given state, if it has one. -/
def Ensures (load : Load α) (s : LoadState) (ok : α → LoadState → Prop)
    (failed : LoadError → LoadState → Prop) : Prop :=
  ∀ r s', load.run.run s = some (r, s') →
    match r with
    | .ok a => ok a s'
    | .error e => failed e s'

/-- **A load has a result**, of which something holds. -/
def Succeeds (load : Load α) (s : LoadState) (ok : α → LoadState → Prop) : Prop :=
  ∃ a s', load.run.run s = some (.ok a, s') ∧ ok a s'

variable {load : Load α} {s : LoadState} {ok ok' : α → LoadState → Prop}
  {failed failed' : LoadError → LoadState → Prop}

/-! ## One load after another -/

/-- The outcome of two loads, one after the other: a failure of the first is that of both. -/
theorem run_bind (load : Load α) (next : α → Load β) (s : LoadState) :
    (load >>= next).run.run s = (load.run.run s).bind fun r =>
      match r.1 with
      | .ok a => (next a).run.run r.2
      | .error e => some (.error e, r.2) :=
  runs_bind load next s

/-- **Two loads, one after the other, end in one of two ways**: the first one fails, or it has a result
and the second one ends. -/
theorem bind_eq_some {next : α → Load β} {r : Except LoadError β} {s s'' : LoadState}
    (h : (load >>= next).run.run s = some (r, s'')) :
    (∃ e, load.run.run s = some (.error e, s'') ∧ r = .error e) ∨
      ∃ a s', load.run.run s = some (.ok a, s') ∧ (next a).run.run s' = some (r, s'') := by
  rw [run_bind] at h
  obtain ⟨⟨r₁, s'⟩, hfirst, h⟩ := Option.bind_eq_some_iff.1 h
  cases r₁ with
  | error e =>
    obtain ⟨rfl, rfl⟩ := Prod.mk.inj (Option.some.inj h)
    exact .inl ⟨e, hfirst, rfl⟩
  | ok a => exact .inr ⟨a, s', hfirst, h⟩

theorem ensures_bind {next : α → Load β} {ok : β → LoadState → Prop} :
    (load >>= next).Ensures s ok failed ↔
      load.Ensures s (fun a s' => (next a).Ensures s' ok failed) failed := by
  constructor
  · intro h r s' hrun
    cases r with
    | error e =>
      refine h (.error e) s' ?_
      rw [run_bind, hrun]
      rfl
    | ok a =>
      intro r' s'' hrun'
      refine h r' s'' ?_
      rw [run_bind, hrun]
      exact hrun'
  · intro h r s'' hrun
    rw [run_bind] at hrun
    obtain ⟨⟨r₁, s'⟩, hrun₁, hrun⟩ := Option.bind_eq_some_iff.1 hrun
    have h₁ := h r₁ s' hrun₁
    cases r₁ with
    | error e =>
      obtain ⟨rfl, rfl⟩ := Prod.mk.inj (Option.some.inj hrun)
      exact h₁
    | ok a => exact h₁ r s'' hrun

theorem succeeds_bind {next : α → Load β} {ok : β → LoadState → Prop} :
    (load >>= next).Succeeds s ok ↔
      load.Succeeds s (fun a s' => (next a).Succeeds s' ok) := by
  constructor
  · rintro ⟨b, s'', hrun, hok⟩
    rw [run_bind] at hrun
    obtain ⟨⟨r₁, s'⟩, hrun₁, hrun⟩ := Option.bind_eq_some_iff.1 hrun
    cases r₁ with
    | error e => exact absurd (congrArg Prod.fst (Option.some.inj hrun)) nofun
    | ok a => exact ⟨a, s', hrun₁, b, s'', hrun, hok⟩
  · rintro ⟨a, s', hrun, b, s'', hrun', hok⟩
    refine ⟨b, s'', ?_, hok⟩
    rw [run_bind, hrun]
    exact hrun'

/-! ## Plain outcomes -/

/-- A load whose result is plain to see. -/
theorem Ensures.of_run {a : α} {s' : LoadState} (hrun : load.run.run s = some (.ok a, s'))
    (h : ok a s') : load.Ensures s ok failed := by
  intro r s'' hrun'
  rw [hrun] at hrun'
  obtain ⟨rfl, rfl⟩ := Prod.mk.inj (Option.some.inj hrun')
  exact h

/-- A load whose result is plain to see, and another one after it. -/
theorem Ensures.after {next : α → Load β} {ok : β → LoadState → Prop} {a : α} {s' : LoadState}
    (hrun : load.run.run s = some (.ok a, s')) (h : (next a).Ensures s' ok failed) :
    (load >>= next).Ensures s ok failed :=
  ensures_bind.2 (.of_run hrun h)

/-- A load that plainly fails, whatever was to come after it. -/
theorem Ensures.of_failure {next : α → Load β} {ok : β → LoadState → Prop} {e : LoadError}
    {s' : LoadState} (hrun : load.run.run s = some (.error e, s')) (h : failed e s') :
    (load >>= next).Ensures s ok failed := by
  intro r s'' hboth
  rw [run_bind, hrun] at hboth
  obtain ⟨rfl, rfl⟩ := Prod.mk.inj (Option.some.inj hboth)
  exact h

/-- Whatever a load does, it ensures nothing. -/
theorem Ensures.trivial : load.Ensures s (fun _ _ => True) fun _ _ => True := by
  intro r s' _
  cases r <;> exact True.intro

/-! ## Weaker conclusions -/

theorem Ensures.mono (h : load.Ensures s ok failed) (hok : ∀ a s', ok a s' → ok' a s')
    (hfailed : ∀ e s', failed e s' → failed' e s') : load.Ensures s ok' failed' := by
  intro r s' hrun
  have := h r s' hrun
  cases r with
  | ok a => exact hok a s' this
  | error e => exact hfailed e s' this

/-- What holds of a result, a failure aside. -/
theorem Ensures.mono_ok (h : load.Ensures s ok failed) (hok : ∀ a s', ok a s' → ok' a s') :
    load.Ensures s ok' failed :=
  h.mono hok fun _ _ => id

/-- Two things that a load ensures hold together. -/
theorem Ensures.and (h : load.Ensures s ok failed) (h' : load.Ensures s ok' failed') :
    load.Ensures s (fun a s' => ok a s' ∧ ok' a s') (fun e s' => failed e s' ∧ failed' e s') := by
  intro r s' hrun
  have h₁ := h r s' hrun
  have h₂ := h' r s' hrun
  cases r <;> exact ⟨h₁, h₂⟩

theorem Succeeds.mono (h : load.Succeeds s ok) (hok : ∀ a s', ok a s' → ok' a s') :
    load.Succeeds s ok' := by
  obtain ⟨a, s', hrun, h⟩ := h
  exact ⟨a, s', hrun, hok a s' h⟩

/-- **What a load ensures holds of the result that it has.** -/
theorem Succeeds.and_ensures (h : load.Succeeds s ok) (h' : load.Ensures s ok' failed) :
    load.Succeeds s fun a s' => ok a s' ∧ ok' a s' := by
  obtain ⟨a, s', hrun, h⟩ := h
  exact ⟨a, s', hrun, h, h' (.ok a) s' hrun⟩

/-! ## The parts of loads -/

section Parts

variable {ok : Unit → LoadState → Prop}

@[simp] theorem ensures_pure {a : α} {ok : α → LoadState → Prop} :
    (pure a : Load α).Ensures s ok failed ↔ ok a s := by
  refine ⟨fun h => h (.ok a) s rfl, fun h r s' hrun => ?_⟩
  obtain ⟨rfl, rfl⟩ := Prod.mk.inj (Option.some.inj hrun)
  exact h

@[simp] theorem succeeds_pure {a : α} {ok : α → LoadState → Prop} :
    (pure a : Load α).Succeeds s ok ↔ ok a s := by
  refine ⟨fun ⟨a', s', hrun, h⟩ => ?_, fun h => ⟨a, s, rfl, h⟩⟩
  obtain ⟨ha, rfl⟩ := Prod.mk.inj (Option.some.inj hrun)
  obtain rfl := Except.ok.inj ha
  exact h

@[simp] theorem ensures_throw {e : LoadError} {ok : α → LoadState → Prop} :
    (throw e : Load α).Ensures s ok failed ↔ failed e s := by
  refine ⟨fun h => h (.error e) s rfl, fun h r s' hrun => ?_⟩
  obtain ⟨rfl, rfl⟩ := Prod.mk.inj (Option.some.inj hrun)
  exact h

@[simp] theorem ensures_exhausted {ok : α → LoadState → Prop} :
    (exhausted : Load α).Ensures s ok failed :=
  fun _ _ hrun => nomatch hrun

@[simp] theorem ensures_get {ok : LoadState → LoadState → Prop} :
    (get : Load LoadState).Ensures s ok failed ↔ ok s s := by
  refine ⟨fun h => h (.ok s) s rfl, fun h r s' hrun => ?_⟩
  obtain ⟨rfl, rfl⟩ := Prod.mk.inj (Option.some.inj hrun)
  exact h

@[simp] theorem succeeds_get {ok : LoadState → LoadState → Prop} :
    (get : Load LoadState).Succeeds s ok ↔ ok s s := by
  refine ⟨fun ⟨a', s', hrun, h⟩ => ?_, fun h => ⟨s, s, rfl, h⟩⟩
  obtain ⟨ha, rfl⟩ := Prod.mk.inj (Option.some.inj hrun)
  obtain rfl := Except.ok.inj ha
  exact h

@[simp] theorem ensures_set {t : LoadState} :
    (set t : Load Unit).Ensures s ok failed ↔ ok () t := by
  refine ⟨fun h => h (.ok ()) t rfl, fun h r s' hrun => ?_⟩
  obtain ⟨rfl, rfl⟩ := Prod.mk.inj (Option.some.inj hrun)
  exact h

@[simp] theorem succeeds_set {t : LoadState} :
    (set t : Load Unit).Succeeds s ok ↔ ok () t := by
  refine ⟨fun ⟨a', s', hrun, h⟩ => ?_, fun h => ⟨(), t, rfl, h⟩⟩
  obtain ⟨-, rfl⟩ := Prod.mk.inj (Option.some.inj hrun)
  exact h

@[simp] theorem ensures_modify {f : LoadState → LoadState} :
    (modify f : Load Unit).Ensures s ok failed ↔ ok () (f s) := by
  refine ⟨fun h => h (.ok ()) (f s) rfl, fun h r s' hrun => ?_⟩
  obtain ⟨rfl, rfl⟩ := Prod.mk.inj (Option.some.inj hrun)
  exact h

@[simp] theorem succeeds_modify {f : LoadState → LoadState} :
    (modify f : Load Unit).Succeeds s ok ↔ ok () (f s) := by
  refine ⟨fun ⟨a', s', hrun, h⟩ => ?_, fun h => ⟨(), f s, rfl, h⟩⟩
  obtain ⟨-, rfl⟩ := Prod.mk.inj (Option.some.inj hrun)
  exact h

/-- A load whose outcome is looked at has a result whenever it has an outcome. -/
theorem run_outcome (load : Load α) (s : LoadState) :
    load.outcome.run.run s = (load.run.run s).map fun r => (.ok r.1, r.2) := by
  show ((load.run.run s).bind fun r => some (Except.ok r.1, r.2)) = _
  cases load.run.run s <;> rfl

/-- Of a load whose outcome is looked at, a failure is a result too. -/
theorem ensures_outcome {ok : Except LoadError α → LoadState → Prop} :
    load.outcome.Ensures s ok failed ↔
      load.Ensures s (fun a s' => ok (.ok a) s') (fun e s' => ok (.error e) s') := by
  constructor
  · intro h r s' hload
    have := h (.ok r) s' (by rw [run_outcome, hload]; rfl)
    cases r <;> exact this
  · intro h r s' hload
    rw [run_outcome] at hload
    obtain ⟨⟨r₁, s₁⟩, hfirst, heq⟩ := Option.map_eq_some_iff.1 hload
    obtain ⟨rfl, rfl⟩ := Prod.mk.inj heq
    have := h r₁ s₁ hfirst
    cases r₁ <;> exact this

theorem Succeeds.outcome {ok : Except LoadError α → LoadState → Prop}
    (h : load.Succeeds s fun a s' => ok (.ok a) s') : load.outcome.Succeeds s ok := by
  obtain ⟨a, s', hrun, h⟩ := h
  refine ⟨.ok a, s', ?_, h⟩
  rw [run_outcome, hrun]
  rfl

@[simp] theorem ensures_ofExcept_ok {a : α} {ok : α → LoadState → Prop} :
    (ofExcept (.ok a)).Ensures s ok failed ↔ ok a s :=
  ensures_pure

@[simp] theorem ensures_ofExcept_error {e : LoadError} {ok : α → LoadState → Prop} :
    (ofExcept (.error e)).Ensures s ok failed ↔ failed e s :=
  ensures_throw

@[simp] theorem succeeds_ofExcept_ok {a : α} {ok : α → LoadState → Prop} :
    (ofExcept (.ok a)).Succeeds s ok ↔ ok a s :=
  succeeds_pure

end Parts

/-! ## Loads with one possible result -/

/-- **What a load leads to**: of any result something holds, and if the load is *sure* to have a
result then there is one. -/
def Leads (sure : Prop) (load : Load α) (s : LoadState) (ok : α → LoadState → Prop) : Prop :=
  load.Ensures s ok (fun _ _ => True) ∧ (sure → load.Succeeds s ok)

namespace Leads

variable {sure : Prop}

/-- A load whose result is plain to see. -/
theorem of_run {a : α} {s' : LoadState} (hrun : load.run.run s = some (.ok a, s')) (h : ok a s') :
    load.Leads sure s ok :=
  ⟨.of_run hrun h, fun _ => ⟨a, s', hrun, h⟩⟩

theorem pure {a : α} (h : ok a s) : (Pure.pure a : Load α).Leads sure s ok := .of_run rfl h

/-- A load that plainly fails, and was not sure to do otherwise. -/
theorem of_error {e : LoadError} {s' : LoadState} (hrun : load.run.run s = some (.error e, s'))
    (h : ¬ sure) : load.Leads sure s ok := by
  refine ⟨fun r s'' hrun' => ?_, fun hsure => absurd hsure h⟩
  rw [hrun] at hrun'
  obtain ⟨rfl, rfl⟩ := Prod.mk.inj (Option.some.inj hrun')
  exact True.intro

/-- **One load after another.** -/
theorem bind {next : α → Load β} {ok' : β → LoadState → Prop} (h : load.Leads sure s ok)
    (hnext : ∀ a s', ok a s' → (next a).Leads sure s' ok') :
    (load >>= next).Leads sure s ok' := by
  constructor
  · exact ensures_bind.2 (h.1.mono (fun a s' ha => (hnext a s' ha).1) fun _ _ => id)
  · exact fun hsure =>
      succeeds_bind.2 ((h.2 hsure).mono fun a s' ha => (hnext a s' ha).2 hsure)

/-- A load whose result is plain to see, and another one after it. -/
theorem after {next : α → Load β} {ok' : β → LoadState → Prop} {a : α} {s' : LoadState}
    (hrun : load.run.run s = some (.ok a, s')) (h : (next a).Leads sure s' ok') :
    (load >>= next).Leads sure s ok' := by
  have hfirst : load.Leads sure s fun b t => b = a ∧ t = s' := of_run hrun ⟨rfl, rfl⟩
  refine hfirst.bind ?_
  rintro _ _ ⟨rfl, rfl⟩
  exact h

end Leads

end Load

end ModuleLoader
