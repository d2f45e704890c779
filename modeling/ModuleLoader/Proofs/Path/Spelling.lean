import Mathlib.Logic.Relation
import ModuleLoader.Proofs.Path.Components

/-!
# Spellings of a path

A path can be written in more than one way: with a slash more where there is one, with a dot
between slashes, and with a slash at the end. Two paths that are written one into the other by such
steps, in either direction, are spellings of one path (`Path.Respelled`).

This is what comparing components decides (`Path.same_iff_respelled`). A step leaves the components
alone, since what it adds are segments that stand for nothing. For the converse every path is
written, step by step, as its own components with slashes between them
(`Path.respelled_ofComponents`); that is one text for all spellings.
-/

namespace ModuleLoader

namespace Path

variable {p q : Path} {x y : String}

/-! ## One step -/

/-- **One step between two spellings** of a path, each written in its longer form first. -/
inductive Respells : Path → Path → Prop where
  /-- A slash is written twice. -/
  | slash (x y : String) : Respells ⟨x ++ "/" ++ "/" ++ y⟩ ⟨x ++ "/" ++ y⟩
  /-- A dot stands between slashes. -/
  | dot (x y : String) : Respells ⟨x ++ "/" ++ "." ++ "/" ++ y⟩ ⟨x ++ "/" ++ y⟩
  /-- There is a slash at the end. Nothing and a slash are different paths, though. -/
  | ending {x : String} (hx : x ≠ "") : Respells ⟨x ++ "/"⟩ ⟨x⟩

/-- **Two spellings of one path**, any number of steps apart. -/
def Respelled : Path → Path → Prop := Relation.EqvGen Respells

/-- The order of two spellings does not matter. -/
theorem Respelled.symm (h : Respelled p q) : Respelled q p := Relation.EqvGen.symm p q h

/-- Spellings of a spelling are spellings. -/
theorem Respelled.trans {r : Path} (h : Respelled p q) (h' : Respelled q r) : Respelled p r :=
  Relation.EqvGen.trans p q r h h'

/-! ## Steps leave the components alone -/

/-- Two texts after a slash make one path if their segments stand for the same. -/
theorem same_append_slash {z : String}
    (h : (⟨y⟩ : Path).segments.filterMap component? = (⟨z⟩ : Path).segments.filterMap component?) :
    Same ⟨x ++ "/" ++ y⟩ ⟨x ++ "/" ++ z⟩ := by
  unfold Same
  rw [components_append_slash, components_append_slash, h]

/-- **A step leaves the components alone.** -/
theorem Respells.same (h : Respells p q) : p.Same q := by
  cases h with
  | slash x y =>
    have hassoc : x ++ "/" ++ "/" ++ y = x ++ "/" ++ ("" ++ "/" ++ y) := by
      simp only [String.append_assoc, String.empty_append]
    rw [hassoc]
    refine same_append_slash ?_
    rw [segments_append_slash, List.filterMap_append]
    rfl
  | dot x y =>
    have hassoc : x ++ "/" ++ "." ++ "/" ++ y = x ++ "/" ++ ("." ++ "/" ++ y) := by
      simp only [String.append_assoc]
    rw [hassoc]
    refine same_append_slash ?_
    rw [segments_append_slash, List.filterMap_append]
    rfl
  | ending hx => exact components_append_ending hx

/-- **Spellings of one path have the same components.** -/
theorem Respelled.same (h : Respelled p q) : p.Same q := by
  induction h with
  | rel _ _ hstep => exact hstep.same
  | refl _ => rfl
  | symm _ _ _ ih => exact Eq.symm ih
  | trans _ _ _ _ _ ih ih' => exact Eq.trans ih ih'

/-! ## Components as a text -/

/-- How a component is written. -/
def Component.text : Component → String
  | .root => "/"
  | .here => "."
  | .up => ".."
  | .name text => text

/-- A segment is how the component that it stands for is written. -/
theorem text_of_component? {segment : String} {c : Component} (h : component? segment = some c) :
    c.text = segment := by
  unfold component? at h
  split at h
  · contradiction
  · contradiction
  · rw [← Option.some.inj h]
    rfl
  · rw [← Option.some.inj h]
    rfl

/-- Texts with a slash before each of them. -/
def below : List String → String
  | [] => ""
  | segment :: rest => "/" ++ segment ++ below rest

/-- **The path that is written with given components**, and with one slash before each of them
except the first. -/
def ofComponents : List Component → Path
  | [] => ⟨""⟩
  | first :: rest => ⟨first.text ++ below (rest.map Component.text)⟩

/-- A path is its first segment, and the others below it. -/
theorem text_eq_below {first : String} {rest : List String} (h : p.segments = first :: rest) :
    p.text = first ++ below rest := by
  have hbelow : ∀ (first : String) (rest : List String),
      String.intercalate "/" (first :: rest) = first ++ below rest := by
    intro first rest
    induction rest generalizing first with
    | nil => rw [String.intercalate_singleton, below, String.append_empty]
    | cons second rest ih =>
      rw [String.intercalate_cons_cons, ih, below]
      simp only [String.append_assoc]
  have htext := intercalate_fields '/' p.text
  rw [show fields '/' p.text = first :: rest from h] at htext
  rw [← htext]
  exact hbelow first rest

/-- A segment that stands for nothing is empty or a dot. -/
theorem eq_of_component?_eq_none {segment : String} (h : component? segment = none) :
    segment = "" ∨ segment = "." := by
  unfold component? at h
  split at h
  · exact .inl rfl
  · exact .inr rfl
  · contradiction
  · contradiction

/-- A segment that stands for nothing is left out. -/
theorem respelled_below_of_none (hx : x ≠ "") {segment : String} (h : component? segment = none)
    (rest : List String) : Respelled ⟨x ++ below (segment :: rest)⟩ ⟨x ++ below rest⟩ := by
  -- What is below is nothing, or begins with a slash.
  have hrest : below rest = "" ∨ ∃ y, below rest = "/" ++ y := by
    cases rest with
    | nil => exact .inl rfl
    | cons next rest => exact .inr ⟨next ++ below rest, String.append_assoc⟩
  have hending : Respelled ⟨x ++ "/"⟩ ⟨x⟩ := .rel _ _ (.ending hx)
  obtain rfl | rfl := eq_of_component?_eq_none h <;> obtain hnil | ⟨y, hy⟩ := hrest
  · rw [below, hnil, String.append_empty, String.append_empty, String.append_empty]
    exact hending
  · rw [below, hy, String.append_empty, ← String.append_assoc, ← String.append_assoc,
      ← String.append_assoc]
    exact .rel _ _ (.slash x y)
  · -- A dot at the end is between slashes once there is a slash after it.
    have hlonger : Respelled ⟨x ++ "/" ++ "." ++ "/"⟩ ⟨x ++ "/" ++ "."⟩ :=
      .rel _ _ (.ending (by simp))
    have hdot : Respelled ⟨x ++ "/" ++ "." ++ "/" ++ ""⟩ ⟨x ++ "/" ++ ""⟩ := .rel _ _ (.dot x "")
    rw [String.append_empty, String.append_empty] at hdot
    rw [below, hnil, String.append_empty, String.append_empty, ← String.append_assoc]
    exact hlonger.symm.trans (hdot.trans hending)
  · rw [below, hy]
    simp only [← String.append_assoc]
    exact .rel _ _ (.dot x y)

/-- **Segments that stand for nothing are left out**, step by step. -/
theorem respelled_below (hx : x ≠ "") (segments : List String) :
    Respelled ⟨x ++ below segments⟩
      ⟨x ++ below ((segments.filterMap component?).map Component.text)⟩ := by
  induction segments generalizing x with
  | nil => exact .refl _
  | cons segment rest ih =>
    cases hcomponent : component? segment with
    | some c =>
      have hrest := @ih (x ++ "/" ++ segment) (by simp)
      rw [List.filterMap_cons_some hcomponent, List.map_cons, text_of_component? hcomponent]
      simpa only [below, String.append_assoc] using hrest
    | none =>
      rw [List.filterMap_cons_none hcomponent]
      exact (respelled_below_of_none hx hcomponent rest).trans (ih hx)

/-- A slash at the beginning is written twice. -/
theorem respelled_slash_below (segment : String) (rest : List String) :
    Respelled ⟨"" ++ below (segment :: rest)⟩ ⟨"/" ++ below (segment :: rest)⟩ := by
  have hslash := Respells.slash "" (segment ++ below rest)
  simp only [String.empty_append, ← String.append_assoc] at hslash
  simp only [below, String.empty_append, ← String.append_assoc]
  exact Respelled.symm (.rel _ _ hslash)

/-- **Every path is a spelling of its components.** -/
theorem respelled_ofComponents (p : Path) : Respelled p (ofComponents p.components) := by
  obtain ⟨text⟩ := p
  obtain ⟨first, rest, hsegments⟩ := List.exists_cons_of_ne_nil (fields_ne_nil '/' text)
  obtain rfl : text = first ++ below rest := text_eq_below (p := ⟨text⟩) hsegments
  have hcomponents := components_eq ⟨first ++ below rest⟩
  rw [show (⟨first ++ below rest⟩ : Path).segments = first :: rest from hsegments] at hcomponents
  cases hfirst : component? first with
  | some c =>
    have hempty : first ≠ "" := by
      rintro rfl
      contradiction
    have hdot : first ≠ "." := by
      rintro rfl
      contradiction
    have hhead : (⟨first ++ below rest⟩ : Path).segments.head? = some first :=
      congrArg List.head? hsegments
    have hlead := lead_eq_nil_of_ne hhead hempty hdot
    rw [hlead, List.filterMap_cons_some hfirst] at hcomponents
    rw [hcomponents]
    show Respelled _ ⟨c.text ++ _⟩
    rw [text_of_component? hfirst]
    exact respelled_below hempty rest
  | none =>
    rw [List.filterMap_cons_none hfirst] at hcomponents
    obtain rfl | rfl := eq_of_component?_eq_none hfirst
    · cases rest with
      | nil => exact .refl _
      | cons next rest =>
        have hlead : (⟨"" ++ below (next :: rest)⟩ : Path).lead = [.root] := by
          simp [lead, isAbsolute, below]
        rw [hlead] at hcomponents
        rw [hcomponents]
        exact (respelled_slash_below next rest).trans (respelled_below (by decide) (next :: rest))
    · have hlead : (⟨"." ++ below rest⟩ : Path).lead = [.here] := by
        have hhead : (⟨"." ++ below rest⟩ : Path).segments.head? = some "." :=
          congrArg List.head? hsegments
        simp [lead, isAbsolute, hhead]
      rw [hlead] at hcomponents
      rw [hcomponents]
      exact respelled_below (by decide) rest

/-- **Comparing components tells whether two paths are spellings of one.** -/
theorem same_iff_respelled : p.Same q ↔ Respelled p q := by
  refine ⟨fun h => ?_, Respelled.same⟩
  have hcomponents := respelled_ofComponents p
  rw [h] at hcomponents
  exact hcomponents.trans (respelled_ofComponents q).symm

end Path

end ModuleLoader
