import ModuleLoader.Proofs.Text.Fields
import ModuleLoader.Path

/-!
# Components of paths

The components of a path are what stands at its very beginning, if that is a slash or a dot
(`Path.lead`), and then what its segments stand for (`Path.components_eq`). A relative path that is
joined onto another one adds what its segments stand for (`Path.components_join_of_ne`): slashes
that are missing or superfluous in between make no difference, and a dot at its beginning counts
only where there is nothing before it.
-/

namespace ModuleLoader

namespace Path

variable {p q : Path} {x : String}

/-- What the components of a path begin with, if its segments do not stand for it. -/
def lead (p : Path) : List Component :=
  if p.isAbsolute then [.root] else if p.segments.head? = some "." then [.here] else []

/-- The first segment of an absolute path is empty. -/
theorem head?_segments_of_isAbsolute (h : p.isAbsolute = true) : p.segments.head? = some "" := by
  have hhead : p.text.toList.head? = some '/' := by simpa [isAbsolute] using h
  obtain ⟨rest, hrest⟩ := List.head?_eq_some_iff.1 hhead
  simp [segments, fields, hrest, splitFields_cons]

/-- **The components of a path** are its beginning and what its segments stand for. -/
theorem components_eq (p : Path) : p.components = p.lead ++ p.segments.filterMap component? := by
  have habsolute := @head?_segments_of_isAbsolute p
  unfold components lead
  split
  · rename_i rest heq
    by_cases h : p.isAbsolute = true <;> simp [h, heq, component?]
  · rename_i rest heq
    have h : p.isAbsolute = false := by simpa [heq] using habsolute
    simp [h, heq, component?]
  · rename_i hempty hdot
    cases heq : p.segments with
    | nil => exact absurd heq (fields_ne_nil '/' p.text)
    | cons first rest =>
      have hfirst : first ≠ "" := fun h => hempty rest (h ▸ heq)
      have hfirst' : first ≠ "." := fun h => hdot rest (h ▸ heq)
      have h : p.isAbsolute = false := by simpa [heq, hfirst] using habsolute
      simp [h, hfirst']

/-- The last name of a path is its last component. -/
theorem getLast?_components {init : List String} {last : String}
    (hsegments : p.segments = init ++ [last]) (hname : component? last = some (.name last)) :
    p.components.getLast? = some (.name last) := by
  rw [components_eq, hsegments, List.filterMap_append, List.filterMap_cons_some hname,
    List.filterMap_nil, ← List.append_assoc, List.getLast?_concat]

/-- A path has nothing else at its beginning if its first segment counts. -/
theorem lead_eq_nil_of_ne {first : String} (h : p.segments.head? = some first) (hempty : first ≠ "")
    (hdot : first ≠ ".") : p.lead = [] := by
  have habsolute : ¬ p.isAbsolute = true := fun habsolute =>
    hempty (Option.some.inj (h.symm.trans (head?_segments_of_isAbsolute habsolute)))
  unfold lead
  rw [if_neg habsolute, if_neg (by simpa [h] using hdot)]

/-- So it is if that is a name. -/
theorem lead_eq_nil {first : String} (h : p.segments.head? = some first)
    (hname : component? first = some (.name first)) : p.lead = [] := by
  have hempty : first ≠ "" := by rintro rfl; contradiction
  have hdot : first ≠ "." := by rintro rfl; exact absurd hname (by decide)
  exact lead_eq_nil_of_ne h hempty hdot

/-! ## The two sides of a slash -/

/-- What comes after a text does not matter to whether it is absolute. -/
theorem isAbsolute_append (hx : x ≠ "") (y : String) :
    (⟨x ++ y⟩ : Path).isAbsolute = (⟨x⟩ : Path).isAbsolute := by
  obtain ⟨c, cs, hchars⟩ : ∃ c cs, x.toList = c :: cs :=
    List.exists_cons_of_ne_nil fun hnil => hx (String.toList_inj.1 hnil)
  unfold isAbsolute
  rw [String.toList_append, hchars]
  rfl

/-- The segments on the two sides of a slash. -/
theorem segments_append_slash (x y : String) :
    (⟨x ++ "/" ++ y⟩ : Path).segments = (⟨x⟩ : Path).segments ++ (⟨y⟩ : Path).segments :=
  fields_append_separator '/' x y

/-- After a slash at the end there is an empty segment. -/
theorem segments_append_ending (x : String) :
    (⟨x ++ "/"⟩ : Path).segments = (⟨x⟩ : Path).segments ++ [""] := by
  have hsegments := segments_append_slash x ""
  rw [String.append_empty] at hsegments
  exact hsegments

/-- What comes after a slash does not matter to the first segment. -/
theorem head?_segments_append_slash (x y : String) :
    (⟨x ++ "/" ++ y⟩ : Path).segments.head? = (⟨x⟩ : Path).segments.head? := by
  obtain ⟨first, rest, hx⟩ : ∃ first rest, (⟨x⟩ : Path).segments = first :: rest :=
    List.exists_cons_of_ne_nil (fields_ne_nil '/' x)
  rw [segments_append_slash, hx]
  rfl

/-- A path that holds a slash begins with what is before it, whatever comes after it. -/
theorem lead_append_slash (x y : String) :
    (⟨x ++ "/" ++ y⟩ : Path).lead = (⟨x ++ "/"⟩ : Path).lead := by
  have hend := head?_segments_append_slash x ""
  rw [String.append_empty] at hend
  unfold lead
  rw [isAbsolute_append (by simp) y, head?_segments_append_slash, hend]

/-- A slash at the end does not matter to the beginning. -/
theorem lead_append_ending (hx : x ≠ "") : (⟨x ++ "/"⟩ : Path).lead = (⟨x⟩ : Path).lead := by
  have hhead := head?_segments_append_slash x ""
  rw [String.append_empty] at hhead
  unfold lead
  rw [isAbsolute_append hx, hhead]

/-- **The components on the two sides of a slash.** -/
theorem components_append_slash (x y : String) :
    (⟨x ++ "/" ++ y⟩ : Path).components
      = (⟨x ++ "/"⟩ : Path).components ++ (⟨y⟩ : Path).segments.filterMap component? := by
  rw [components_eq, components_eq ⟨x ++ "/"⟩, lead_append_slash, segments_append_slash,
    segments_append_ending]
  simp [component?]

/-- **A slash at the end adds no component**, except to nothing. -/
theorem components_append_ending (hx : x ≠ "") :
    (⟨x ++ "/"⟩ : Path).components = (⟨x⟩ : Path).components := by
  rw [components_eq, components_eq ⟨x⟩, lead_append_ending hx, segments_append_ending]
  simp [component?]

/-! ## Joined paths -/

/-- A path that is joined onto an empty one is left as it is. -/
theorem join_of_empty (hp : p.text = "") (q : Path) : p.join q = q := by
  unfold join
  split
  · rfl
  · rw [hp, if_pos (by decide), String.empty_append]

/-- A path without slashes is relative. -/
theorem isAbsolute_eq_false (hq : '/' ∉ q.text.toList) : q.isAbsolute = false := by
  unfold isAbsolute
  cases hhead : q.text.toList.head? with
  | none => rfl
  | some c =>
    have hc : c ≠ '/' := fun hc => hq (hc ▸ List.mem_of_mem_head? hhead)
    simpa using hc

/-- The slash that the first path ends with is the one between the two. -/
theorem join_of_ending (x : String) (hq : q.isAbsolute = false) :
    (⟨x ++ "/"⟩ : Path).join q = ⟨x ++ "/" ++ q.text⟩ := by
  unfold join
  rw [if_neg (by simp [hq]), if_pos (by simp)]

/-- If it ends with none, there is one put in between. -/
theorem join_of_getLast?_ne (hp : p.text ≠ "") (hend : p.text.toList.getLast? ≠ some '/')
    (hq : q.isAbsolute = false) : p.join q = ⟨p.text ++ "/" ++ q.text⟩ := by
  unfold join
  rw [if_neg (by simp [hq]), if_neg (by simp [hend, hp])]

/-- **A relative path adds what its segments stand for** to a path that is not empty. -/
theorem components_join_of_ne (hp : p.text ≠ "") (hq : q.isAbsolute = false) :
    (p.join q).components = p.components ++ q.segments.filterMap component? := by
  by_cases hend : p.text.toList.getLast? = some '/'
  · obtain ⟨front, hfront⟩ := List.getLast?_eq_some_iff.1 hend
    obtain rfl : p = ⟨String.ofList front ++ "/"⟩ := by
      refine congrArg Path.mk (String.toList_inj.1 ?_)
      rw [hfront]
      simp
    rw [join_of_ending _ hq, components_append_slash]
  · rw [join_of_getLast?_ne hp hend hq, components_append_slash, components_append_ending hp]

/-- **The components of a joined path** are those of the two paths, if the second one has nothing at
its beginning but its segments. -/
theorem components_join (p : Path) (hq : q.lead = []) :
    (p.join q).components = p.components ++ q.components := by
  have hrelative : q.isAbsolute = false := by
    cases h : q.isAbsolute with
    | false => rfl
    | true => simp [lead, h] at hq
  by_cases hp : p.text = ""
  · rw [join_of_empty hp, show p = ⟨""⟩ from congrArg Path.mk hp]
    rfl
  · rw [components_join_of_ne hp hrelative, components_eq q, hq, List.nil_append]

/-- Two paths are the same just if they are with one path joined onto each of them. -/
theorem join_same_join_iff {p' : Path} (hq : q.lead = []) :
    (p.join q).Same (p'.join q) ↔ p.Same p' := by
  unfold Same
  rw [components_join p hq, components_join p' hq, List.append_cancel_right_eq]

/-- Two paths that are joined onto one are the same just if they were before. -/
theorem same_join_iff {q' : Path} (p : Path) (hq : q.lead = []) (hq' : q'.lead = []) :
    (p.join q).Same (p.join q') ↔ q.Same q' := by
  unfold Same
  rw [components_join p hq, components_join p hq', List.append_cancel_left_eq]

end Path

end ModuleLoader
