import ModuleLoader.Fields

/-!
# Texts and their fields

Cutting a text into fields and putting fields together undo each other: a text is its fields with
separators between them, and every list of texts without separators, unless it is empty, is the list
of the fields of what it is put together to. So what is said of a text can be said of its fields.
That a text begins with another one and a separator, for instance, says that the fields of the one
begin with the fields of the other, and are more (`isPrefix_fields_iff`).
-/

namespace ModuleLoader

variable {separator : Char} {text field : String}

/-! ## Cutting and putting together -/

/-- The fields of a text after one more character. -/
theorem splitFields_cons (separator c : Char) (rest : List Char) :
    splitFields separator (c :: rest)
      = if c = separator then
          ([], (splitFields separator rest).1 :: (splitFields separator rest).2)
        else (c :: (splitFields separator rest).1, (splitFields separator rest).2) := rfl

/-- The fields of a list of characters are the lists between its separators. -/
theorem splitFields_eq_splitOn (separator : Char) (chars : List Char) :
    (splitFields separator chars).1 :: (splitFields separator chars).2
      = chars.splitOn separator := by
  induction chars with
  | nil => simp [splitFields]
  | cons c rest ih =>
    rw [splitFields_cons, List.splitOn_cons_eq_if_modifyHead, ← ih]
    by_cases h : c = separator <;> simp [h]

/-- The fields of a text are the lists between its separators, as texts. -/
theorem fields_eq_splitOn (separator : Char) (text : String) :
    fields separator text = (text.toList.splitOn separator).map String.ofList :=
  congrArg (List.map String.ofList) (splitFields_eq_splitOn separator text.toList)

/-- No field holds the separator. -/
theorem notMem_of_mem_fields (h : field ∈ fields separator text) : separator ∉ field.toList := by
  have hchars : ∀ chars : List Char, ∀ f ∈ chars.splitOn separator, separator ∉ f := by
    intro chars
    induction chars with
    | nil => simp
    | cons c rest ih =>
      rw [← splitFields_eq_splitOn] at ih ⊢
      obtain ⟨hfirst, hothers⟩ := List.forall_mem_cons.1 ih
      rw [splitFields_cons]
      split
      · exact List.forall_mem_cons.2 ⟨List.not_mem_nil, ih⟩
      · rename_i hc
        exact List.forall_mem_cons.2
          ⟨List.not_mem_cons_of_ne_of_not_mem (Ne.symm hc) hfirst, hothers⟩
  rw [fields_eq_splitOn] at h
  obtain ⟨f, hf, rfl⟩ := List.mem_map.1 h
  rw [String.toList_ofList]
  exact hchars text.toList f hf

/-- What a field holds is in the text. -/
theorem mem_of_mem_fields (h : field ∈ fields separator text) {c : Char} (hc : c ∈ field.toList) :
    c ∈ text.toList := by
  have hchars : ∀ chars : List Char, ∀ f ∈ chars.splitOn separator, f ⊆ chars := by
    intro chars
    induction chars with
    | nil => simp
    | cons c rest ih =>
      rw [← splitFields_eq_splitOn] at ih ⊢
      obtain ⟨hfirst, hothers⟩ := List.forall_mem_cons.1 ih
      have htail : ∀ f : List Char, f ⊆ rest → f ⊆ c :: rest := fun _ hf =>
        List.Subset.trans hf (List.subset_cons_self c rest)
      rw [splitFields_cons]
      split
      · exact List.forall_mem_cons.2 ⟨List.nil_subset _, fun f hf => htail f (ih f hf)⟩
      · exact List.forall_mem_cons.2
          ⟨List.cons_subset_cons c hfirst, fun f hf => htail f (hothers f hf)⟩
  rw [fields_eq_splitOn] at h
  obtain ⟨f, hf, rfl⟩ := List.mem_map.1 h
  rw [String.toList_ofList] at hc
  exact hchars text.toList f hf hc

/-- **The fields of a text, put together, are the text.** -/
@[simp] theorem intercalate_fields (separator : Char) (text : String) :
    String.intercalate (String.singleton separator) (fields separator text) = text := by
  rw [← String.toList_inj, String.toList_intercalate, fields_eq_splitOn, List.map_map,
    show String.toList ∘ String.ofList = id from funext fun _ => String.toList_ofList, List.map_id,
    String.toList_singleton, List.intercalate_splitOn]

/-- **Texts without separators, put together, are the fields of that text.** -/
theorem fields_intercalate {texts : List String} (h : ∀ t ∈ texts, separator ∉ t.toList)
    (hne : texts ≠ []) :
    fields separator (String.intercalate (String.singleton separator) texts) = texts := by
  rw [fields_eq_splitOn, String.toList_intercalate, String.toList_singleton,
    List.splitOn_intercalate separator (by simpa using h) (by simpa using hne), List.map_map,
    show String.ofList ∘ String.toList = id from funext fun _ => String.ofList_toList, List.map_id]

/-- A text is known by its fields. -/
theorem eq_of_fields_eq {text' : String} (h : fields separator text = fields separator text') :
    text = text' := by
  rw [← intercalate_fields separator text, h, intercalate_fields]

/-! ## Texts in a row -/

/-- **The fields of two texts with a separator between them** are those of the one and then those of
the other. -/
theorem fields_append_separator (separator : Char) (front back : String) :
    fields separator (front ++ String.singleton separator ++ back)
      = fields separator front ++ fields separator back := by
  rw [fields_eq_splitOn, String.toList_append, String.toList_append, String.toList_singleton,
    List.append_assoc, List.singleton_append, List.splitOn_append_cons_self, List.map_append,
    ← fields_eq_splitOn, ← fields_eq_splitOn]

/-- A text without separators goes on with the last field of the text before it. -/
theorem fields_append_of_notMem {front back last : String} {init : List String}
    (hfront : fields separator front = init ++ [last]) (hback : separator ∉ back.toList) :
    fields separator (front ++ back) = init ++ [last ++ back] := by
  have hnone : ∀ t ∈ init ++ [last ++ back], separator ∉ t.toList := by
    intro t ht
    have hold : ∀ t ∈ init ++ [last], separator ∉ t.toList := by
      rw [← hfront]
      exact fun _ => notMem_of_mem_fields
    obtain ht | ht := List.mem_append.1 ht
    · exact hold t (List.mem_append_left _ ht)
    · rw [List.mem_singleton.1 ht, String.toList_append]
      have hlast := hold last (List.mem_append_right _ (List.mem_singleton_self last))
      exact fun hmem => (List.mem_append.1 hmem).elim hlast hback
  have htext : String.intercalate (String.singleton separator) (init ++ [last ++ back])
      = front ++ back := by
    rw [← intercalate_fields separator front, hfront]
    cases init with
    | nil => simp
    | cons first rest =>
      rw [String.intercalate_append_of_ne_nil (by simp) (by simp),
        String.intercalate_append_of_ne_nil (by simp) (by simp)]
      simp [String.append_assoc]
  rw [← htext, fields_intercalate hnone (by simp)]

/-- **A text without separators at the end of another one is the end of its last field.** -/
theorem exists_fields_append (front : String) {back : String} (h : separator ∉ back.toList) :
    ∃ init last, fields separator (front ++ back) = init ++ [last ++ back] :=
  ⟨_, _, fields_append_of_notMem
    (List.dropLast_concat_getLast (fields_ne_nil separator front)).symm h⟩

/-- After a separator at the end of a text there is an empty field. -/
theorem exists_fields_of_getLast? (h : text.toList.getLast? = some separator) :
    ∃ init, fields separator text = init ++ [""] := by
  obtain ⟨front, hfront⟩ := List.getLast?_eq_some_iff.1 h
  have htext : text = String.ofList front ++ String.singleton separator ++ "" := by
    rw [← String.toList_inj, hfront]
    simp
  refine ⟨fields separator (String.ofList front), ?_⟩
  rw [htext, fields_append_separator]
  rfl

/-- **A text has at most one field more than it has bytes.** -/
theorem length_fields_le (separator : Char) (text : String) :
    (fields separator text).length ≤ text.utf8ByteSize + 1 := by
  have hchars : ∀ chars : List Char,
      (splitFields separator chars).2.length ≤ (String.ofList chars).utf8ByteSize := by
    intro chars
    induction chars with
    | nil => exact Nat.zero_le _
    | cons c rest ih =>
      have hpos := c.utf8Size_pos
      rw [splitFields_cons, String.ofList_cons, String.utf8ByteSize_append,
        String.utf8ByteSize_singleton]
      split
      · rw [List.length_cons]
        omega
      · dsimp only
        omega
  have hothers := hchars text.toList
  rw [String.ofList_toList] at hothers
  unfold fields
  dsimp only
  rw [List.length_map, List.length_cons]
  exact Nat.succ_le_succ hothers

/-! ## Fields at the beginning -/

/-- **The fields of a text begin with those of another one** just if the two are the same, or the text
begins with the other one and a separator. -/
theorem isPrefix_fields_iff {above : String} :
    fields separator above <+: fields separator text ↔
      text = above ∨ above.toList ++ [separator] <+: text.toList := by
  constructor
  · rintro ⟨rest, hrest⟩
    by_cases hnil : rest = []
    · rw [hnil, List.append_nil] at hrest
      exact .inl (eq_of_fields_eq hrest.symm)
    · refine .inr ⟨(String.intercalate (String.singleton separator) rest).toList, ?_⟩
      have htext := intercalate_fields separator text
      rw [← hrest, String.intercalate_append_of_ne_nil (fields_ne_nil separator above) hnil,
        intercalate_fields] at htext
      rw [← htext]
      simp
  · rintro (rfl | ⟨rest, hrest⟩)
    · exact List.prefix_refl _
    · have htext : text = above ++ String.singleton separator ++ String.ofList rest := by
        rw [← String.toList_inj, ← hrest]
        simp
      rw [htext, fields_append_separator]
      exact List.prefix_append _ _

end ModuleLoader
