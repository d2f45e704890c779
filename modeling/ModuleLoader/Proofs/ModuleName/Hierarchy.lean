import ModuleLoader.Proofs.Text.Fields
import ModuleLoader.Settings

/-!
# Names above names

A name lies under another one if its fields begin with the fields of the other one. Nobody cuts a name
into fields to find that out. It is enough to look whether the text is the same, or begins with the
other one and goes on with a dot; and that can be read off the bytes, as loaders do: a dot is one byte,
and where one character ends and the next one begins does not depend on what comes after.

The shortcut is exact whatever the two texts are. Dots at their ends or in a row bound empty fields,
and these count like any others: the empty name lies above all names that begin with a dot, and a name
that ends in a dot lies above those that go on with an empty field.
-/

namespace ModuleLoader

/-- A list goes on with some member after its beginning. -/
theorem concat_isPrefix_iff {α : Type} {front whole : List α} {last : α} :
    front ++ [last] <+: whole ↔ front <+: whole ∧ whole[front.length]? = some last := by
  induction front generalizing whole with
  | nil => cases whole <;> simp [eq_comm]
  | cons first rest ih =>
    cases whole with
    | nil => simp
    | cons first' rest' => simp [ih, and_assoc]

/-- **The bytes of a text begin with those of another one** just if its characters do. -/
theorem Bytes.isPrefix_ofText_iff {front text : String} :
    Bytes.ofText front <+: Bytes.ofText text ↔ front.toList <+: text.toList := by
  constructor
  · rintro ⟨rest, hrest⟩
    refine List.isPrefix_of_utf8Encode_append_eq_utf8Encode ⟨rest.toArray⟩ ?_
    rw [String.utf8Encode_toList, String.utf8Encode_toList]
    refine ByteArray.ext (Array.ext' ?_)
    rw [ByteArray.data_append, Array.toList_append]
    exact hrest
  · rintro ⟨rest, hrest⟩
    refine ⟨Bytes.ofText (String.ofList rest), ?_⟩
    rw [← Bytes.ofText_append]
    congr 1
    rw [← String.toList_inj, ← hrest]
    simp

namespace ModuleName

variable {m : ModuleName} {above : String}

/-- **The test on bytes**: the texts are the same, or the bytes of the name are more than those of the
other text, begin with them, and go on with a dot. -/
def hasBytePrefix (m : ModuleName) (above : String) : Bool :=
  let bytes := Bytes.ofText m.text
  let front := Bytes.ofText above
  m.text == above ||
    (front.length < bytes.length && front.isPrefixOf bytes && bytes[front.length]? == some 0x2E)

/-- The test on characters, as a statement. -/
theorem hasPrefix_eq_true_iff :
    m.hasPrefix above = true ↔ m.text = above ∨ above.toList ++ ['.'] <+: m.text.toList := by
  simp [hasPrefix]

/-- The test on bytes, as a statement. That there are more bytes is said by the dot. -/
theorem hasBytePrefix_eq_true_iff :
    m.hasBytePrefix above = true ↔
      m.text = above ∨ Bytes.ofText above ++ [0x2E] <+: Bytes.ofText m.text := by
  rw [concat_isPrefix_iff]
  simp only [hasBytePrefix, Bool.or_eq_true, Bool.and_eq_true, beq_iff_eq, decide_eq_true_eq,
    List.isPrefixOf_iff_prefix]
  refine or_congr_right ⟨fun h => ⟨h.1.2, h.2⟩, fun h => ⟨⟨?_, h.1⟩, h.2⟩⟩
  exact (List.getElem?_eq_some_iff.1 h.2).1

/-- **The two tests have the same answer.** -/
theorem hasBytePrefix_eq (m : ModuleName) (above : String) :
    m.hasBytePrefix above = m.hasPrefix above := by
  have hdot : Bytes.ofText above ++ [0x2E] = Bytes.ofText (above ++ ".") :=
    (Bytes.ofText_append above ".").symm
  rw [Bool.eq_iff_iff, hasBytePrefix_eq_true_iff, hasPrefix_eq_true_iff, hdot,
    Bytes.isPrefix_ofText_iff, String.toList_append]
  exact Iff.rfl

/-- **A name lies under another one** just if its fields begin with the fields of the other one. -/
theorem hasPrefix_iff : m.hasPrefix above = true ↔ fields '.' above <+: m.parts :=
  hasPrefix_eq_true_iff.trans isPrefix_fields_iff.symm

end ModuleName

namespace Settings

variable {s : Settings} {m n : ModuleName}

/-- A module is built in just if its fields begin with those of a configured name. -/
theorem isPrimitive_iff :
    s.isPrimitive m = true ↔ ∃ above ∈ s.primitives.modules, fields '.' above <+: m.parts := by
  unfold isPrimitive
  rw [List.any_eq_true]
  exact exists_congr fun above => and_congr_right fun _ => ModuleName.hasPrefix_iff

/-- What lies under a built-in module is built in. -/
theorem isPrimitive_of_isPrefix (h : s.isPrimitive m = true) (hparts : m.parts <+: n.parts) :
    s.isPrimitive n = true := by
  obtain ⟨above, hmem, hprefix⟩ := isPrimitive_iff.1 h
  exact isPrimitive_iff.2 ⟨above, hmem, hprefix.trans hparts⟩

end Settings

namespace ModuleName

/-- **Prefixes match whole fields.** For all texts, whatever their characters and wherever their dots
stand, a name has another one as a prefix just if the fields of the other one are the first of its own,
and comparing bytes gives the same answer. So a module is built in just if the fields of a configured
name are the first of its own, and then everything under it is built in, too. -/
theorem hasPrefix_iff_fields (m : ModuleName) (above : String) (s : Settings) :
    (m.hasPrefix above = true ↔ fields '.' above <+: m.parts) ∧
    m.hasBytePrefix above = m.hasPrefix above ∧
    (s.isPrimitive m = true ↔ ∃ above ∈ s.primitives.modules, fields '.' above <+: m.parts) ∧
    ∀ n : ModuleName, m.parts <+: n.parts → s.isPrimitive m = true → s.isPrimitive n = true :=
  ⟨hasPrefix_iff, hasBytePrefix_eq m above, Settings.isPrimitive_iff,
    fun _ hparts h => Settings.isPrimitive_of_isPrefix h hparts⟩

/-- A name is a prefix of those that go on after a dot, also after a character of several bytes, and
of no others. What goes on with an empty field lies under a built-in module as well. -/
theorem hasPrefix_iff_fields_multilingual :
    let s : Settings := { primitives := ⟨["Größe.ℕ"]⟩ }
    (⟨"Größe.ℕ.Null"⟩ : ModuleName).hasPrefix "Größe.ℕ" = true ∧
    (⟨"Größe.ℕ.Null"⟩ : ModuleName).hasPrefix "Größ" = false ∧
    (⟨"Größe.ℕ.Null"⟩ : ModuleName).parts <+: (⟨"Größe.ℕ.Null..Eins"⟩ : ModuleName).parts ∧
    s.isPrimitive ⟨"Größe.ℕ.Null"⟩ = true ∧ s.isPrimitive ⟨"Größe.ℕ.Null..Eins"⟩ = true := by
  have hunder : (⟨"Größe.ℕ.Null"⟩ : ModuleName).hasPrefix "Größe.ℕ" = true := by decide +kernel
  have hprimitive : ({ primitives := ⟨["Größe.ℕ"]⟩ } : Settings).isPrimitive ⟨"Größe.ℕ.Null"⟩
      = true := by decide +kernel
  have hparts : (⟨"Größe.ℕ.Null"⟩ : ModuleName).parts
      <+: (⟨"Größe.ℕ.Null..Eins"⟩ : ModuleName).parts := by decide +kernel
  exact ⟨hunder, by decide +kernel, hparts, hprimitive,
    (hasPrefix_iff_fields ⟨"Größe.ℕ.Null"⟩ "Größe.ℕ" { primitives := ⟨["Größe.ℕ"]⟩ }).2.2.2
      ⟨"Größe.ℕ.Null..Eins"⟩ hparts hprimitive⟩

end ModuleName

end ModuleLoader
