/-!
# Byte strings

Files, encoded interfaces and everything that is hashed are finite lists of bytes. A list rather
than a packed array, so that readers are recursions on the data and statements about what was read
and what is left are statements about `++`.

Besides the list itself this module fixes three small conventions: hexadecimal spelling, words
stored lowest byte first, and text as UTF-8.
-/

namespace ModuleLoader

-- Powers are the ones that come with the numbers, whatever algebra is imported elsewhere.
attribute [local instance (high)] instPowNat

/-- A byte string. -/
abbrev Bytes := List UInt8

/-- The lower-case hexadecimal digit of a number below sixteen. -/
def hexDigit (n : Nat) : Char :=
  if n < 10 then Char.ofNat (48 + n) else Char.ofNat (87 + n)

/-- The value of a hexadecimal digit of either case. -/
def hexValue? (c : Char) : Option Nat :=
  if '0' ≤ c ∧ c ≤ '9' then some (c.toNat - 48)
  else if 'a' ≤ c ∧ c ≤ 'f' then some (c.toNat - 87)
  else if 'A' ≤ c ∧ c ≤ 'F' then some (c.toNat - 55)
  else none

namespace Bytes

/-- Two lower-case hexadecimal digits per byte. -/
def toHex (bytes : Bytes) : String :=
  String.ofList (bytes.flatMap fun b => [hexDigit (b.toNat / 16), hexDigit (b.toNat % 16)])

/-- The bytes that a list of hexadecimal digits spells, two digits a byte. -/
def ofHexDigits? : List Char → Option Bytes
  | [] => some []
  | [_] => none
  | high :: low :: rest => do
    let h ← hexValue? high
    let l ← hexValue? low
    let bytes ← ofHexDigits? rest
    return UInt8.ofNat (16 * h + l) :: bytes

/-- The bytes that a hexadecimal text spells. -/
def ofHex? (text : String) : Option Bytes := ofHexDigits? text.toList

/-- The lowest `width` bytes of a number, lowest first. -/
def ofNatLE : (width : Nat) → Nat → Bytes
  | 0, _ => []
  | width + 1, n => UInt8.ofNat n :: ofNatLE width (n / 256)

/-- The number whose bytes, lowest first, are the given ones. -/
def toNatLE : Bytes → Nat
  | [] => 0
  | b :: rest => b.toNat + 256 * toNatLE rest

@[simp] theorem length_ofNatLE (width n : Nat) : (ofNatLE width n).length = width := by
  induction width generalizing n with
  | zero => rfl
  | succ width ih => simp [ofNatLE, ih]

/-- A number that fits the width is read back. -/
theorem toNatLE_ofNatLE {width n : Nat} (h : n < 256 ^ width) :
    toNatLE (ofNatLE width n) = n := by
  induction width generalizing n with
  | zero => simp_all [ofNatLE, toNatLE]
  | succ width ih =>
    have hdiv : n / 256 < 256 ^ width := Nat.div_lt_of_lt_mul (by rw [← Nat.pow_succ']; exact h)
    simp only [ofNatLE, toNatLE, ih hdiv]
    simp
    omega

/-- The UTF-8 bytes of a text. -/
def ofText (text : String) : Bytes := text.toByteArray.data.toList

/-- The text whose UTF-8 bytes are given, if they are UTF-8. -/
def text? (bytes : Bytes) : Option String := String.fromUTF8? ⟨bytes.toArray⟩

/-- The bytes of a text read back as that text. -/
@[simp] theorem text?_ofText (text : String) : text? (ofText text) = some text := by
  have : (⟨(text.toByteArray.data.toList).toArray⟩ : ByteArray) = text.toByteArray := by
    cases text.toByteArray; rfl
  simp only [text?, ofText, this]
  simp only [String.fromUTF8?, Option.dite_none_right_eq_some, Option.some.injEq]
  exact ⟨text.isValidUTF8, rfl⟩

/-- Texts with the same bytes are the same. -/
theorem ofText_injective {text text' : String} (h : ofText text = ofText text') : text = text' := by
  have hread := text?_ofText text
  rw [h, text?_ofText] at hread
  exact (Option.some.inj hread).symm

/-- The bytes of two texts in a row. -/
theorem ofText_append (text text' : String) :
    ofText (text ++ text') = ofText text ++ ofText text' := by
  unfold ofText
  rw [String.toByteArray_append, ByteArray.data_append, Array.toList_append]

/-- Bytes that read as a text are the bytes of that text. -/
theorem ofText_of_text? {bytes : Bytes} {text : String} (h : text? bytes = some text) :
    ofText text = bytes := by
  unfold text? String.fromUTF8? at h
  split at h
  · rw [Option.some.injEq] at h
    subst h
    rfl
  · contradiction

end Bytes

end ModuleLoader
