/-
Module: ChipEight.Proofs.Numerals
Purpose: The characters of written numbers, and the numbers that they are read back as.
Main exports: Numeral.hexChars_succ, Numeral.hexChars_digits, Numeral.glyphs,
  Numeral.decimal_subset_glyphs, Numeral.hexLiteral_subset_glyphs, Numeral.newline_notMem_decimal,
  Numeral.newline_notMem_hex, Numeral.read, Numeral.read_decimal, Numeral.read_hex,
  Numeral.decimal_injective, Numeral.hexLiteral_injective, Numeral.length_hex
-/
import ChipEight.Proofs.InstructionTable
import ChipEight.Text.Numeral
import Mathlib.Logic.Function.Basic

namespace ChipEight.Text.Numeral

/-!
### Digits in base sixteen

A number that is not negative is written like its sixteenth part in one place less, with its last
digit behind.
-/

theorem hexChars_natCast (width value : Nat) :
    hexChars width value =
      List.replicate (width - (Nat.toDigits 16 value).length) '0' ++ Nat.toDigits 16 value := by
  have unsigned : sign (value : Int) = [] := if_neg (Int.not_lt.mpr (Int.natCast_nonneg value))
  simp only [hexChars, unsigned, List.nil_append, List.length_nil, Nat.sub_zero, Int.natAbs_natCast]

theorem hexChars_one {value : Nat} (single : value < 16) :
    hexChars 1 value = [value.digitChar] := by
  rw [hexChars_natCast, Nat.toDigits_of_lt_base single]
  rfl

theorem hexChars_succ (width value : Nat) :
    hexChars (width + 2) value =
      hexChars (width + 1) (value / 16 : Nat) ++ [(value % 16).digitChar] := by
  rw [hexChars_natCast, hexChars_natCast]
  by_cases single : value < 16
  · rw [Nat.toDigits_of_lt_base single, Nat.div_eq_of_lt single, Nat.mod_eq_of_lt single,
      Nat.toDigits_zero, List.length_singleton, List.length_singleton, ← List.replicate_succ']
    rfl
  · have padding : width + 2 - ((Nat.toDigits 16 (value / 16)).length + 1) =
        width + 1 - (Nat.toDigits 16 (value / 16)).length := Nat.add_sub_add_right (width + 1) 1 _
    rw [Nat.toDigits_of_base_le (by decide) (Nat.not_lt.mp single), List.length_append,
      List.length_singleton, ← List.append_assoc, padding]

/-- A word is written as its four digits. -/
theorem hexChars_digits (word : UInt16) :
    hexChars 4 word.toNat = (Row.digits word).map Nat.digitChar := by
  have single : word.toNat / 16 / 16 / 16 < 16 := by
    have bound := word.toNat_lt
    omega
  rw [hexChars_succ, hexChars_succ, hexChars_succ, hexChars_one single]
  simp only [Nat.div_div_eq_div_mul]
  rfl

/-!
### Characters

Numbers are written with a few characters only, so what stands between two of them can be found.
-/

/-- The characters that numbers are written with: the sign, the marker of base sixteen, and the
digits. -/
def glyphs : List Char :=
  ['-', 'x', '0', '1', '2', '3', '4', '5', '6', '7', '8', '9', 'a', 'b', 'c', 'd', 'e', 'f']

theorem exists_digitChar_of_mem_toDigits {base value : Nat} {character : Char} (several : 1 < base)
    (shown : character ∈ Nat.toDigits base value) :
    ∃ digit < base, Nat.digitChar digit = character := by
  induction value using Nat.strongRecOn with
  | ind value ih =>
      rw [Nat.toDigits_eq_if several] at shown
      split at shown
      · next single => exact ⟨value, single, (List.mem_singleton.mp shown).symm⟩
      · next long =>
        have positive : 0 < base := Nat.lt_of_succ_lt several
        rcases List.mem_append.mp shown with high | last
        · have nonzero : 0 < value := Nat.lt_of_lt_of_le positive (Nat.not_lt.mp long)
          exact ih _ (Nat.div_lt_self nonzero several) high
        · exact ⟨value % base, Nat.mod_lt value positive, (List.mem_singleton.mp last).symm⟩

theorem toDigits_subset_glyphs {base : Nat} (several : 1 < base) (few : base ≤ 16) (value : Nat) :
    Nat.toDigits base value ⊆ glyphs := by
  intro character shown
  obtain ⟨digit, small, rfl⟩ := exists_digitChar_of_mem_toDigits several shown
  have all : ∀ digit < 16, Nat.digitChar digit ∈ glyphs := by decide
  exact all digit (Nat.lt_of_lt_of_le small few)

theorem sign_subset_glyphs (n : Int) : sign n ⊆ glyphs := by
  unfold sign
  split
  · decide
  · exact List.nil_subset glyphs

theorem decimal_subset_glyphs (n : Int) : (decimal n).toList ⊆ glyphs := by
  rw [decimal, String.toList_ofList]
  exact List.append_subset.mpr
    ⟨sign_subset_glyphs n, toDigits_subset_glyphs (by decide) (by decide) _⟩

theorem hex_subset_glyphs (width : Nat) (n : Int) : (hex width n).toList ⊆ glyphs := by
  have zeros (count : Nat) : List.replicate count '0' ⊆ glyphs := by
    intro character shown
    rw [List.eq_of_mem_replicate shown]
    decide
  rw [hex, String.toList_ofList, hexChars]
  exact List.append_subset.mpr
    ⟨List.append_subset.mpr ⟨sign_subset_glyphs n, zeros _⟩,
      toDigits_subset_glyphs (by decide) (by decide) _⟩

theorem hexLiteral_subset_glyphs (width : Nat) (n : Int) :
    (hexLiteral width n).toList ⊆ glyphs := by
  rw [hexLiteral, String.toList_append]
  exact List.append_subset.mpr ⟨by decide, hex_subset_glyphs width n⟩

@[simp] theorem newline_notMem_decimal (n : Int) : '\n' ∉ (decimal n).toList :=
  fun shown => absurd (decimal_subset_glyphs n shown) (by decide)

@[simp] theorem newline_notMem_hex (width : Nat) (n : Int) : '\n' ∉ (hex width n).toList :=
  fun shown => absurd (hex_subset_glyphs width n shown) (by decide)

/-!
### Reading a number

A written number is read from its first digit on.  Zeros in front of the others add nothing, and the
sign is no digit, so the number that was written comes back.
-/

/-- The value of a digit. -/
def digitValue (digit : Char) : Nat :=
  if digit.isDigit then digit.toNat - '0'.toNat else digit.toNat - 'a'.toNat + 10

/-- The number that digits make up. -/
def magnitude (base : Nat) (digits : List Char) : Nat :=
  digits.foldl (fun value digit => base * value + digitValue digit) 0

/-- The number that is written, with or without a sign. -/
def read (base : Nat) : List Char → Int
  | '-' :: digits => -magnitude base digits
  | digits => magnitude base digits

theorem magnitude_toDigits {base : Nat} (several : 1 < base) (few : base ≤ 16) (value : Nat) :
    magnitude base (Nat.toDigits base value) = value := by
  have digit_eq : ∀ digit < 16, digitValue (Nat.digitChar digit) = digit := by decide
  induction value using Nat.strongRecOn with
  | ind value ih =>
      rw [Nat.toDigits_eq_if several]
      split
      · next single =>
        rw [magnitude, List.foldl_cons, List.foldl_nil, digit_eq value (by omega)]
        omega
      · next long =>
        have last : value % base < base := Nat.mod_lt value (by omega)
        have smaller : value / base < value := Nat.div_lt_self (by omega) several
        rw [magnitude, List.foldl_append, ← magnitude, ih _ smaller, List.foldl_cons,
          List.foldl_nil, digit_eq _ (by omega), Nat.div_add_mod]

theorem magnitude_padded (base count : Nat) (digits : List Char) :
    magnitude base (List.replicate count '0' ++ digits) = magnitude base digits := by
  induction count with
  | zero => rfl
  | succ count ih =>
      rw [List.replicate_succ, List.cons_append, ← ih]
      rfl

/-- The sign is found because no digit looks like it. -/
theorem read_signed {base : Nat} {n : Int} {digits : List Char} (unsigned : '-' ∉ digits)
    (value : magnitude base digits = n.natAbs) : read base (sign n ++ digits) = n := by
  unfold sign
  split
  · rw [List.cons_append, List.nil_append, read, value]
    omega
  · rw [List.nil_append, read, value]
    · omega
    · intro rest same
      exact unsigned (same ▸ List.mem_cons_self)

theorem minus_notMem_toDigits {base : Nat} (several : 1 < base) (few : base ≤ 16) (value : Nat) :
    '-' ∉ Nat.toDigits base value := by
  intro shown
  obtain ⟨digit, small, same⟩ := exists_digitChar_of_mem_toDigits several shown
  have none : ∀ digit < 16, Nat.digitChar digit ≠ '-' := by decide
  exact none digit (Nat.lt_of_lt_of_le small few) same

theorem read_decimal (n : Int) : read 10 (decimal n).toList = n := by
  rw [decimal, String.toList_ofList]
  exact read_signed (minus_notMem_toDigits (by decide) (by decide) _)
    (magnitude_toDigits (by decide) (by decide) _)

theorem read_hex (width : Nat) (n : Int) : read 16 (hex width n).toList = n := by
  rw [hex, String.toList_ofList, hexChars, List.append_assoc]
  apply read_signed
  · rw [List.mem_append]
    rintro (padding | shown)
    · exact absurd (List.eq_of_mem_replicate padding) (by decide)
    · exact minus_notMem_toDigits (by decide) (by decide) _ shown
  · rw [magnitude_padded]
    exact magnitude_toDigits (by decide) (by decide) _

/-- Different integers look different in base ten. -/
theorem decimal_injective : Function.Injective decimal := by
  intro n other same
  rw [← read_decimal n, same, read_decimal]

/-- Different integers look different in base sixteen, however wide they are written. -/
theorem hexLiteral_injective (width : Nat) : Function.Injective (hexLiteral width) := by
  intro n other same
  have digits : hex width n = hex width other := (String.append_right_inj "0x").mp same
  rw [← read_hex width n, digits, read_hex]

/-- Neither the sign nor the digits are ever cut off. -/
theorem length_hex (width : Nat) (n : Int) :
    (hex width n).length =
      max width ((sign n).length + (Nat.toDigits 16 n.natAbs).length) := by
  rw [hex, String.length_ofList, hexChars, List.length_append, List.length_append,
    List.length_replicate]
  omega

end ChipEight.Text.Numeral
