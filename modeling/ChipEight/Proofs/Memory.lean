/-
Module: ChipEight.Proofs.Memory
Purpose: Exactly when each checked access to memory is refused, and what it yields otherwise.
Main exports: Memory.ext_byteAt, Memory.byteAt_splice_eq_getD, Memory.toNat_ofInt,
  Memory.ofInt_toNat, Memory.checkRange_eq_ok_iff, Memory.checkRange_eq_error_iff,
  Memory.word_eq_ok_iff, Memory.word_eq_error_iff, Memory.slice_eq_ok_iff,
  Memory.slice_eq_error_iff, Memory.slice_word, Memory.block_eq_ok_iff, Memory.block_eq_error_iff,
  Memory.write_eq_ok_iff, Memory.write_eq_error_iff, Memory.load_eq_ok_iff, Memory.load_eq_error_iff
-/
import ChipEight.Memory
import ChipEight.Proofs.Result

namespace ChipEight.Memory

open Result

/-- A memory is determined by its bytes. -/
theorem ext_byteAt {memory other : Memory}
    (same : ∀ address, memory.byteAt address = other.byteAt address) : memory = other := by
  cases memory with
  | mk bytes =>
      cases other with
      | mk bytes' =>
          congr 1
          apply Vector.ext
          intro address inside
          simpa [byteAt, inside] using same address

/-- The new bytes as options: an address that has none keeps its own. -/
theorem byteAt_splice_eq_getD {memory : Memory} {start : Nat} {values : List UInt8}
    (fits : start + values.length ≤ 4096) (address : Nat) :
    (memory.splice start values fits).byteAt address =
      (if start ≤ address then values[address - start]? else none).getD
        (memory.byteAt address) := by
  rw [byteAt_splice]
  by_cases above : start ≤ address
  · rw [if_pos above]
    by_cases below : address < start + values.length
    · have inside : address - start < values.length := by omega
      rw [if_pos ⟨above, below⟩, List.getElem?_eq_getElem inside]
      rfl
    · have beyond : values.length ≤ address - start := by omega
      rw [if_neg (fun both => below both.2), List.getElem?_eq_none beyond]
      rfl
  · rw [if_neg above, if_neg (fun both => above both.1)]
    rfl

/-- The byte of an integer is the integer modulo 256. -/
theorem toNat_ofInt (value : Int) : (UInt8.ofInt value).toNat = (value % 256).toNat := by
  rw [UInt8.ofInt, UInt8.toNat_ofNat']
  omega

theorem ofInt_toNat (byte : UInt8) : UInt8.ofInt (byte.toNat : Int) = byte := by
  apply UInt8.toNat_inj.mp
  rw [toNat_ofInt]
  have small := byte.toNat_lt
  omega

/-!
### Ranges

Every checked access is a `checkRange` with a result that cannot fail behind it, so the laws of
these two parts are all that the accesses need.
-/

theorem checkRange_eq_ok_iff {start stop : Int} {inside : PLift (0 ≤ start ∧ stop ≤ 4096)} :
    checkRange start stop = .ok inside ↔ 0 ≤ start ∧ stop ≤ 4096 := by
  by_cases negative : start < 0
  · rw [checkRange, dif_pos negative]
    exact iff_of_false nofun (fun both => by omega)
  · by_cases beyond : stop > 4096
    · rw [checkRange, dif_neg negative, dif_pos beyond]
      exact iff_of_false nofun (fun both => by omega)
    · rw [checkRange, dif_neg negative, dif_neg beyond]
      exact iff_of_true rfl ⟨Int.not_lt.mp negative, Int.not_lt.mp beyond⟩

/-- A refused range is blamed on its start when that is negative, and otherwise on the first of its
addresses that lies beyond the end. -/
theorem checkRange_eq_error_iff {start stop : Int} {fault : Fault} :
    checkRange start stop = .error fault ↔
      start < 0 ∧ fault = .memoryOutOfBounds start ∨
      0 ≤ start ∧ 4096 < stop ∧ fault = .memoryOutOfBounds (max start 4096) := by
  by_cases negative : start < 0
  · have notBoth : ¬ 0 ≤ start := by omega
    rw [checkRange, dif_pos negative]
    simp [negative, notBoth, eq_comm]
  · have nonnegative : 0 ≤ start := Int.not_lt.mp negative
    by_cases beyond : stop > 4096
    · rw [checkRange, dif_neg negative, dif_pos beyond]
      simp [negative, nonnegative, show 4096 < stop from beyond, eq_comm]
    · rw [checkRange, dif_neg negative, dif_neg beyond]
      constructor
      · intro refused
        cases refused
      · rintro (⟨below, _⟩ | ⟨_, above, _⟩)
        · exact absurd below negative
        · exact absurd above beyond

theorem extent_inside_iff {start count : Nat} :
    (0 ≤ (start : Int) ∧ (start : Int) + count ≤ 4096) ↔ start + count ≤ 4096 := by
  omega

/-- A range that is given by its start and its length can only be refused at the upper end. -/
theorem checkRange_extent_eq_error_iff {start count : Nat} {fault : Fault} :
    checkRange start (start + count) = .error fault ↔
      4096 < start + count ∧ fault = .memoryOutOfBounds (max start 4096) := by
  rw [checkRange_eq_error_iff]
  constructor
  · intro reasons
    rcases reasons with ⟨negative, _⟩ | ⟨_, beyond, blamed⟩
    · omega
    · exact ⟨by omega, blamed⟩
  · intro reason
    obtain ⟨beyond, blamed⟩ := reason
    exact .inr ⟨Int.natCast_nonneg start, by omega, blamed⟩

section Guarded

variable {α : Type} {start stop : Int} {value : PLift (0 ≤ start ∧ stop ≤ 4096) → α} {result : α}
  {fault : Fault}

theorem guarded_eq_ok_iff :
    (checkRange start stop >>= fun inside => pure (value inside)) = .ok result ↔
      ∃ inside : 0 ≤ start ∧ stop ≤ 4096, result = value ⟨inside⟩ := by
  rw [bind_eq_ok_iff]
  constructor
  · intro passed
    obtain ⟨⟨inside⟩, _, same⟩ := passed
    cases same
    exact ⟨inside, rfl⟩
  · intro passed
    obtain ⟨inside, same⟩ := passed
    rw [same]
    exact ⟨⟨inside⟩, checkRange_eq_ok_iff.mpr inside, rfl⟩

theorem guarded_eq_error_iff :
    (checkRange start stop >>= fun inside => pure (value inside)) = .error fault ↔
      checkRange start stop = .error fault := by
  rw [bind_eq_error_iff]
  constructor
  · intro refused
    rcases refused with outside | ⟨_, _, impossible⟩
    · exact outside
    · cases impossible
  · intro outside
    exact .inl outside

end Guarded

/-!
### The accesses
-/

/-- A word can be read exactly when both of its bytes lie in memory. -/
theorem word_eq_ok_iff {memory : Memory} {address : Int} {word : UInt16} :
    memory.word address = .ok word ↔
      (0 ≤ address ∧ address + 2 ≤ 4096) ∧
        word = UInt16.ofNat (256 * (memory.byteAt address.toNat).toNat +
          (memory.byteAt (address.toNat + 1)).toNat) :=
  guarded_eq_ok_iff.trans exists_prop

/-- A word that starts below zero does not reach the end of memory, so only one of the two reasons
can hold. -/
theorem word_eq_error_iff {memory : Memory} {address : Int} {fault : Fault} :
    memory.word address = .error fault ↔
      address < 0 ∧ fault = .memoryOutOfBounds address ∨
      4096 < address + 2 ∧ fault = .memoryOutOfBounds (max address 4096) := by
  refine (guarded_eq_error_iff.trans checkRange_eq_error_iff).trans ?_
  constructor
  · intro reasons
    rcases reasons with below | ⟨_, beyond⟩
    · exact .inl below
    · exact .inr beyond
  · intro reasons
    rcases reasons with below | ⟨beyond, blamed⟩
    · exact .inl below
    · exact .inr ⟨by omega, beyond, blamed⟩

/-- The two bytes of a word are its two halves, the first one being the high half. -/
theorem toNat_word {memory : Memory} {address : Int} {word : UInt16}
    (read : memory.word address = .ok word) :
    word.toNat = 256 * (memory.byteAt address.toNat).toNat +
      (memory.byteAt (address.toNat + 1)).toNat := by
  obtain ⟨_, rfl⟩ := word_eq_ok_iff.mp read
  have high := (memory.byteAt address.toNat).toNat_lt
  have low := (memory.byteAt (address.toNat + 1)).toNat_lt
  rw [UInt16.toNat_ofNat']
  omega

/-- A range that starts inside memory and does not end beyond it yields its bytes in order. -/
theorem slice_eq_ok_iff {memory : Memory} {start count : Nat} {bytes : List UInt8} :
    memory.slice (some start) (some (start + count)) = .ok bytes ↔
      start + count ≤ 4096 ∧ bytes = (List.range' start count).map memory.byteAt := by
  have length : endAddress (↑start + ↑count) - start = count := by
    unfold endAddress
    split <;> omega
  refine (guarded_eq_ok_iff.trans exists_prop).trans ?_
  simp only [Option.getD_some, Int.toNat_natCast, length, extent_inside_iff]

theorem slice_eq_error_iff {memory : Memory} {start count : Nat} {fault : Fault} :
    memory.slice (some start) (some (start + count)) = .error fault ↔
      4096 < start + count ∧ fault = .memoryOutOfBounds (max start 4096) :=
  guarded_eq_error_iff.trans checkRange_extent_eq_error_iff

/-- A range of two addresses is refused like the word there, and otherwise it has exactly the two
bytes of the word. -/
theorem slice_word (memory : Memory) (address : Int) :
    memory.slice (some address) (some (address + 2)) =
      (memory.word address).map fun word =>
        [UInt8.ofNat (word.toNat / 0x100), UInt8.ofNat word.toNat] := by
  cases read : memory.word address with
  | error fault =>
      have refused : checkRange address (address + 2) = .error fault :=
        guarded_eq_error_iff.mp read
      rw [slice, Option.getD_some, Option.getD_some, refused]
      rfl
  | ok word =>
      obtain ⟨inside, _⟩ := word_eq_ok_iff.mp read
      obtain ⟨start, rfl⟩ := Int.eq_ofNat_of_zero_le inside.1
      have value : word.toNat =
          0x100 * (memory.byteAt start).toNat + (memory.byteAt (start + 1)).toNat :=
        toNat_word read
      have high := (memory.byteAt start).toNat_lt
      have low := (memory.byteAt (start + 1)).toNat_lt
      have fits : start + 2 ≤ 4096 := by omega
      have bytes : memory.slice (some ↑start) (some (↑start + 2)) =
          .ok [memory.byteAt start, memory.byteAt (start + 1)] :=
        slice_eq_ok_iff.mpr ⟨fits, rfl⟩
      have first : UInt8.ofNat (word.toNat / 0x100) = memory.byteAt start := by
        rw [← UInt8.toNat_inj, UInt8.toNat_ofNat', value]
        omega
      have second : UInt8.ofNat word.toNat = memory.byteAt (start + 1) := by
        rw [← UInt8.toNat_inj, UInt8.toNat_ofNat', value]
        omega
      rw [bytes, Except.map, first, second]

/-- What a block consists of is the slice of its addresses. -/
theorem block_eq_ok_iff {memory : Memory} {start count : Nat}
    {bytes : { bytes : List UInt8 // bytes.length = count }} :
    memory.block start count = .ok bytes ↔
      memory.slice (some start) (some (start + count)) = .ok bytes.val := by
  unfold block
  split
  · next found read => simp [read, Subtype.ext_iff]
  · next fault read => simp [read]

theorem block_eq_error_iff {memory : Memory} {start count : Nat} {fault : Fault} :
    memory.block start count = .error fault ↔
      4096 < start + count ∧ fault = .memoryOutOfBounds (max start 4096) := by
  have refused : memory.block start count = .error fault ↔
      memory.slice (some start) (some (start + count)) = .error fault := by
    unfold block
    split
    · next found read => simp [read]
    · next cause read => simp [read]
  rw [refused, slice_eq_error_iff]

theorem write_eq_ok_iff {memory after : Memory} {start : Nat} {bytes : List UInt8} :
    memory.write start bytes = .ok after ↔
      ∃ fits : start + bytes.length ≤ 4096, after = memory.splice start bytes fits := by
  exact guarded_eq_ok_iff.trans (exists_prop_congr (fun _ => Iff.rfl) extent_inside_iff)

theorem write_eq_error_iff {memory : Memory} {start : Nat} {bytes : List UInt8} {fault : Fault} :
    memory.write start bytes = .error fault ↔
      4096 < start + bytes.length ∧ fault = .memoryOutOfBounds (max start 4096) :=
  guarded_eq_error_iff.trans checkRange_extent_eq_error_iff

/-- A program is small enough exactly when it fits behind its start. -/
theorem le_programLimit_iff {length : Nat} :
    length ≤ programLimit ↔ programStart + length ≤ 4096 := by
  unfold programLimit capacity programStart
  omega

/-- A program is loaded exactly when it is not too large, and then nothing can be out of bounds. -/
theorem load_eq_ok_iff {memory after : Memory} {program : List UInt8} :
    memory.load program = .ok after ↔
      ∃ fits : programStart + program.length ≤ 4096,
        after = memory.splice programStart program fits := by
  unfold load
  split
  · next large => simp [← le_programLimit_iff, Nat.not_le.mpr large]
  · exact write_eq_ok_iff

theorem load_eq_error_iff {memory : Memory} {program : List UInt8} {fault : Fault} :
    memory.load program = .error fault ↔
      programLimit < program.length ∧ fault = .programTooLarge program.length programLimit := by
  unfold load
  split
  · next large => simp [show programLimit < program.length from large, eq_comm]
  · next small =>
    have fits := le_programLimit_iff.mp (Nat.le_of_not_lt small)
    rw [write_eq_error_iff]
    constructor
    · intro refused
      exact absurd refused.1 (Nat.not_lt.mpr fits)
    · intro refused
      exact absurd refused.1 small

end ChipEight.Memory
