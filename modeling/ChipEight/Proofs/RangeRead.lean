/-
Module: ChipEight.Proofs.RangeRead
Purpose: For which ranges of addresses a read is refused because of an address in the range, and
  yields the bytes of the range otherwise.
Main exports: Memory.bytesBetween, Memory.IsAddress, Memory.ReadsExactly,
  Memory.slice_eq_ok_iff_bytesBetween, Memory.readsExactly_iff, Machine.step_draw_eq_error_iff,
  Machine.reads_exactly_when, Machine.empty_ranges_misread
-/
import ChipEight.Proofs.Conformance
import ChipEight.Proofs.StepFaults

namespace ChipEight

namespace Memory

/-!
### What reading a range should mean

The two ends of a range are arbitrary integers, and a range whose end does not lie above its start
has no addresses.
-/

/-- The bytes at the addresses from `start` up to the one before `stop`, in order. -/
def bytesBetween (memory : Memory) (start stop : Int) : List UInt8 :=
  (List.range (stop - start).toNat).map fun (position : Nat) =>
    memory.byteAt (start + position).toNat

/-- There is a byte at the address. -/
def IsAddress (address : Int) : Prop :=
  0 ≤ address ∧ address ≤ 0xFFF

/-- Reading a range is refused exactly because of the addresses that it has, and otherwise yields
the byte at each of them. -/
structure ReadsExactly (memory : Memory) (start stop : Int) : Prop where
  refused_iff :
    (∃ blamed, memory.slice (some start) (some stop) = .error (.memoryOutOfBounds blamed)) ↔
      ∃ address, (start ≤ address ∧ address < stop) ∧ ¬ IsAddress address
  read : (∀ address, start ≤ address ∧ address < stop → IsAddress address) →
    memory.slice (some start) (some stop) = .ok (memory.bytesBetween start stop)

variable {memory : Memory} {start stop : Int}

theorem bytesBetween_of_le (backwards : stop ≤ start) : memory.bytesBetween start stop = [] := by
  have none : (stop - start).toNat = 0 := by omega
  rw [bytesBetween, none]
  rfl

theorem length_bytesBetween :
    (memory.bytesBetween start stop).length = (stop - start).toNat := by
  rw [bytesBetween, List.length_map, List.length_range]

/-- From a start that is not negative on, the addresses are numbers. -/
theorem bytesBetween_natCast (first last : Nat) :
    memory.bytesBetween first last = (List.range' first (last - first)).map memory.byteAt := by
  have count : ((last : Int) - first).toNat = last - first := by omega
  rw [bytesBetween, count, List.range'_eq_map_range, List.map_map]
  rfl

/-!
### What reading a range does mean

Only the two ends are looked at, each against its own bound, and the end is counted from the end of
memory when it is negative.  For a range that has addresses this comes to the same thing: its lowest
address is its start and its highest one lies just before its end.
-/

theorem slice_eq_error_iff_ends {fault : Fault} :
    memory.slice (some start) (some stop) = .error fault ↔
      start < 0 ∧ fault = .memoryOutOfBounds start ∨
      0 ≤ start ∧ 4096 < stop ∧ fault = .memoryOutOfBounds (max start 4096) :=
  guarded_eq_error_iff.trans checkRange_eq_error_iff

theorem natCast_endAddress (stop : Int) :
    (endAddress stop : Int) = if stop < 0 then max 0 (4096 + stop) else stop := by
  unfold endAddress
  split <;> omega

theorem slice_eq_ok_iff_bytesBetween {bytes : List UInt8} :
    memory.slice (some start) (some stop) = .ok bytes ↔
      (0 ≤ start ∧ stop ≤ 4096) ∧
        bytes = memory.bytesBetween start (if stop < 0 then max 0 (4096 + stop) else stop) := by
  refine guarded_eq_ok_iff.trans ?_
  simp only [Option.getD_some, ← natCast_endAddress]
  constructor
  · intro passed
    obtain ⟨ends, rfl⟩ := passed
    obtain ⟨first, rfl⟩ := Int.eq_ofNat_of_zero_le ends.1
    exact ⟨ends, (bytesBetween_natCast first _).symm⟩
  · intro passed
    obtain ⟨ends, rfl⟩ := passed
    obtain ⟨first, rfl⟩ := Int.eq_ofNat_of_zero_le ends.1
    exact ⟨ends, bytesBetween_natCast first _⟩

theorem exists_blamed_iff :
    (∃ blamed, memory.slice (some start) (some stop) = .error (.memoryOutOfBounds blamed)) ↔
      start < 0 ∨ 4096 < stop := by
  simp only [slice_eq_error_iff_ends, Fault.memoryOutOfBounds.injEq]
  constructor
  · intro refused
    obtain ⟨_, ⟨negative, _⟩ | ⟨_, beyond, _⟩⟩ := refused
    · exact .inl negative
    · exact .inr beyond
  · intro outside
    by_cases negative : start < 0
    · exact ⟨_, .inl ⟨negative, rfl⟩⟩
    · exact ⟨_, .inr ⟨Int.not_lt.mp negative, outside.resolve_left negative, rfl⟩⟩

theorem exists_not_isAddress_iff :
    (∃ address, (start ≤ address ∧ address < stop) ∧ ¬ IsAddress address) ↔
      start < stop ∧ (start < 0 ∨ 4096 < stop) := by
  unfold IsAddress
  constructor
  · intro outside
    obtain ⟨address, _, _⟩ := outside
    omega
  · intro outside
    obtain ⟨some, negative | beyond⟩ := outside
    · exact ⟨start, by omega, by omega⟩
    · exact ⟨stop - 1, by omega, by omega⟩

theorem readsExactly_of_lt (some : start < stop) : memory.ReadsExactly start stop where
  refused_iff := by
    rw [exists_blamed_iff, exists_not_isAddress_iff]
    exact (and_iff_right some).symm
  read := by
    intro inside
    have ends : 0 ≤ start ∧ stop ≤ 4096 := by
      have first := inside start ⟨Int.le_refl start, some⟩
      have last := inside (stop - 1) ⟨by omega, by omega⟩
      unfold IsAddress at first last
      omega
    have nonnegative : ¬ stop < 0 := by omega
    rw [slice_eq_ok_iff_bytesBetween, if_neg nonnegative]
    exact ⟨ends, rfl⟩

/-- A range without addresses must be accepted and yield nothing. -/
theorem readsExactly_iff_of_le (backwards : stop ≤ start) :
    memory.ReadsExactly start stop ↔
      0 ≤ start ∧ stop ≤ 4096 ∧ (0 ≤ stop ∨ stop + 4096 ≤ start) := by
  have empty : ∀ address, ¬ (start ≤ address ∧ address < stop) := by
    intro address inside
    omega
  constructor
  · intro reads
    have read := reads.read fun address inside => absurd inside (empty address)
    obtain ⟨ends, same⟩ := slice_eq_ok_iff_bytesBetween.mp read
    have lengths := congrArg List.length same
    rw [length_bytesBetween, length_bytesBetween] at lengths
    split at lengths <;> omega
  · intro accepted
    obtain ⟨nonnegative, within, counted⟩ := accepted
    have nothing : (if stop < 0 then max 0 (4096 + stop) else stop) ≤ start := by
      split <;> omega
    exact {
      refused_iff := by
        rw [exists_blamed_iff, exists_not_isAddress_iff]
        omega
      read := fun _ => slice_eq_ok_iff_bytesBetween.mpr
        ⟨⟨nonnegative, within⟩,
          (bytesBetween_of_le backwards).trans (bytesBetween_of_le nothing).symm⟩ }

theorem readsExactly_iff :
    memory.ReadsExactly start stop ↔
      start < stop ∨ (0 ≤ start ∧ stop ≤ 4096 ∧ (0 ≤ stop ∨ stop + 4096 ≤ start)) := by
  by_cases some : start < stop
  · exact iff_of_true (readsExactly_of_lt some) (.inl some)
  · rw [readsExactly_iff_of_le (Int.not_lt.mp some)]
    exact (or_iff_right some).symm

end Memory

namespace Machine

variable {machine : Machine} {tracing : Bool} {word : UInt16} {fault : Fault}

/-- A step that draws is refused when its sprite does not end within memory. -/
theorem step_draw_eq_error_iff (fetched : machine.fetch = .ok word)
    (draws : Row.draw.Applies word) :
    (machine.step tracing).result = .error fault ↔
      0x1000 < machine.index.toNat + Row.draw.operand .n word ∧
        fault = .memoryOutOfBounds (max machine.index.toNat 0x1000) := by
  have defined : ¬ ∀ row : Row, ¬ row.Applies word := fun none => none .draw draws
  have height : Row.draw.operand .n word = word.toNat % 0x10 := Row.operand_n .draw word
  rw [step_eq_error_iff_of_fetched fetched, ← Row.returnFromCall_applies_iff, height]
  simp only [defined, false_and, false_or]
  simp only [Row.applies_iff_eq draws, reduceCtorEq, false_and, false_or, exists_eq_left]
  rfl

/-- Which ranges are read exactly, and what becomes of the others.

All ranges that have addresses are read exactly.  One without addresses is when it passes the check
all the same and its end, should it be negative, does not count back to an address above its start.
A sprite of no rows is such a range: to draw it is refused just when `I` lies beyond the end of
memory. -/
theorem reads_exactly_when (memory : Memory) (start stop : Int) :
    (memory.ReadsExactly start stop ↔
      start < stop ∨ (0 ≤ start ∧ stop ≤ 4096 ∧ (0 ≤ stop ∨ stop + 4096 ≤ start))) ∧
    (∀ fault : Fault, memory.slice (some start) (some stop) = .error fault ↔
      start < 0 ∧ fault = .memoryOutOfBounds start ∨
      0 ≤ start ∧ 4096 < stop ∧ fault = .memoryOutOfBounds (max start 4096)) ∧
    (∀ bytes : List UInt8, memory.slice (some start) (some stop) = .ok bytes ↔
      (0 ≤ start ∧ stop ≤ 4096) ∧
        bytes = memory.bytesBetween start (if stop < 0 then max 0 (4096 + stop) else stop)) ∧
    (∀ (machine : Machine) (tracing : Bool) (word : UInt16),
      machine.fetch = .ok word → Row.draw.Applies word → Row.draw.operand .n word = 0 →
        ∀ fault : Fault, (machine.step tracing).result = .error fault ↔
          0x1000 < machine.index.toNat ∧ fault = .memoryOutOfBounds machine.index.toNat) := by
  refine ⟨Memory.readsExactly_iff, fun _ => Memory.slice_eq_error_iff_ends,
    fun _ => Memory.slice_eq_ok_iff_bytesBetween, ?_⟩
  intro machine tracing word fetched draws none fault
  rw [step_draw_eq_error_iff fetched draws, none, Nat.add_zero]
  refine and_congr_right fun beyond => ?_
  have highest : max (machine.index.toNat : Int) 0x1000 = machine.index.toNat := by omega
  rw [highest]

/-- The range just behind the last byte is read exactly, and a sprite of no rows is drawn there. -/
theorem reads_exactly_when_at_end :
    let machine := { started [0xD0, 0x00] with index := 0x1000 }
    machine.memory.ReadsExactly 0x1000 0x1000 ∧
      machine.fetch = .ok 0xD000 ∧ Row.draw.Applies 0xD000 ∧ Row.draw.operand .n 0xD000 = 0 ∧
      ∀ fault : Fault, (machine.step false).result ≠ .error fault := by
  intro machine
  have fetched : machine.fetch = .ok 0xD000 := fetch_started 0xD0 0x00
  have draws : Row.draw.Applies 0xD000 := by decide
  have none : Row.draw.operand .n 0xD000 = 0 := by decide
  obtain ⟨reads, _, _, drawing⟩ := reads_exactly_when machine.memory 0x1000 0x1000
  refine ⟨reads.mpr (.inr (by decide)), fetched, draws, none, ?_⟩
  intro fault refused
  obtain ⟨beyond, _⟩ := (drawing machine false 0xD000 fetched draws none fault).mp refused
  exact absurd beyond (by decide)

/-- Three ranges without addresses are not read exactly: one lies beyond the end of memory, one
below its start, and the end of one counts back from the end of memory.  A program runs into the
first one: it moves `I` behind the end and draws a sprite of no rows there. -/
theorem empty_ranges_misread :
    let program := [0x60, 0x02, 0xAF, 0xFF, 0xF0, 0x1E, 0xD0, 0x00]
    let drawing := ((((started program).step false).machine.step false).machine.step false).machine
    ¬ Memory.initial.ReadsExactly 0x1001 0x1001 ∧
      ¬ Memory.initial.ReadsExactly (-1) (-1) ∧
      ¬ Memory.initial.ReadsExactly 0 (-1) ∧
      drawing.fetch = .ok 0xD000 ∧ Row.draw.Applies 0xD000 ∧ Row.draw.operand .n 0xD000 = 0 ∧
      (drawing.step false).result = .error (.memoryOutOfBounds 0x1001) := by
  intro program drawing
  refine ⟨?_, ?_, ?_, ?_⟩
  · rw [Memory.readsExactly_iff]
    decide
  · rw [Memory.readsExactly_iff]
    decide
  · rw [Memory.readsExactly_iff]
    decide
  · decide +kernel

end Machine

end ChipEight
