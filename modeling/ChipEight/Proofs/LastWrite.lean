/-
Module: ChipEight.Proofs.LastWrite
Purpose: Memory is an array of 4096 bytes: after any writes, accepted or refused, each address holds
  what was written there last.
Main exports: Font.byteAt, Memory.byteAt_initial, Memory.Write, Memory.Write.attempt,
  Memory.Write.valueAt?, Memory.attempt_eq_ok_iff, Memory.carryOut, Memory.afterAll,
  Memory.byteAt_afterAll, Memory.isLeast_of_checkRange, Memory.lastWritten, Memory.ActsAsArray,
  Memory.acts_as_array
-/
import ChipEight.Proofs.Memory
import Mathlib.Order.Bounds.Defs

namespace ChipEight

open Result

/-!
### The bytes that are there from the start
-/

/-- The byte of the digit sprites at an address, and zero where there is none. -/
def Font.byteAt (address : Nat) : UInt8 :=
  if 0x050 ≤ address then Font.bytes[address - 0x050]?.getD 0 else 0

namespace Memory

theorem byteAt_initial (address : Nat) : initial.byteAt address = Font.byteAt address := by
  have blank : (⟨Vector.replicate 4096 0⟩ : Memory).byteAt address = 0 := by
    by_cases inside : address < 4096 <;> simp [byteAt, inside]
  rw [initial, byteAt_splice_eq_getD, blank, Font.byteAt, Font.base]
  split
  · rfl
  · rfl

/-!
### Writes

There are three ways to write: one byte, a range, and a program.  They differ in where they start
and in how they complain.  What they leave in memory depends only on where a write starts and on its
values.
-/

/-- A write, its numbers being arbitrary integers. -/
inductive Write where
  | byte (address value : Int)
  /-- As many bytes are replaced as there are values, whatever `stop` says. -/
  | range (start stop : Option Int) (values : List Int)
  | program (values : List Int)
deriving Repr, Inhabited, DecidableEq

namespace Write

/-- What memory makes of a write. -/
def attempt (write : Write) (memory : Memory) : Except Fault Memory :=
  match write with
  | byte address value => memory.set address value
  | range start _ values => memory.writeMasked start values
  | program values => memory.load (values.map UInt8.ofInt)

/-- The first address that a write names. -/
def start : Write → Int
  | byte address _ => address
  | range start _ _ => start.getD 0
  | program _ => programStart

/-- The values that a write puts from its start on. -/
def values : Write → List Int
  | byte _ value => [value]
  | range _ _ values => values
  | program values => values

/-- The address behind the last one that a write names. -/
def stop (write : Write) : Int :=
  write.start + write.values.length

/-- Every address that the write names is one of memory. -/
def Fits (write : Write) : Prop :=
  0 ≤ write.start ∧ write.stop ≤ 4096

instance (write : Write) : Decidable write.Fits :=
  inferInstanceAs (Decidable (_ ∧ _))

/-- Behind the start of a write that fits there is room for its values. -/
theorem Fits.room {write : Write} (fits : write.Fits) :
    write.start.toNat + (write.values.map UInt8.ofInt).length ≤ 4096 := by
  obtain ⟨below, above⟩ := fits
  rw [stop] at above
  rw [List.length_map]
  omega

/-- The value that a write puts at an address, if it fits and reaches that far. -/
def valueAt? (write : Write) (address : Nat) : Option Int :=
  if write.Fits ∧ write.start ≤ address then write.values[(address - write.start).toNat]?
  else none

end Write

/-- Carry out a write; one that is refused leaves memory alone. -/
def carryOut (memory : Memory) (write : Write) : Memory :=
  match write.attempt memory with
  | .ok after => after
  | .error _ => memory

/-- Carry out writes one after the other. -/
def afterAll (memory : Memory) (writes : List Write) : Memory :=
  writes.foldl carryOut memory

variable {memory after : Memory} {write : Write} {fault : Fault}

/-- A write is accepted exactly when it fits, and then all its values are stored. -/
theorem attempt_eq_ok_iff :
    write.attempt memory = .ok after ↔
      ∃ fits : write.Fits,
        after = memory.splice write.start.toNat (write.values.map UInt8.ofInt) fits.room := by
  cases write with
  | byte address value => exact guarded_eq_ok_iff
  | range start stop values =>
      have extent : (0 ≤ start.getD 0 ∧
          start.getD 0 + ((values.map UInt8.ofInt).length : Int) ≤ 4096) ↔
            (Write.range start stop values).Fits := by
        rw [List.length_map]
        rfl
      exact guarded_eq_ok_iff.trans (exists_prop_congr (fun _ => Iff.rfl) extent)
  | program values =>
      have extent : programStart + (values.map UInt8.ofInt).length ≤ 4096 ↔
          (Write.program values).Fits := by
        rw [List.length_map, ← extent_inside_iff]
        rfl
      exact load_eq_ok_iff.trans (exists_prop_congr (fun _ => Iff.rfl) extent)

theorem carryOut_of_fits (fits : write.Fits) :
    memory.carryOut write =
      memory.splice write.start.toNat (write.values.map UInt8.ofInt) fits.room := by
  rw [carryOut, attempt_eq_ok_iff.mpr ⟨fits, rfl⟩]

theorem carryOut_of_refused (refused : write.attempt memory = .error fault) :
    memory.carryOut write = memory := by
  rw [carryOut, refused]

theorem carryOut_of_not_fits (outside : ¬ write.Fits) : memory.carryOut write = memory := by
  cases tried : write.attempt memory with
  | error fault => exact carryOut_of_refused tried
  | ok after =>
      obtain ⟨fits, _⟩ := attempt_eq_ok_iff.mp tried
      exact absurd fits outside

/-- A write changes exactly the bytes for which it has a value. -/
theorem byteAt_carryOut (memory : Memory) (write : Write) (address : Nat) :
    (memory.carryOut write).byteAt address =
      ((write.valueAt? address).map UInt8.ofInt).getD (memory.byteAt address) := by
  by_cases fits : write.Fits
  · have position : ((address : Int) - write.start).toNat = address - write.start.toNat := by
      have nonnegative := fits.1
      omega
    rw [carryOut_of_fits fits, Write.valueAt?, byteAt_splice_eq_getD, position]
    simp only [fits, true_and, Int.toNat_le, List.getElem?_map]
    rw [apply_ite (Option.map UInt8.ofInt), Option.map_none]
  · rw [carryOut_of_not_fits fits, Write.valueAt?, if_neg (fun both => fits both.1)]
    rfl

/-- After any writes an address holds the value that was put there last. -/
theorem byteAt_afterAll (memory : Memory) (writes : List Write) (address : Nat) :
    (memory.afterAll writes).byteAt address =
      ((writes.reverse.findSome? (·.valueAt? address)).map UInt8.ofInt).getD
        (memory.byteAt address) := by
  induction writes generalizing memory with
  | nil => rfl
  | cons write rest ih =>
      rw [afterAll, List.foldl_cons, ← afterAll, ih, byteAt_carryOut, List.reverse_cons,
        List.findSome?_append, List.findSome?_singleton]
      cases rest.reverse.findSome? (·.valueAt? address) with
      | none => rfl
      | some value => rfl

/-!
### Complaints

A refused access is blamed on one address.  If the range of the access is not empty this is the
first of its addresses that memory does not have.
-/

theorem checkRange_eq_error_iff_outside {start stop : Int} :
    checkRange start stop = .error fault ↔
      (start < 0 ∨ 4096 < stop) ∧
        fault = .memoryOutOfBounds (if start < 0 then start else max start 4096) := by
  rw [checkRange_eq_error_iff]
  by_cases negative : start < 0
  · have notBoth : ¬ 0 ≤ start := Int.not_le.mpr negative
    simp [negative, notBoth]
  · have start_nonneg : 0 ≤ start := Int.not_lt.mp negative
    simp [negative, start_nonneg]

/-- A single address is blamed itself. -/
theorem checkRange_single_eq_error_iff {address : Int} :
    checkRange address (address + 1) = .error fault ↔
      ¬ (0 ≤ address ∧ address ≤ 4095) ∧ fault = .memoryOutOfBounds address := by
  have outside_iff : (address < 0 ∨ 4096 < address + 1) ↔ ¬ (0 ≤ address ∧ address ≤ 4095) := by
    omega
  rw [checkRange_eq_error_iff_outside, outside_iff]
  apply and_congr_right
  intro outside
  split
  · rfl
  · rw [Int.max_eq_left (by omega)]

theorem isLeast_of_checkRange {start stop address : Int} (nonempty : start < stop)
    (refused : checkRange start stop = .error (.memoryOutOfBounds address)) :
    IsLeast {place | (start ≤ place ∧ place < stop) ∧ ¬ (0 ≤ place ∧ place ≤ 4095)} address := by
  rcases checkRange_eq_error_iff.mp refused with
    ⟨negative, blamed⟩ | ⟨start_nonneg, beyond, blamed⟩
  · cases blamed
    refine ⟨⟨⟨Int.le_refl _, nonempty⟩, by omega⟩, ?_⟩
    intro place outside
    exact outside.1.1
  · cases blamed
    refine ⟨⟨⟨Int.le_max_left _ _, by omega⟩, by omega⟩, ?_⟩
    intro place outside
    obtain ⟨⟨above, _⟩, notInside⟩ := outside
    omega

/-- A write complains about an address only after its own range was refused. -/
theorem checkRange_of_attempt {address : Int}
    (refused : write.attempt memory = .error (.memoryOutOfBounds address)) :
    checkRange write.start write.stop = .error (.memoryOutOfBounds address) := by
  cases write with
  | byte place value => exact guarded_eq_error_iff.mp refused
  | range start stop values =>
      have outside := guarded_eq_error_iff.mp refused
      rw [List.length_map] at outside
      exact outside
  | program values =>
      obtain ⟨_, otherwise⟩ := load_eq_error_iff.mp refused
      cases otherwise

/-!
### The array
-/

/-- What an array that starts with the digit sprites holds at an address after some writes: the low
eight bits of the value that was written there last, or what was there from the start. -/
def lastWritten (writes : List Write) (address : Nat) : Nat :=
  match writes.reverse.findSome? (·.valueAt? address) with
  | some value => (value % 256).toNat
  | none => (Font.byteAt address).toNat

theorem toNat_byteAt_afterAll (writes : List Write) (address : Nat) :
    ((initial.afterAll writes).byteAt address).toNat = lastWritten writes address := by
  rw [byteAt_afterAll, byteAt_initial, lastWritten]
  cases writes.reverse.findSome? (·.valueAt? address) with
  | none => rfl
  | some value => exact toNat_ofInt value

example : lastWritten [.range (some 0xFF) none [1, 2, 3], .byte 0x100 (-2), .byte 4096 7] 0x100 =
    254 := by decide

/-- Memory can be read and written like an array of 4096 bytes with the given contents. -/
structure ActsAsArray (memory : Memory) (contents : Nat → Nat) : Prop where
  size : memory.bytes.toList.length = 4096
  bytes : memory.bytes.toList.map UInt8.toNat = (List.range 4096).map contents
  get_eq : ∀ address : Int, (memory.get address).map UInt8.toNat =
    if 0 ≤ address ∧ address ≤ 4095 then .ok (contents address.toNat)
    else .error (.memoryOutOfBounds address)
  /-- A missing start is the start of memory, and a missing end is its end. -/
  slice_eq : ∀ start stop : Option Int,
    0 ≤ start.getD 0 → start.getD 0 ≤ stop.getD 4096 → stop.getD 4096 ≤ 4096 →
      (memory.slice start stop).map (List.map UInt8.toNat) =
        .ok ((List.range' (start.getD 0).toNat
          ((stop.getD 4096).toNat - (start.getD 0).toNat)).map contents)
  byte_refused_iff : ∀ (address value : Int) (fault : Fault),
    (Write.byte address value).attempt memory = .error fault ↔
      ¬ (0 ≤ address ∧ address ≤ 4095) ∧ fault = .memoryOutOfBounds address
  range_refused_iff : ∀ (start stop : Option Int) (values : List Int) (fault : Fault),
    (Write.range start stop values).attempt memory = .error fault ↔
      (start.getD 0 < 0 ∨ 4096 < start.getD 0 + values.length) ∧
        fault = .memoryOutOfBounds
          (if start.getD 0 < 0 then start.getD 0 else max (start.getD 0) 4096)
  program_refused_iff : ∀ (values : List Int) (fault : Fault),
    (Write.program values).attempt memory = .error fault ↔
      3584 < values.length ∧ fault = .programTooLarge values.length 3584
  /-- The writes that put their values are those that are not refused. -/
  accepted_iff : ∀ write : Write, (∃ after, write.attempt memory = .ok after) ↔ write.Fits
  refused_kept : ∀ (write : Write) (fault : Fault),
    write.attempt memory = .error fault → memory.carryOut write = memory
  /-- The address that a refused write is blamed on is the first one it names outside. -/
  write_blamed : ∀ (write : Write) (address : Int), write.start < write.stop →
    write.attempt memory = .error (.memoryOutOfBounds address) →
      IsLeast {place | (write.start ≤ place ∧ place < write.stop) ∧
        ¬ (0 ≤ place ∧ place ≤ 4095)} address
  /-- The same for a range that is read. -/
  slice_blamed : ∀ (start stop : Option Int) (address : Int), start.getD 0 < stop.getD 4096 →
    memory.slice start stop = .error (.memoryOutOfBounds address) →
      IsLeast {place | (start.getD 0 ≤ place ∧ place < stop.getD 4096) ∧
        ¬ (0 ≤ place ∧ place ≤ 4095)} address

theorem get_eq_of_contents {contents : Nat → Nat}
    (holds : ∀ address, (memory.byteAt address).toNat = contents address) (address : Int) :
    (memory.get address).map UInt8.toNat =
      if 0 ≤ address ∧ address ≤ 4095 then .ok (contents address.toNat)
      else .error (.memoryOutOfBounds address) := by
  split
  · next inside =>
    have read : memory.get address = .ok (memory.byteAt address.toNat) :=
      guarded_eq_ok_iff.mpr ⟨⟨inside.1, by omega⟩, rfl⟩
    rw [read, ← holds]
    rfl
  · next outside =>
    have refused : memory.get address = .error (.memoryOutOfBounds address) :=
      guarded_eq_error_iff.mpr (checkRange_single_eq_error_iff.mpr ⟨outside, rfl⟩)
    rw [refused]
    rfl

theorem slice_eq_of_contents {contents : Nat → Nat} {start stop : Option Int}
    (holds : ∀ address, (memory.byteAt address).toNat = contents address)
    (low : 0 ≤ start.getD 0) (order : start.getD 0 ≤ stop.getD 4096)
    (high : stop.getD 4096 ≤ 4096) :
    (memory.slice start stop).map (List.map UInt8.toNat) =
      .ok ((List.range' (start.getD 0).toNat
        ((stop.getD 4096).toNat - (start.getD 0).toNat)).map contents) := by
  have last : endAddress (stop.getD 4096) = (stop.getD 4096).toNat := by
    rw [endAddress, if_neg (by omega)]
  have read : memory.slice start stop = .ok _ := guarded_eq_ok_iff.mpr ⟨⟨low, high⟩, rfl⟩
  rw [read, last, Except.map, List.map_map]
  congr 2
  funext address
  exact holds address

/-- After any writes to the memory of a new machine, whether they were accepted or not, it acts as
an array that holds at each address what was written there last. -/
theorem acts_as_array (writes : List Write) :
    (initial.afterAll writes).ActsAsArray (lastWritten writes) := by
  have holds := toNat_byteAt_afterAll writes
  generalize initial.afterAll writes = memory at holds
  exact {
    size := memory.bytes.length_toList
    bytes := by
      apply List.ext_getElem?
      intro address
      rw [List.getElem?_map, List.getElem?_map, Vector.getElem?_toList]
      by_cases inside : address < 4096
      · rw [List.getElem?_range inside, Option.map_some, ← holds, byteAt]
        simp [inside]
      · simp [inside]
    get_eq := get_eq_of_contents holds
    slice_eq := fun _ _ => slice_eq_of_contents holds
    byte_refused_iff := fun _ _ _ => guarded_eq_error_iff.trans checkRange_single_eq_error_iff
    range_refused_iff := by
      intro start stop values fault
      refine guarded_eq_error_iff.trans (checkRange_eq_error_iff_outside.trans ?_)
      rw [List.length_map]
    program_refused_iff := by
      intro values fault
      refine load_eq_error_iff.trans ?_
      rw [List.length_map]
      rfl
    accepted_iff := by
      intro write
      constructor
      · rintro ⟨after, accepted⟩
        obtain ⟨fits, _⟩ := attempt_eq_ok_iff.mp accepted
        exact fits
      · intro fits
        exact ⟨_, attempt_eq_ok_iff.mpr ⟨fits, rfl⟩⟩
    refused_kept := fun _ _ => carryOut_of_refused
    write_blamed := fun _ _ nonempty refused =>
      isLeast_of_checkRange nonempty (checkRange_of_attempt refused)
    slice_blamed := fun _ _ _ nonempty refused =>
      isLeast_of_checkRange nonempty (guarded_eq_error_iff.mp refused) }

end Memory

end ChipEight
