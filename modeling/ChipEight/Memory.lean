/-
Module: ChipEight.Memory
Purpose: The 4 KiB main memory, with every access checked against its bounds.
Main exports: Memory, Memory.byteAt, Memory.splice, Memory.checkRange, Memory.get, Memory.slice,
  Memory.block, Memory.word, Memory.set, Memory.write, Memory.writeMasked, Memory.load
-/
import ChipEight.Fault
import ChipEight.Font

namespace ChipEight

/-- Main memory: a fixed array of 4096 bytes. -/
structure Memory where
  bytes : Vector UInt8 4096
deriving DecidableEq

namespace Memory

/-!
### Layout

Memory holds the digit sprites low down and the program from `programStart` on.  Its size is part of
the type, so no operation can grow or shrink it.
-/

/-- The number of bytes. -/
def capacity : Nat := 4096

/-- Where programs are loaded. -/
def programStart : Nat := 0x200

/-- The size of the largest program that fits. -/
def programLimit : Nat := capacity - programStart

/-- The byte at an address, and zero beyond the end.  This is the view through which the operations
below are described. -/
def byteAt (memory : Memory) (address : Nat) : UInt8 :=
  memory.bytes[address]?.getD 0

/-- Replace the bytes at consecutive addresses by as many others. -/
def splice (memory : Memory) (start : Nat) (values : List UInt8)
    (fits : start + values.length ≤ 4096) : Memory :=
  let old := memory.bytes.toList
  ⟨⟨(old.take start ++ values ++ old.drop (start + values.length)).toArray, by
    simp only [old, List.size_toArray, List.length_append, List.length_take, List.length_drop,
      Vector.length_toList]
    omega⟩⟩

/-- Exactly the addresses from the start on, as many as there are values, get new bytes. -/
theorem byteAt_splice {memory : Memory} {start : Nat} {values : List UInt8}
    (fits : start + values.length ≤ 4096) (address : Nat) :
    (memory.splice start values fits).byteAt address =
      if start ≤ address ∧ address < start + values.length then values[address - start]?.getD 0
      else memory.byteAt address := by
  have before : (memory.bytes.toList.take start).length = start := by
    rw [List.length_take, Vector.length_toList]
    omega
  have cell : (memory.splice start values fits).bytes[address]? =
      (memory.bytes.toList.take start ++ values ++
        memory.bytes.toList.drop (start + values.length))[address]? := by
    rw [← Vector.getElem?_toArray, splice, List.getElem?_toArray]
  rw [byteAt, cell, List.append_assoc]
  rcases Nat.lt_or_ge address start with below | above
  · rw [if_neg (by omega), List.getElem?_append_left (by omega), List.getElem?_take_of_lt below,
      Vector.getElem?_toList, byteAt]
  · rw [List.getElem?_append_right (by omega), before]
    by_cases inside : address - start < values.length
    · rw [if_pos (by omega), List.getElem?_append_left inside]
    · have position : start + values.length + (address - start - values.length) = address := by
        omega
      rw [if_neg (by omega), List.getElem?_append_right (by omega), List.getElem?_drop, position,
        Vector.getElem?_toList, byteAt]

/-- The memory of a machine that was just switched on: zeros and the digit sprites. -/
def initial : Memory :=
  splice ⟨Vector.replicate 4096 0⟩ Font.base Font.bytes (by decide)

instance : Inhabited Memory := ⟨initial⟩

/-!
### Checked access

An access names a start and an exclusive end, both of them arbitrary integers.  It is refused when
the start is negative or the end lies beyond the last byte.  No relation between the two is asked
for, so an empty or reversed range passes when its two ends do.
-/

/-- Refuse a range with an end outside memory, naming the first address at fault. -/
def checkRange (start stop : Int) : Except Fault (PLift (0 ≤ start ∧ stop ≤ 4096)) :=
  if negative : start < 0 then .error (.memoryOutOfBounds start)
  else if beyond : stop > 4096 then .error (.memoryOutOfBounds (max start 4096))
  else .ok ⟨Int.not_lt.mp negative, Int.not_lt.mp beyond⟩

/-- The byte at one address. -/
def get (memory : Memory) (address : Int) : Except Fault UInt8 := do
  let _ ← checkRange address (address + 1)
  return memory.byteAt address.toNat

/-- The address that an exclusive end stands for: a negative one counts back from the end of
memory, and stops at zero. -/
def endAddress (stop : Int) : Nat :=
  if stop < 0 then (4096 + stop).toNat else stop.toNat

/-- The bytes of a range.  A missing start is zero and a missing end is the end of memory; a range
whose end does not lie above its start is empty. -/
def slice (memory : Memory) (start stop : Option Int) : Except Fault (List UInt8) := do
  let first := start.getD 0
  let last := stop.getD 4096
  let _ ← checkRange first last
  return (List.range' first.toNat (endAddress last - first.toNat)).map memory.byteAt

/-- A range that is given by its start and its length has as many bytes as that. -/
theorem length_of_slice {memory : Memory} {start count : Nat} {bytes : List UInt8}
    (read : memory.slice (some start) (some (start + count)) = .ok bytes) :
    bytes.length = count := by
  dsimp only [slice, Option.getD_some] at read
  cases checked : checkRange start (start + count) with
  | error fault =>
      rw [checked] at read
      cases read
  | ok inside =>
      rw [checked] at read
      cases read
      rw [List.length_map, List.length_range', endAddress, if_neg (by omega)]
      omega

/-- The bytes from an address on, a given number of them. -/
def block (memory : Memory) (start count : Nat) :
    Except Fault { bytes : List UInt8 // bytes.length = count } :=
  match read : memory.slice (some start) (some (start + count)) with
  | .ok bytes => .ok ⟨bytes, length_of_slice read⟩
  | .error fault => .error fault

/-- The two bytes from an address on as one number, the first byte being the high one. -/
def word (memory : Memory) (address : Int) : Except Fault UInt16 := do
  let _ ← checkRange address (address + 2)
  let high := (memory.byteAt address.toNat).toNat
  let low := (memory.byteAt (address.toNat + 1)).toNat
  return UInt16.ofNat (256 * high + low)

/-- Replace the bytes from an address on.  Either all of them fit or nothing changes. -/
def write (memory : Memory) (start : Int) (bytes : List UInt8) : Except Fault Memory := do
  let inside ← checkRange start (start + bytes.length)
  return memory.splice start.toNat bytes (by have := inside.down; omega)

/-- Replace the bytes from an address on by the low eight bits of arbitrary integers.  A missing
start is zero. -/
def writeMasked (memory : Memory) (start : Option Int) (values : List Int) : Except Fault Memory :=
  memory.write (start.getD 0) (values.map UInt8.ofInt)

/-- Replace one byte by the low eight bits of an arbitrary integer. -/
def set (memory : Memory) (address value : Int) : Except Fault Memory :=
  memory.write address [UInt8.ofInt value]

/-- Put a program at `programStart`, provided it fits. -/
def load (memory : Memory) (program : List UInt8) : Except Fault Memory :=
  if program.length > programLimit then
    .error (.programTooLarge program.length programLimit)
  else memory.write programStart program

/-- Put a program into memory that repeats one byte.  A program that is too large is never written
out. -/
def loadRepeated (memory : Memory) (byte : UInt8) (count : Nat) : Except Fault Memory :=
  if count > programLimit then .error (.programTooLarge count programLimit)
  else memory.load (List.replicate count byte)

end Memory

end ChipEight
