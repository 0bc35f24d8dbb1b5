/-
Module: ChipEight.Registers
Purpose: The sixteen variable registers.
Main exports: Registers, Registers.get, Registers.set, Registers.setFlagged, Registers.through,
  Registers.replaceFirst
-/
import ChipEight.Nibble

namespace ChipEight

/-- The name of a variable register: `V0` to `VF`. -/
abbrev Register := Nibble

/-- The contents of the variable registers. -/
structure Registers where
  cells : Vector UInt8 16
deriving DecidableEq

namespace Registers

/-- The register whose contents are added to the target of an indexed jump. -/
def base : Register := Nibble.ofNat 0x0

/-- The register that receives carries, borrows, shifted-out bits and collisions. -/
def flag : Register := Nibble.ofNat 0xF

/-- Every register holds zero. -/
def zeroed : Registers := ⟨Vector.replicate 16 0⟩

instance : Inhabited Registers := ⟨zeroed⟩

/-- The contents of a register. -/
def get (registers : Registers) (register : Register) : UInt8 :=
  registers.cells[register]

/-- Replace the contents of a register. -/
def set (registers : Registers) (register : Register) (value : UInt8) : Registers :=
  ⟨registers.cells.set register.val value⟩

/-- Replace the contents of a register and then set the flag register to zero or one.  When both are
the same register the flag wins. -/
def setFlagged (registers : Registers) (register : Register) (value : UInt8) (raised : Bool) :
    Registers :=
  (registers.set register value).set flag (if raised then 1 else 0)

/-- The contents of the registers from `V0` up to and including the given one. -/
def through (registers : Registers) (last : Register) : List UInt8 :=
  registers.cells.toList.take (last.val + 1)

/-- Replace the contents of the first registers by the given values, one each. -/
def replaceFirst (registers : Registers) (values : List UInt8) (fits : values.length ≤ 16) :
    Registers :=
  ⟨⟨(values ++ registers.cells.toList.drop values.length).toArray, by
    rw [List.size_toArray, List.length_append, List.length_drop, Vector.length_toList]
    omega⟩⟩

/-- The contents of all registers, from `V0` on. -/
def toList (registers : Registers) : List UInt8 :=
  registers.cells.toList

/-- A register that was just set holds the new value, and every other one keeps its own. -/
theorem get_set (registers : Registers) (register other : Register) (value : UInt8) :
    (registers.set register value).get other =
      if register = other then value else registers.get other := by
  simp [get, set, Vector.getElem_set, Fin.ext_iff]

/-- Exactly the registers for which there is a value get a new one. -/
theorem get_replaceFirst {registers : Registers} {values : List UInt8} (fits : values.length ≤ 16)
    (register : Register) :
    (registers.replaceFirst values fits).get register =
      values[register.val]?.getD (registers.get register) := by
  have cell : (registers.replaceFirst values fits).cells[register.val]? =
      (values ++ registers.cells.toList.drop values.length)[register.val]? := by
    rw [← Vector.getElem?_toArray, replaceFirst, List.getElem?_toArray]
  rw [get, Fin.getElem_fin, Vector.getElem_eq_iff, cell]
  rcases Nat.lt_or_ge register.val values.length with given | kept
  · rw [List.getElem?_append_left given, List.getElem?_eq_getElem given, Option.getD_some]
  · have position : values.length + (register.val - values.length) = register.val := by omega
    rw [List.getElem?_append_right kept, List.getElem?_drop, position,
      List.getElem?_eq_none kept, Option.getD_none, Vector.getElem?_toList]
    simp [get]

end Registers

end ChipEight
