/-
Module: ChipEight.Proofs.TraceTemplate
Purpose: The trace text of an instruction as a template with named fields, which can always be
  filled in.
Main exports: Template, Template.fill, Template.fill_append_bindings, Template.isPlain,
  Row.template, Row.bindings, Row.fill_template, Row.isPlain_template
-/
import ChipEight.Machine.Trace
import ChipEight.Proofs.Conformance
import ChipEight.Proofs.Numerals

namespace ChipEight

open Text

/-!
### Templates

A template is a text with fields.  A field has a name, and filling in the template fails when there
is no value of that name.
-/

/-- How the value of a field is written. -/
inductive Style where
  | decimal
  /-- Base sixteen, at least so many places wide. -/
  | hex (width : Nat)
deriving Repr, Inhabited, DecidableEq

/-- The value of a field as text. -/
def Style.write : Style → Int → String
  | decimal, value => Numeral.decimal value
  | hex width, value => Numeral.hex width value

theorem Style.newline_notMem_write (style : Style) (value : Int) :
    '\n' ∉ (style.write value).toList := by
  cases style with
  | decimal => exact Numeral.newline_notMem_decimal value
  | hex width => exact Numeral.newline_notMem_hex width value

/-- A part of a template. -/
inductive Piece where
  | text (literal : String)
  | field (name : String) (style : Style)
deriving Repr, Inhabited, DecidableEq

/-- A text with fields. -/
abbrev Template := List Piece

/-- The values of named variables. -/
abbrev Bindings := List (String × Int)

/-- The complaint about a field without a value. -/
structure UnknownName where
  name : String
deriving Repr, Inhabited, DecidableEq

namespace Template

/-- The text of a template with its fields filled in. -/
def fill (bindings : Bindings) : Template → Except UnknownName String
  | [] => .ok ""
  | .text literal :: rest => (fill bindings rest).map fun text => literal ++ text
  | .field name style :: rest =>
      match bindings.lookup name with
      | none => .error ⟨name⟩
      | some value => (fill bindings rest).map fun text => style.write value ++ text

/-- Further variables make no difference to a template that can be filled in without them. -/
theorem fill_append_bindings {bindings : Bindings} {template : Template} {text : String}
    (filled : template.fill bindings = .ok text) (others : Bindings) :
    template.fill (bindings ++ others) = .ok text := by
  induction template generalizing text with
  | nil => exact filled
  | cons piece rest ih =>
      cases piece with
      | text literal =>
          obtain ⟨later, completed, rfl⟩ := Result.map_eq_ok_iff.mp filled
          rw [fill, ih completed]
          rfl
      | field name style =>
          rw [fill] at filled ⊢
          cases found : bindings.lookup name with
          | none =>
              rw [found] at filled
              cases filled
          | some value =>
              rw [found] at filled
              obtain ⟨later, completed, rfl⟩ := Result.map_eq_ok_iff.mp filled
              rw [List.lookup_append, found, ih completed]
              rfl

/-- No part of the text breaks the line. -/
def isPlain (template : Template) : Bool :=
  template.all fun piece =>
    match piece with
    | .text literal => '\n' ∉ literal.toList
    | .field _ _ => true

/-- Numbers do not break a line, so a text is one line if its template is. -/
theorem newline_notMem_fill {bindings : Bindings} {template : Template} {text : String}
    (plain : template.isPlain = true) (filled : template.fill bindings = .ok text) :
    '\n' ∉ text.toList := by
  induction template generalizing text with
  | nil =>
      cases filled
      exact List.not_mem_nil
  | cons piece rest ih =>
      rw [isPlain, List.all_cons, Bool.and_eq_true] at plain
      obtain ⟨here, later⟩ := plain
      cases piece with
      | text literal =>
          obtain ⟨behind, completed, rfl⟩ := Result.map_eq_ok_iff.mp filled
          rw [String.toList_append, List.mem_append, not_or]
          exact ⟨of_decide_eq_true here, ih later completed⟩
      | field name style =>
          rw [fill] at filled
          cases found : bindings.lookup name with
          | none =>
              rw [found] at filled
              cases filled
          | some value =>
              rw [found] at filled
              obtain ⟨behind, completed, rfl⟩ := Result.map_eq_ok_iff.mp filled
              rw [String.toList_append, List.mem_append, not_or]
              exact ⟨style.newline_notMem_write value, ih later completed⟩

end Template

/-!
### The templates of the instructions

The names of the fields are those that the code of each instruction gives to its operands, which are
not the same ones everywhere.  Only the address of the instruction has one name for all.
-/

namespace Template

/-- A register, by its number. -/
def register (name : String) : Template :=
  [.text "V", .field name .decimal]

/-- An address. -/
def address (name : String) : Template :=
  [.text "0x", .field name (.hex 4)]

/-- An operation on two registers. -/
def onRegisters (operation : String) : Template :=
  .text operation :: .text " " :: register "x" ++ .text ", " :: register "y"

/-- An operation on a register and a number. -/
def onNumber (operation name : String) : Template :=
  .text operation :: register "x" ++ [.text ", ", .field name .decimal]

end Template

namespace Row

open Template in
/-- An instruction in assembly language. -/
def assembly : Row → Template
  | clearScreen => [.text "CLS"]
  | returnFromCall => [.text "RET"]
  | hostRoutine => .text "SYS " :: address "address"
  | jump => .text "JP " :: address "address"
  | call => .text "CALL " :: address "address"
  | skipIfByte => onNumber "SE " "comparison_value"
  | skipUnlessByte => onNumber "SNE " "comparison_value"
  | skipIfSame => onRegisters "SE"
  | setByte => onNumber "LD " "value"
  | addByte => onNumber "ADD " "value"
  | copy => onRegisters "LD"
  | bitOr => onRegisters "OR"
  | bitAnd => onRegisters "AND"
  | bitXor => onRegisters "XOR"
  | add => onRegisters "ADD"
  | subtract => onRegisters "SUB"
  | shiftRight => .text "SHR " :: register "x"
  | subtractFrom => onRegisters "SUBN"
  | shiftLeft => .text "SHL " :: register "x"
  | skipUnlessSame => onRegisters "SNE"
  | setIndex => .text "LD I, " :: address "value"
  | jumpFrom => .text "JP V0, " :: address "address"
  | random => .text "RND " :: register "x" ++ [.text ", 0x", .field "kk" (.hex 2)]
  | draw => onRegisters "DRW" ++ [.text ", ", .field "n_bytes" .decimal]
  | skipIfPressed => .text "SKP " :: register "x"
  | skipUnlessPressed => .text "SKNP " :: register "x"
  | readDelay => .text "LD " :: register "x" ++ [.text ", DT"]
  | awaitKey => .text "LD " :: register "x" ++ [.text ", K"]
  | setDelay => .text "LD DT, " :: register "x"
  | setSound => .text "LD ST, " :: register "register"
  | addToIndex => .text "ADD I, " :: register "register"
  | selectGlyph => .text "LD F, " :: register "register"
  | storeDecimal => .text "LD B, " :: register "x"
  | storeRegisters => .text "LD [I], " :: register "x"
  | loadRegisters => .text "LD " :: register "x" ++ [.text ", [I]"]

/-- What is printed about an instruction that was carried out. -/
def template (row : Row) : Template :=
  .text "mem_addr: " :: Template.address "mem_addr" ++ .text "    instruction: " :: row.assembly

/-- The operands of an instruction under the names that they have in its code. -/
def bindings (row : Row) (word : UInt16) : Bindings :=
  let x : Int := row.operand .x word
  let y : Int := row.operand .y word
  let n : Int := row.operand .n word
  match row with
  | clearScreen | returnFromCall => []
  | hostRoutine | jump | call | jumpFrom => [("address", n)]
  | setIndex => [("value", n)]
  | skipIfByte | skipUnlessByte => [("x", x), ("comparison_value", n)]
  | setByte | addByte => [("x", x), ("value", n)]
  | skipIfSame | skipUnlessSame | copy | bitOr | bitAnd | bitXor | add | subtract | shiftRight
  | subtractFrom | shiftLeft => [("x", x), ("y", y)]
  | random => [("x", x), ("kk", n)]
  | draw => [("x", x), ("y", y), ("n_bytes", n)]
  | setSound | addToIndex | selectGlyph => [("register", x)]
  | skipIfPressed | skipUnlessPressed | readDelay | awaitKey | setDelay | storeDecimal
  | storeRegisters | loadRegisters => [("x", x)]

/-- The assembly text of every instruction finds all its names. -/
theorem fill_assembly (row : Row) (word : UInt16) (address : Int) :
    row.assembly.fill (("mem_addr", address) :: row.bindings word) =
      .ok (row.instruction word).mnemonic := by
  cases row
  case clearScreen | returnFromCall => rfl
  all_goals
    simp (disch := decide) only [assembly, bindings, Template.onNumber, Template.onRegisters,
      Template.register, Template.address, List.cons_append, List.nil_append, Template.fill,
      List.lookup_cons, beq_self_eq_true, String.reduceBEq, Except.map, Style.write, operand_x,
      operand_y, operand_n, instruction, Instruction.mnemonic, Instruction.registerName,
      Instruction.byteText, Instruction.addressText, Instruction.onRegisters, Numeral.hexLiteral,
      toNat_nn, val_n, Instruction.nnn, pattern, String.append_assoc, String.append_empty]
  -- The modulus of a number is left over, as a power of sixteen on one side.
  all_goals rfl

/-- The template of every instruction finds all its names, and the text is that of the trace. -/
theorem fill_template (row : Row) (word : UInt16) (address : Int) :
    row.template.fill (("mem_addr", address) :: row.bindings word) =
      .ok ("mem_addr: " ++ Numeral.hexLiteral 4 address ++ "    instruction: " ++
        (row.instruction word).mnemonic) := by
  simp only [template, Template.address, List.cons_append, List.nil_append, Template.fill,
    List.lookup_cons, beq_self_eq_true, row.fill_assembly word address, Except.map, Style.write,
    Numeral.hexLiteral, String.append_assoc]

theorem isPlain_template (row : Row) : row.template.isPlain = true := by
  cases row <;> decide

end Row

end ChipEight
