/-
Module: ChipEight.Proofs.Report
Purpose: The text of a report can be taken apart again, so it tells two machines apart whenever they
  differ in a part that it shows.
Main exports: Text.eq_of_append_mark, Text.intercalate_injective, Text.IsNumeral, Text.bracketed,
  Text.bracketed_injective, Field, Field.characters, Field.EndsBefore, Field.characters_injective,
  CallStack.text_injective, Machine.registersText_injective, Machine.fields, Machine.toList_report,
  Machine.isChain_fields, Machine.report_unambiguous
-/
import ChipEight.Machine.Report
import ChipEight.Proofs.Numerals
import Mathlib.Data.List.Basic

namespace ChipEight

namespace Text

/-!
### Marks

A text ends where a character comes that it does not contain.  This is how the items of a list and
the fields of a report are found again.
-/

section Marks

variable {α : Type} {mark : α} {gap : List α} {items others : List (List α)}

theorem eq_of_append_mark {first second rest rest' : List α} (plain : mark ∉ first)
    (plain' : mark ∉ second) (same : first ++ mark :: rest = second ++ mark :: rest') :
    first = second ∧ rest = rest' := by
  induction first generalizing second with
  | nil =>
      cases second with
      | nil => exact ⟨rfl, (List.cons.inj same).2⟩
      | cons head second =>
          exact absurd (List.cons.inj same).1 (List.ne_of_not_mem_cons plain')
  | cons head first ih =>
      cases second with
      | nil => exact absurd (List.cons.inj same).1.symm (List.ne_of_not_mem_cons plain)
      | cons head' second =>
          obtain ⟨rfl, later⟩ := List.cons.inj same
          obtain ⟨rfl, behind⟩ := ih (List.not_mem_of_not_mem_cons plain)
            (List.not_mem_of_not_mem_cons plain') later
          exact ⟨rfl, behind⟩

/-- Items that each end at a mark are found again, whatever their number. -/
theorem flatMap_injective (plain : ∀ item ∈ items, mark ∉ item)
    (plain' : ∀ item ∈ others, mark ∉ item)
    (same : items.flatMap (· ++ mark :: gap) = others.flatMap (· ++ mark :: gap)) :
    items = others := by
  induction items generalizing others with
  | nil =>
      cases others with
      | nil => rfl
      | cons other others => simp at same
  | cons item items ih =>
      cases others with
      | nil => simp at same
      | cons other others =>
          obtain ⟨here, later⟩ := List.forall_mem_cons.mp plain
          obtain ⟨here', later'⟩ := List.forall_mem_cons.mp plain'
          rw [List.flatMap_cons, List.flatMap_cons, List.append_assoc, List.append_assoc] at same
          obtain ⟨rfl, behind⟩ := eq_of_append_mark here here' same
          rw [ih later later' (List.append_cancel_left behind)]

/-- A separator behind the last item as well makes all items alike. -/
theorem intercalate_append (separator : List α) (some : items ≠ []) :
    separator.intercalate items ++ separator = items.flatMap (· ++ separator) := by
  induction items with
  | nil => exact absurd rfl some
  | cons item items ih =>
      cases items with
      | nil => simp
      | cons next items =>
          rw [List.intercalate_cons_cons, List.append_assoc, ih (List.cons_ne_nil _ _),
            List.flatMap_cons (x := item)]

theorem mem_of_mem_intercalate {separator : List α} {character : α}
    (shown : character ∈ separator.intercalate items) :
    character ∈ separator ∨ ∃ item ∈ items, character ∈ item := by
  by_cases none : items = []
  · rw [none, List.intercalate_nil] at shown
    exact absurd shown List.not_mem_nil
  · have among := List.mem_append_left separator shown
    rw [intercalate_append separator none] at among
    obtain ⟨item, found, inside⟩ := List.mem_flatMap.mp among
    rcases List.mem_append.mp inside with own | between
    · exact .inr ⟨item, found, own⟩
    · exact .inl between

theorem intercalate_ne_nil {separator : List α} (some : items ≠ [])
    (visible : ∀ item ∈ items, item ≠ []) : separator.intercalate items ≠ [] := by
  cases items with
  | nil => exact absurd rfl some
  | cons item items =>
      have first : item ≠ [] := visible item List.mem_cons_self
      cases items with
      | nil => simpa using first
      | cons next items => simp [List.intercalate_cons_cons, first]

/-- Items between separators are found again.  An empty item alone would look like no item at
all. -/
theorem intercalate_injective (visible : ∀ item ∈ items, item ≠ [])
    (visible' : ∀ item ∈ others, item ≠ []) (plain : ∀ item ∈ items, mark ∉ item)
    (plain' : ∀ item ∈ others, mark ∉ item)
    (same : (mark :: gap).intercalate items = (mark :: gap).intercalate others) :
    items = others := by
  by_cases none : items = []
  · by_contra different
    have some : others ≠ [] := fun none' => different (none.trans none'.symm)
    rw [none, List.intercalate_nil] at same
    exact intercalate_ne_nil some visible' same.symm
  · have some : others ≠ [] := by
      intro none'
      rw [none', List.intercalate_nil] at same
      exact intercalate_ne_nil none visible same
    apply flatMap_injective plain plain'
    rw [← intercalate_append _ none, ← intercalate_append _ some, same]

end Marks

/-!
### Lists of numbers
-/

/-- The text is not empty and has only characters that numbers are written with. -/
def IsNumeral (text : String) : Prop :=
  text.toList ≠ [] ∧ text.toList ⊆ Numeral.glyphs

theorem isNumeral_decimal (n : Int) : IsNumeral (Numeral.decimal n) := by
  refine ⟨?_, Numeral.decimal_subset_glyphs n⟩
  rw [Numeral.decimal, String.toList_ofList]
  exact List.append_ne_nil_of_right_ne_nil _ Nat.toDigits_ne_nil

theorem isNumeral_hexLiteral (width : Nat) (n : Int) :
    IsNumeral (Numeral.hexLiteral width n) := by
  refine ⟨?_, Numeral.hexLiteral_subset_glyphs width n⟩
  rw [Numeral.hexLiteral, String.toList_append]
  exact List.append_ne_nil_of_left_ne_nil (by decide) _

theorem IsNumeral.notMem {text : String} (numeral : IsNumeral text) (character : Char)
    (strange : character ∉ Numeral.glyphs) : character ∉ text.toList :=
  fun shown => strange (numeral.2 shown)

/-- Items between brackets with commas between them. -/
def bracketed (items : List String) : String :=
  "[" ++ String.intercalate ", " items ++ "]"

variable {items others : List String}

theorem bracketed_injective (numerals : ∀ item ∈ items, IsNumeral item)
    (numerals' : ∀ item ∈ others, IsNumeral item) (same : bracketed items = bracketed others) :
    items = others := by
  have inner : String.intercalate ", " items = String.intercalate ", " others :=
    (String.append_right_inj "[").mp ((String.append_left_inj "]").mp same)
  have characters : ", ".toList.intercalate (items.map String.toList) =
      ", ".toList.intercalate (others.map String.toList) := by
    rw [← String.toList_intercalate, ← String.toList_intercalate, inner]
  have visible {list : List String} (numerals : ∀ item ∈ list, IsNumeral item) :
      ∀ item ∈ list.map String.toList, item ≠ [] :=
    List.forall_mem_map.mpr fun item found => (numerals item found).1
  have plain {list : List String} (numerals : ∀ item ∈ list, IsNumeral item) :
      ∀ item ∈ list.map String.toList, ',' ∉ item :=
    List.forall_mem_map.mpr fun item found => (numerals item found).notMem ',' (by decide)
  have separator : ", ".toList = [',', ' '] := rfl
  rw [separator] at characters
  exact List.map_injective_iff.mpr (fun _ _ => String.toList_injective)
    (intercalate_injective (visible numerals) (visible numerals') (plain numerals)
      (plain numerals') characters)

theorem newline_notMem_bracketed (numerals : ∀ item ∈ items, IsNumeral item) :
    '\n' ∉ (bracketed items).toList := by
  rw [bracketed, String.toList_append, String.toList_append, String.toList_intercalate]
  simp only [List.mem_append, not_or]
  refine ⟨⟨by decide, ?_⟩, by decide⟩
  intro shown
  rcases mem_of_mem_intercalate shown with between | ⟨item, found, inside⟩
  · exact absurd between (by decide)
  · obtain ⟨text, among, rfl⟩ := List.mem_map.mp found
    exact (numerals text among).notMem '\n' (by decide) inside

end Text

/-!
### Fields

A report is a row of texts, each behind a label of its own.  The labels are always the same, so all
that is needed to find the texts again is that none of them contains the first character of the
label behind it.
-/

/-- A text with the label in front of it. -/
structure Field where
  label : String
  text : String
deriving Repr, Inhabited, DecidableEq

namespace Field

/-- The fields one after the other. -/
def characters (fields : List Field) : List Char :=
  fields.flatMap fun field => field.label.toList ++ field.text.toList

theorem characters_nil : characters [] = [] := rfl

theorem characters_cons (field : Field) (fields : List Field) :
    characters (field :: fields) =
      field.label.toList ++ (field.text.toList ++ characters fields) := by
  rw [characters, List.flatMap_cons, List.append_assoc, characters]

/-- The text of a field ends where the label of the next field begins. -/
def EndsBefore (field next : Field) : Prop :=
  ∃ mark, next.label.toList.head? = some mark ∧ mark ∉ field.text.toList

theorem ext_toList {field other : Field} (label : field.label = other.label)
    (text : field.text.toList = other.text.toList) : field = other := by
  cases field
  cases other
  rw [mk.injEq]
  exact ⟨label, String.toList_inj.mp text⟩

/-- The induction takes the first field off both rows.  What is left starts with the same label. -/
theorem characters_injective {fields others : List Field}
    (labels : fields.map label = others.map label) (parted : fields.IsChain EndsBefore)
    (parted' : others.IsChain EndsBefore) (same : characters fields = characters others) :
    fields = others := by
  induction fields generalizing others with
  | nil => exact (List.map_eq_nil_iff.mp labels.symm).symm
  | cons field fields ih =>
      obtain ⟨other, others, rfl, label, labels⟩ := List.map_eq_cons_iff.mp labels.symm
      rw [characters_cons, characters_cons, label] at same
      have unlabelled := List.append_cancel_left same
      cases fields with
      | nil =>
          obtain rfl := List.map_eq_nil_iff.mp labels
          rw [ext_toList label.symm (List.append_cancel_right unlabelled)]
      | cons next fields =>
          obtain ⟨next', others, rfl, label', _⟩ := List.map_eq_cons_iff.mp labels
          obtain ⟨⟨mark, begins, plain⟩, chain⟩ := List.isChain_cons_cons.mp parted
          obtain ⟨⟨mark', begins', plain'⟩, chain'⟩ := List.isChain_cons_cons.mp parted'
          rw [label', begins] at begins'
          obtain rfl := Option.some.inj begins'
          obtain ⟨rest, spelled⟩ := List.head?_eq_some_iff.mp begins
          rw [characters_cons next, characters_cons next', label', spelled] at unlabelled
          obtain ⟨text, behind⟩ := Text.eq_of_append_mark plain plain' unlabelled
          have later : characters (next :: fields) = characters (next' :: others) := by
            rw [characters_cons, characters_cons, label', List.append_cancel_left behind]
          rw [ext_toList label.symm text, ih labels.symm chain chain' later]

end Field

/-!
### The report

The eight fields of a report, their texts being numbers, lists of numbers and truth values.
-/

open Text

namespace CallStack

theorem isNumeral_addresses (stack : CallStack) :
    ∀ item ∈ stack.oldestFirst.map (Numeral.hexLiteral 3), IsNumeral item :=
  List.forall_mem_map.mpr fun address _ => isNumeral_hexLiteral 3 address

theorem text_injective : Function.Injective text := by
  intro stack other same
  have texts :=
    bracketed_injective stack.isNumeral_addresses other.isNumeral_addresses same
  have addresses : stack.oldestFirst = other.oldestFirst :=
    List.map_injective_iff.mpr (Numeral.hexLiteral_injective 3) texts
  exact congrArg mk (List.reverse_injective addresses)

end CallStack

namespace Machine

theorem isNumeral_registers (registers : Registers) :
    ∀ item ∈ registers.toList.map fun value => Numeral.decimal value.toNat, IsNumeral item :=
  List.forall_mem_map.mpr fun value _ => isNumeral_decimal value.toNat

theorem registersText_injective : Function.Injective registersText := by
  intro registers other same
  have texts :=
    bracketed_injective (isNumeral_registers registers) (isNumeral_registers other) same
  have written : Function.Injective fun value : UInt8 => Numeral.decimal value.toNat := by
    intro value value' same
    exact UInt8.toNat_inj.mp (Int.ofNat_inj.mp (Numeral.decimal_injective same))
  have values : registers.toList = other.toList := List.map_injective_iff.mpr written texts
  exact congrArg Registers.mk (Vector.toList_inj.mp values)

theorem flagText_injective : Function.Injective flagText := by
  have apart : flagText true ≠ flagText false := by decide
  intro flag other same
  cases flag with
  | false =>
      cases other with
      | false => rfl
      | true => exact absurd same.symm apart
  | true =>
      cases other with
      | false => exact absurd same apart
      | true => rfl

/-- The fields of a report. -/
def fields (machine : Machine) : List Field :=
  [⟨"PC_REGISTER:", Numeral.hexLiteral 3 machine.pc⟩,
    ⟨" | IDX_REGISTER:", Numeral.hexLiteral 3 machine.index.toNat⟩,
    ⟨" | VARIABLE_REGISTERS:", registersText machine.registers⟩,
    ⟨"\nDT:", Numeral.decimal machine.delay.toNat⟩,
    ⟨" | ST:", Numeral.decimal machine.sound.toNat⟩,
    ⟨"\nSTACK:", machine.stack.text⟩,
    ⟨"\nDRAW: ", flagText machine.draw⟩,
    ⟨" | WAITING: ", flagText machine.waiting⟩]

theorem toList_report (machine : Machine) :
    machine.report.toList = Field.characters machine.fields := by
  -- Rewriting with `report` would have to open all of its text at once.
  unfold report fields
  simp only [Field.characters_cons, Field.characters_nil, String.toList_append,
    List.append_assoc, List.append_nil]

/-- A number ends at a blank or at a line break, and a list of numbers at a line break. -/
theorem isChain_fields (machine : Machine) : machine.fields.IsChain Field.EndsBefore := by
  have pc := (isNumeral_hexLiteral 3 machine.pc).notMem ' ' (by decide)
  have index := (isNumeral_hexLiteral 3 machine.index.toNat).notMem ' ' (by decide)
  have registers := newline_notMem_bracketed (isNumeral_registers machine.registers)
  have delay := (isNumeral_decimal machine.delay.toNat).notMem ' ' (by decide)
  have sound := (isNumeral_decimal machine.sound.toNat).notMem '\n' (by decide)
  have stack := newline_notMem_bracketed (CallStack.isNumeral_addresses machine.stack)
  have draw : ' ' ∉ (flagText machine.draw).toList := by
    cases machine.draw with
    | false => decide
    | true => decide
  exact .cons_cons ⟨' ', by simp, pc⟩ <| .cons_cons ⟨' ', by simp, index⟩ <|
    .cons_cons ⟨'\n', by simp, registers⟩ <| .cons_cons ⟨' ', by simp, delay⟩ <|
    .cons_cons ⟨'\n', by simp, sound⟩ <| .cons_cons ⟨'\n', by simp, stack⟩ <|
    .cons_cons ⟨' ', by simp, draw⟩ <| .singleton _

/-- Two machines with the same report agree in all that it shows, and only then have they the same
report: the program counter and `I`, all registers, both timers, the whole call stack and the two
flags.  The program counter and the return addresses may be any integers, for in base sixteen a
number has at least three places, of which a sign takes one, and none of them is ever cut off. -/
theorem report_unambiguous (machine other : Machine) :
    (machine.report = other.report ↔
      machine.pc = other.pc ∧ machine.index = other.index ∧
        machine.registers = other.registers ∧ machine.delay = other.delay ∧
        machine.sound = other.sound ∧ machine.stack = other.stack ∧
        machine.draw = other.draw ∧ machine.waiting = other.waiting) ∧
    (∀ n : Int, (Numeral.hex 3 n).length =
        max 3 ((Numeral.sign n).length + (Nat.toDigits 16 n.natAbs).length) ∧
      Numeral.read 16 (Numeral.hex 3 n).toList = n) := by
  refine ⟨?_, fun n => ⟨Numeral.length_hex 3 n, Numeral.read_hex 3 n⟩⟩
  constructor
  · intro same
    have characters : Field.characters machine.fields = Field.characters other.fields := by
      rw [← toList_report, same, toList_report]
    have labels : machine.fields.map Field.label = other.fields.map Field.label := rfl
    have texts := Field.characters_injective labels machine.isChain_fields other.isChain_fields
      characters
    simp only [fields, List.cons.injEq, Field.mk.injEq, true_and, and_true] at texts
    obtain ⟨pc, index, registers, delay, sound, stack, draw, waiting⟩ := texts
    exact ⟨Numeral.hexLiteral_injective 3 pc,
      UInt16.toNat_inj.mp (Int.ofNat_inj.mp (Numeral.hexLiteral_injective 3 index)),
      registersText_injective registers,
      UInt8.toNat_inj.mp (Int.ofNat_inj.mp (Numeral.decimal_injective delay)),
      UInt8.toNat_inj.mp (Int.ofNat_inj.mp (Numeral.decimal_injective sound)),
      CallStack.text_injective stack, flagText_injective draw, flagText_injective waiting⟩
  · intro shown
    obtain ⟨pc, index, registers, delay, sound, stack, draw, waiting⟩ := shown
    unfold report
    rw [pc, index, registers, delay, sound, stack, draw, waiting]

end Machine

end ChipEight
