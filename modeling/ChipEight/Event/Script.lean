/-
Module: ChipEight.Event.Script
Purpose: Events written as text, for running the emulator without a window.
Main exports: Event.ofWord, Event.batch
-/
import ChipEight.Event

namespace ChipEight.Event

/-- The event that a word stands for: a plus sign and a character press a host key, a minus sign and
a character release it, and the word `quit` closes the window. -/
def ofWord (word : String) : Event :=
  match word.toList with
  | ['+', character] => .keyDown character.toNat
  | ['-', character] => .keyUp character.toNat
  | _ => if word = "quit" then .quit else .other

/-- The events of one frame: the words of a line. -/
def batch (line : String) : List Event :=
  let stretches := line.toList.splitBy fun left right => left.isWhitespace == right.isWhitespace
  let words := stretches.filter fun stretch => !stretch.any Char.isWhitespace
  words.map fun word => ofWord (String.ofList word)

example : batch "+q  -x\n" = [.keyDown 113, .keyUp 120] := by decide

end ChipEight.Event
