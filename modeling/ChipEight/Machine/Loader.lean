/-
Module: ChipEight.Machine.Loader
Purpose: Loading a program from a file.
Main exports: LoadError, LoadError.message, Machine.loadFile
-/
import ChipEight.Machine.Step
import ChipEight.Storage

namespace ChipEight

open Text

/-- A reason why a program cannot be loaded from a file. -/
inductive LoadError where
  | unreadable (cause : ReadError)
  | rejected (cause : Fault)
deriving Repr, Inhabited, DecidableEq

/-- The sentence shown to the user. -/
def LoadError.message : LoadError → String
  | unreadable cause => cause.message
  | rejected cause => cause.message

namespace Machine

/-- Load the program at a path, given how paths are read.  The result is the size of the program.
While tracing is on the size is printed before the program is put into memory and a confirmation
after it. -/
def loadFile (machine : Machine) (tracing : Bool)
    (read : String → Except ReadError (List UInt8)) (path : String) : Outcome LoadError Nat :=
  match read path with
  | .error cause => ⟨machine, .error (.unreadable cause), ""⟩
  | .ok program =>
      let size := traced tracing ("ROM file size " ++ Numeral.decimal program.length ++ "\n")
      match machine.load program with
      | .error fault => ⟨machine, .error (.rejected fault), size⟩
      | .ok loaded =>
          let confirmation :=
            traced tracing ("The ROM at path " ++ path ++ " has been loaded successfully\n")
          ⟨loaded, .ok program.length, size ++ confirmation⟩

end Machine

end ChipEight
