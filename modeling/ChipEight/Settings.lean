/-
Module: ChipEight.Settings
Purpose: What the user can adjust through environment variables.
Main exports: Environment, BadInteger, Settings, Settings.ofEnvironment,
  Settings.cyclesPerFrame
-/
import ChipEight.Text.Integer
import ChipEight.Text.Numeral
import ChipEight.Text.Quoted

namespace ChipEight

open Text

/-- The texts of the environment variables, where they are set. -/
structure Environment where
  /-- `DEBUG` -/
  debug : Option String := none
  /-- `CHIP8_SCALE` -/
  scale : Option String := none
  /-- `CHIP8_IPS` -/
  rate : Option String := none
deriving Repr, Inhabited, DecidableEq

/-- The complaint about a text that cannot be read as an integer. -/
inductive BadInteger where
  | malformed (text : String)
  | tooLong (digits : Nat)
deriving Repr, Inhabited, DecidableEq

namespace BadInteger

/-- How much of a malformed text is shown, counted with its quotation marks and escapes. -/
def shownLimit : Nat := 200

/-- The sentence shown to the user. -/
def message : BadInteger → String
  | malformed text =>
      "invalid literal for int() with base 10: " ++
        String.ofList ((Quoted.quote text).toList.take shownLimit)
  | tooLong digits =>
      "Exceeds the limit (" ++ Numeral.decimal Integer.digitLimit ++
        " digits) for integer string conversion: value has " ++ Numeral.decimal digits ++
        " digits; use sys.set_int_max_str_digits() to increase the limit"

end BadInteger

/-- The adjustable values. -/
structure Settings where
  /-- Whether every instruction is traced. -/
  tracing : Bool := false
  /-- The side of a pixel of the machine in pixels of the window. -/
  scale : Int := 16
  instructionsPerSecond : Int := 700
deriving Repr, Inhabited, DecidableEq

namespace Settings

/-- How often the timers tick and pictures are drawn, in a second. -/
def timerFrequency : Int := 60

/-- How many instructions are carried out between two pictures: at least one. -/
def cyclesPerFrame (settings : Settings) : Int :=
  max 1 (settings.instructionsPerSecond.fdiv timerFrequency)

/-- The integer that a variable holds, or the given one when it is not set. -/
def integer (given : Option String) (otherwise : Int) : Except BadInteger Int :=
  match given with
  | none => .ok otherwise
  | some text =>
      match Integer.read text with
      | .ok value => .ok value
      | .error .malformed => .error (.malformed text)
      | .error (.tooLong digits) => .error (.tooLong digits)

/-- Read the settings.  The variables are read one after the other and the first one that cannot be
read is reported. -/
def ofEnvironment (environment : Environment) : Except BadInteger Settings := do
  let debug ← integer environment.debug 0
  let scale ← integer environment.scale 16
  let rate ← integer environment.rate 700
  return { tracing := debug ≥ 1, scale := scale, instructionsPerSecond := rate }

end Settings

end ChipEight
