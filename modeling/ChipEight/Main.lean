/-
Module: ChipEight.Main
Purpose: The command that runs a program without a window.
Main exports: main
-/
import ChipEight.Emulator
import ChipEight.Event.Script

/-!
The command takes the same arguments and settings as the emulator with a window.  What the user does
is read from the standard input, one line of events for each frame; when the input ends the window
is taken to be closed.  The last picture is printed as text.
-/

namespace ChipEight.Main

/-- The lines of a stream up to its end. -/
partial def readLines (stream : IO.FS.Stream) (lines : Array String) : IO (List String) := do
  let line ← stream.getLine
  if line.isEmpty then return lines.toList
  readLines stream (lines.push line)

/-- Whether a system error has the given number.  Some calls report it with the opposite sign. -/
def hasNumber (reported number : UInt32) : Bool :=
  reported = number || reported = 0 - number

/-- The failure of the file system that a system error stands for, if it is a common one. -/
def readError? (path : String) : IO.Error → Option ReadError
  | .noFileOrDirectory _ _ _ => some (.notFound path)
  | .inappropriateType _ reported _ =>
      some (if hasNumber reported 20 then .notADirectory path else .isADirectory path)
  | .invalidArgument _ reported _ =>
      if hasNumber reported 36 then some (.nameTooLong path) else none
  | _ => none

/-- Read a file. -/
def readFile (path : String) : IO (Except ReadError (List UInt8)) := do
  if path.toList.contains '\x00' then return .error .nullInPath
  try
    let content ← IO.FS.readBinFile path
    return .ok content.toList
  catch problem =>
    match readError? path problem with
    | some cause => return .error cause
    | none => throw problem

/-- Read the settings from the environment variables. -/
def readEnvironment : IO Environment := do
  return {
    debug := ← IO.getEnv "DEBUG"
    scale := ← IO.getEnv "CHIP8_SCALE"
    rate := ← IO.getEnv "CHIP8_IPS" }

/-- A random source that starts anew in each run. -/
def freshRandom : IO RandomSource := do
  let seed ← IO.rand 0 0xFFFFFFFF
  return { values := fun position => ((mixHash (hash seed) (hash position)).toNat % 256 : Nat) }

/-- Print what a run showed, and give its exit status. -/
def conclude (report : Report) : IO UInt32 := do
  IO.print report.output
  IO.eprint report.errorOutput
  match report.machine, report.caption with
  | some machine, some _ => IO.println machine.screen.text
  | _, _ => pure ()
  match report.ending with
  | .finished => return 0
  | .refused refusal => return UInt32.ofNat refusal.status
  | .unusablePath cause => IO.eprintln cause.message
  | .noWindow cause => IO.eprintln cause.message
  | .brokenOff cause => IO.eprintln cause.message
  | .notLoaded _ _ => IO.eprintln (report.ending.exitText?.getD "")
  | .crashed _ _ => IO.eprintln (report.ending.exitText?.getD "")
  return 1

/-- Run the emulator on the given arguments. -/
def runCommand (arguments : List String) : IO UInt32 := do
  match Settings.ofEnvironment (← readEnvironment) with
  | .error complaint =>
      IO.eprintln complaint.message
      return 1
  | .ok settings =>
      match CommandLine.parse arguments with
      | .error _ =>
          conclude
            (Emulator.run settings arguments (fun path => .error (.notFound path)) default {})
      | .ok path =>
          let content ← readFile path
          let lines ← readLines (← IO.getStdin) #[]
          conclude (Emulator.run settings arguments (fun _ => content) (← freshRandom)
            { batches := lines.map Event.batch })

end ChipEight.Main

def main (arguments : List String) : IO UInt32 :=
  ChipEight.Main.runCommand arguments
