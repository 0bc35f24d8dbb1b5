/-
Module: ChipEight.Emulator
Purpose: A whole run of the emulator, from the arguments of the command to its end.
Main exports: Session, Session.frame, Session.play, Session.breakOff, Ending, Report, Emulator.run
-/
import ChipEight.CommandLine
import ChipEight.Event
import ChipEight.Event.Signal
import ChipEight.Machine.Frame
import ChipEight.Machine.Loader
import ChipEight.Machine.Report
import ChipEight.Settings
import ChipEight.Window

namespace ChipEight

/-- A run of the emulator with its window open. -/
structure Session where
  settings : Settings
  machine : Machine
  window : Window
  /-- How the window is painted. -/
  painter : Painter := .system
  /-- How many frames were begun. -/
  frames : Nat := 0
  /-- The pictures shown so far, each with the number of frames begun before it. -/
  shown : Array (Nat × Picture) := #[]
  /-- What was printed so far. -/
  printed : String := ""

namespace Session

/-- Draw the screen of the machine and show the window. -/
def display (session : Session) : Session :=
  let window := session.painter.render session.window session.machine.screen
  { session with
    window, shown := session.shown.push (session.frames, window.surface.picture) }

/-- One frame: take note of what the user did, let the machine run, and show the screen if it was
drawn on.  The result tells whether the user wants to go on. -/
def frame (session : Session) (batch : List Event) : Session × Except Fault Bool :=
  let (machine, goOn) := session.machine.handleAll batch
  let outcome := machine.runFrame session.settings.tracing session.settings.cyclesPerFrame
  let after := { session with
    machine := outcome.machine
    frames := session.frames + 1
    printed := session.printed ++ outcome.printed }
  match outcome.result with
  | .error fault => (after, .error fault)
  | .ok redraw => (if redraw then after.display else after, .ok goOn)

/-- One frame for each batch of events, up to the first batch in which the user asks to stop or the
first fault.  The frame of the stopping batch is run to its end.  The result tells whether the user
wants to go on after all of them. -/
def play (session : Session) : List (List Event) → Session × Except Fault Bool
  | [] => (session, .ok true)
  | batch :: rest =>
      match session.frame batch with
      | (after, .error fault) => (after, .error fault)
      | (after, .ok false) => (after, .ok false)
      | (after, .ok true) => after.play rest

/-- Begin a frame that ends in the middle of its batch of events, so that the machine does not get
to run. -/
def breakOff (session : Session) (events : List Event) : Session :=
  { session with
    machine := (session.machine.handleAll events).1
    frames := session.frames + 1 }

end Session

/-- How a run of the emulator ended. -/
inductive Ending where
  /-- The user asked to stop. -/
  | finished
  /-- The arguments of the command name no program to run. -/
  | refused (refusal : CommandLine.Refusal)
  /-- The program could not be loaded. -/
  | notLoaded (path : String) (cause : LoadError)
  /-- The path is no path at all; this is not reported like other loading failures. -/
  | unusablePath (cause : ReadError)
  /-- The window could not be opened. -/
  | noWindow (cause : WindowError)
  /-- The window system reported something that is not an event. -/
  | brokenOff (cause : SignalError)
  /-- The machine stopped with a fault in the given state. -/
  | crashed (fault : Fault) (machine : Machine)

/-- The text with which the emulator leaves, if it leaves with one. -/
def Ending.exitText? : Ending → Option String
  | notLoaded path cause =>
      some ("Loading the ROM at path " ++ path ++ " failed: " ++ cause.message)
  | crashed fault machine =>
      some ("********** THE EMULATOR CRASHED: " ++ fault.message ++ "\n" ++ machine.report)
  | _ => none

/-- What can be observed of a run of the emulator. -/
structure Report where
  ending : Ending
  frames : Nat := 0
  shown : Array (Nat × Picture) := #[]
  /-- The title of the window, if one was shown. -/
  caption : Option String := none
  /-- How often the window system was shut down: once if it was started. -/
  shutdowns : Nat := 0
  output : String := ""
  errorOutput : String := ""
  /-- The machine at the end, if there was one. -/
  machine : Option Machine := none

namespace Emulator

/-- Play a script to its end.  After the last batch of a script that does not break off the user
closes the window. -/
def playScript (session : Session) (script : Script) : Session × Ending :=
  let closing := if script.brokenOff.isSome then [] else [[Event.quit]]
  match session.play (script.batches ++ closing), script.brokenOff with
  | (after, .error fault), _ => (after, .crashed fault after.machine)
  | (after, .ok true), some events => (after.breakOff events, .brokenOff .keyless)
  | (after, .ok _), _ => (after, .finished)

/-- Run a loaded machine in a new window, showing its screen once before the first frame. -/
def runLoaded (settings : Settings) (machine : Machine) (printed path : String) (script : Script)
    (painter : Painter) : Report :=
  match Window.create 64 32 settings.scale Color.indigo Color.lavender with
  | .error cause =>
      { ending := .noWindow cause, shutdowns := 1, output := printed, machine := some machine }
  | .ok window =>
      let opened : Session := { settings, machine, window, painter, printed }
      let (session, ending) := playScript opened.display script
      { ending
        frames := session.frames
        shown := session.shown
        caption := some (Storage.baseName path)
        shutdowns := 1
        output := session.printed
        machine := some session.machine }

/-- A run of the emulator, given the arguments of the command, how paths are read, the source of
random numbers, what the user does, and how the window is painted. -/
def run (settings : Settings) (arguments : List String)
    (read : String → Except ReadError (List UInt8)) (random : RandomSource)
    (script : Script) (painter : Painter := .system) : Report :=
  match CommandLine.parse arguments with
  | .error refusal =>
      { ending := .refused refusal, output := refusal.output, errorOutput := refusal.errorOutput }
  | .ok path =>
      let loading := (Machine.powerOn random).loadFile settings.tracing read path
      match loading.result with
      | .error (.unreadable .nullInPath) =>
          { ending := .unusablePath .nullInPath, output := loading.printed
            machine := some loading.machine }
      | .error cause =>
          { ending := .notLoaded path cause, output := loading.printed
            machine := some loading.machine }
      | .ok _ => runLoaded settings loading.machine loading.printed path script painter

end Emulator

end ChipEight
