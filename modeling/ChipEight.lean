import ChipEight.Allocation
import ChipEight.CallStack
import ChipEight.CommandLine
import ChipEight.Emulator
import ChipEight.Event
import ChipEight.Event.Script
import ChipEight.Event.Signal
import ChipEight.Fault
import ChipEight.Font
import ChipEight.Framebuffer
import ChipEight.Instruction
import ChipEight.Instruction.Mnemonic
import ChipEight.Keypad
import ChipEight.Machine.Action
import ChipEight.Machine.Basic
import ChipEight.Machine.Execute
import ChipEight.Machine.Frame
import ChipEight.Machine.Loader
import ChipEight.Machine.Operation
import ChipEight.Machine.Outcome
import ChipEight.Machine.Report
import ChipEight.Machine.Step
import ChipEight.Machine.Trace
import ChipEight.MachineWord
import ChipEight.Main
import ChipEight.Memory
import ChipEight.Nibble
import ChipEight.Proofs.Conformance
import ChipEight.Proofs.Contents
import ChipEight.Proofs.Crash
import ChipEight.Proofs.Drawing
import ChipEight.Proofs.Execution
import ChipEight.Proofs.FlagArithmetic
import ChipEight.Proofs.FrameLoop
import ChipEight.Proofs.FrameSteps
import ChipEight.Proofs.Freshness
import ChipEight.Proofs.Grid
import ChipEight.Proofs.History
import ChipEight.Proofs.InstructionTable
import ChipEight.Proofs.KeyEvents
import ChipEight.Proofs.LastWrite
import ChipEight.Proofs.Memory
import ChipEight.Proofs.Nesting
import ChipEight.Proofs.Numerals
import ChipEight.Proofs.Pacing
import ChipEight.Proofs.RandomDraws
import ChipEight.Proofs.RangeRead
import ChipEight.Proofs.Reachability
import ChipEight.Proofs.RegisterTransfer
import ChipEight.Proofs.Replay
import ChipEight.Proofs.Report
import ChipEight.Proofs.Restart
import ChipEight.Proofs.Result
import ChipEight.Proofs.ScaledPicture
import ChipEight.Proofs.SpriteEffect
import ChipEight.Proofs.Stalling
import ChipEight.Proofs.Step
import ChipEight.Proofs.StepFaults
import ChipEight.Proofs.Superposition
import ChipEight.Proofs.Timers
import ChipEight.Proofs.TraceTemplate
import ChipEight.Proofs.Tracing
import ChipEight.Proofs.Waiting
import ChipEight.RandomSource
import ChipEight.Registers
import ChipEight.Settings
import ChipEight.Sprite
import ChipEight.Storage
import ChipEight.Text.Blank
import ChipEight.Text.DecimalDigit
import ChipEight.Text.Integer
import ChipEight.Text.Numeral
import ChipEight.Text.Printable
import ChipEight.Text.Quoted
import ChipEight.Truth
import ChipEight.Window
import ChipEight.Window.Brush
import ChipEight.Window.Measure
import ChipEight.Window.Surface
