/-
Module: ChipEight.CommandLine
Purpose: Finding the program to run among the arguments of the command.
Main exports: CommandLine.Refusal, CommandLine.Argument, CommandLine.classify, CommandLine.parse
-/
import ChipEight.Text.DecimalDigit
import ChipEight.Text.Numeral
import ChipEight.Text.Quoted

namespace ChipEight.CommandLine

open Text

/-- A reason why the command runs no program. -/
inductive Refusal where
  /-- The user asked how the command is used. -/
  | help
  /-- A value was given to the help option, which takes none. -/
  | ignoredValue (value : String)
  /-- No program was named. -/
  | missingProgram
  /-- Arguments were left over after the program. -/
  | unrecognized (leftovers : List String)
deriving Repr, Inhabited, DecidableEq

namespace Refusal

/-- How the command is used, in one line. -/
def usage : String := "usage: chip8 [-h] rom\n"

/-- How the command is used, in full. -/
def helpText : String :=
  usage ++ "\nCHIP-8 interpreter\n\npositional arguments:\n  rom         input rom file\n\n" ++
    "options:\n  -h, --help  show this help message and exit\n"

/-- What is wrong with the arguments, if anything is. -/
def complaint? : Refusal → Option String
  | help => none
  | ignoredValue value =>
      some ("argument -h/--help: ignored explicit argument " ++ Quoted.quote value)
  | missingProgram => some "the following arguments are required: rom"
  | unrecognized leftovers =>
      some ("unrecognized arguments: " ++ String.intercalate " " leftovers)

/-- The exit status: asking for help is no failure. -/
def status (refusal : Refusal) : Nat :=
  if refusal.complaint?.isSome then 2 else 0

/-- The text for the standard output. -/
def output : Refusal → String
  | help => helpText
  | _ => ""

/-- The text for the standard error output. -/
def errorOutput (refusal : Refusal) : String :=
  match refusal.complaint? with
  | none => ""
  | some complaint => usage ++ "chip8: error: " ++ complaint ++ "\n"

end Refusal

/-!
### Kinds of arguments

An argument that starts with a dash is an option, with a few exceptions: a dash alone, a negative
number, and a text with a space in it name programs.  The only option is `-h`, long form `--help`.
The long form may be shortened, and both forms may have a value attached: after an equals sign, or
in the short form directly.
-/

/-- What an argument is. -/
inductive Argument where
  /-- It may name a program. -/
  | operand
  /-- It asks for help, or fails to. -/
  | help (refusal : Refusal)
  /-- It is an option that does not exist. -/
  | unknown
deriving Repr, Inhabited, DecidableEq

/-- What the short help option does with a value.  Further short options may follow the first, so a
value that consists of the letter of the help option alone is no value. -/
def shortHelp : List Char → Refusal
  | ['h'] => .help
  | 'h' :: rest => shortHelp rest
  | value => .ignoredValue (String.ofList value)

/-- Whether a character is a decimal digit. -/
def isDigit (c : Char) : Bool :=
  (DecimalDigit.value? c).isSome

/-- Whether a text is one or more digits, a line break after them being allowed. -/
def isDigits (text : List Char) : Bool :=
  let digits := text.takeWhile isDigit
  let rest := text.dropWhile isDigit
  !digits.isEmpty && (rest = [] || rest = ['\n'])

/-- Whether the text after a dash makes it a negative number: digits, or a decimal point with digits
after it and perhaps before it. -/
def isMagnitude (text : List Char) : Bool :=
  isDigits text ||
    match text.dropWhile isDigit with
    | '.' :: fraction => isDigits fraction
    | _ => false

/-- What an option with a value attached by an equals sign is, if it is the help option in full. -/
def exactHelp? (name value : List Char) : Option Argument :=
  if name = ['-', 'h'] then some (.help (shortHelp value))
  else if name = "--help".toList then some (.help (.ignoredValue (String.ofList value)))
  else none

/-- What an option is if it starts like the help option: the long form, shortened, or the short form
with a value attached. -/
def startedHelp? (text name : List Char) (value? : Option (List Char)) : Option Argument :=
  match text with
  | '-' :: '-' :: _ =>
      if name.isPrefixOf "--help".toList then
        some (.help (match value? with
          | none => .help
          | some value => .ignoredValue (String.ofList value)))
      else none
  | '-' :: 'h' :: value => some (.help (shortHelp value))
  | _ => none

/-- What an argument is.  The separator `--` is no matter of this function. -/
def classify (argument : String) : Argument :=
  let text := argument.toList
  match text with
  | '-' :: magnitude =>
      if magnitude = [] then .operand
      else if magnitude = ['h'] then .help .help
      else
        let name := text.takeWhile (· != '=')
        let value? := if text.contains '=' then some ((text.dropWhile (· != '=')).drop 1) else none
        match value?.bind (exactHelp? name) with
        | some found => found
        | none =>
            match startedHelp? text name value? with
            | some found => found
            | none =>
                if isMagnitude magnitude || text.contains ' ' then .operand else .unknown
  | _ => .operand

/-!
### Reading the arguments

The first operand names the program.  After the separator `--` everything is an operand.  The
separator itself is dropped when it stands next to the program; anywhere else it is left over.  A
request for help takes effect when it is reached, a missing program is reported before leftovers.
-/

/-- The program and the leftovers, provided a program was named and nothing was left over. -/
def conclude (program? : Option String) (leftovers : List String) : Except Refusal String :=
  match program?, leftovers with
  | none, _ => .error .missingProgram
  | some program, [] => .ok program
  | some _, _ => .error (.unrecognized leftovers)

/-- Read the arguments after those that yielded a program, if they did, and the given leftovers. -/
def readFrom (program? : Option String) (leftovers : List String) :
    List String → Except Refusal String
  | [] => conclude program? leftovers
  | argument :: rest =>
      if argument = "--" then
        match program?, rest with
        | none, [] => conclude none leftovers
        | none, program :: more => conclude (some program) (leftovers ++ more)
        | some program, _ => conclude (some program) (leftovers ++ argument :: rest)
      else
        match classify argument, program? with
        | .help refusal, _ => .error refusal
        | .unknown, _ => readFrom program? (leftovers ++ [argument]) rest
        | .operand, some program => readFrom (some program) (leftovers ++ [argument]) rest
        | .operand, none =>
            if rest.head? = some "--" then conclude (some argument) (leftovers ++ rest.drop 1)
            else readFrom (some argument) leftovers rest

/-- The program named by the arguments of the command. -/
def parse (arguments : List String) : Except Refusal String :=
  readFrom none [] arguments

example : parse ["--", "-r"] = .ok "-r" := by rfl
example : parse ["-hh"] = .error .help := by rfl

end ChipEight.CommandLine
