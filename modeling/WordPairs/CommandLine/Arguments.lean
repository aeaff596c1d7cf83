import WordPairs.CommandLine.Number
import WordPairs.CommandLine.ControlSequence

/-!
# Arguments

The command takes a number of bytes and an output file. Arguments are read from left to right, and
the first mistake or call for help decides. An argument is checked when the next one of its kind or
a call for help follows, or at the end.
-/

namespace WordPairs.CommandLine

/-- Mistakes in the use of the command. -/
inductive UsageError where
  /-- The number of bytes or the output file is missing. -/
  | missingArguments
  /-- There is an argument too many, or an option that does not exist. -/
  | unexpected (argument : String)
  /-- A value was given to the call for help. -/
  | unexpectedHelpValue (value : String)
  /-- The number of bytes is no number. -/
  | invalidNumber (text : String) (cause : NumberError)
  /-- The output file has no name. -/
  | emptyOutput
  deriving DecidableEq

/-- The first line that reports a mistake. -/
def UsageError.message : UsageError → String
  | missingArguments => "the following required arguments were not provided:"
  | unexpected argument => "unexpected argument '" ++ shownValue argument ++ "' found"
  | unexpectedHelpValue value =>
    "unexpected value '" ++ shownValue value ++ "' for '--help' found; no more were expected"
  | invalidNumber text cause =>
    "invalid value '" ++ shownValue text ++ "' for '<NUMBER_OF_BYTES>': " ++ cause.message
  | emptyOutput => "a value is required for '<OUTPUT>' but none was supplied"

/-- What the arguments ask for. -/
inductive Request where
  /-- To show how the command is used. -/
  | help
  /-- To generate a file. -/
  | generate (budget : UInt64) (output : String)
  deriving DecidableEq

/-- What has been read so far. The argument read last has not been checked. -/
inductive Seen where
  /-- Nothing. -/
  | nothing
  /-- The number of bytes. -/
  | number (text : String)
  /-- The number of bytes, checked, and the output file. -/
  | both (budget : UInt64) (output : String)

namespace Seen

/-- The number of bytes, checked. -/
def checkNumber (text : String) : Except UsageError UInt64 :=
  match readNumber text with
  | .ok budget => .ok budget
  | .error cause => .error (.invalidNumber text cause)

/-- Checks the argument read last. -/
def check : Seen → Except UsageError Unit
  | nothing => .ok ()
  | number text => (checkNumber text).map fun _ => ()
  | both _ output => if output.isEmpty then .error .emptyOutput else .ok ()

/-- Reads one more argument that is no option. -/
def add (argument : String) : Seen → Except UsageError Seen
  | nothing => .ok (number argument)
  | number text => (checkNumber text).map fun budget => both budget argument
  | both _ _ => .error (.unexpected argument)

/-- What is asked for when no argument is left. -/
def finish (seen : Seen) : Except UsageError Request :=
  match seen.check, seen with
  | .error cause, _ => .error cause
  | .ok (), both budget output => .ok (.generate budget output)
  | .ok (), _ => .error .missingArguments

end Seen

/-- What an argument is by its first characters. -/
inductive ArgumentKind where
  /-- The mark after which no argument is an option. -/
  | separator
  /-- The call for help. -/
  | help
  /-- Something that cannot be used. -/
  | wrong (cause : UsageError)
  /-- A value. -/
  | value

/-- What an argument is where options are allowed. -/
def kindOf (argument : String) : ArgumentKind :=
  match argument.toList with
  | ['-', '-'] => .separator
  | '-' :: '-' :: option =>
    let name := option.takeWhile (· ≠ '=')
    match String.ofList name == "help", option.dropWhile (· ≠ '=') with
    | true, [] => .help
    | true, _ :: value => .wrong (.unexpectedHelpValue (String.ofList value))
    | false, _ => .wrong (.unexpected (String.ofList ('-' :: '-' :: name)))
  | '-' :: 'h' :: _ => .help
  | '-' :: letter :: _ => .wrong (.unexpected (String.ofList ['-', letter]))
  | _ => .value

/-- Reads arguments behind what has been seen. -/
def readFrom (valuesOnly : Bool) (seen : Seen) : List String → Except UsageError Request
  | [] => seen.finish
  | argument :: rest =>
    match if valuesOnly then .value else kindOf argument with
    | .separator => readFrom true seen rest
    | .help => seen.check.map fun () => .help
    | .wrong cause => .error cause
    | .value =>
      match seen.add argument with
      | .ok seen => readFrom valuesOnly seen rest
      | .error cause => .error cause

/-- What the arguments of the command ask for. -/
def readArguments (arguments : List String) : Except UsageError Request :=
  readFrom false .nothing arguments

/-- How the command is used. -/
def helpLines : List String :=
  ["Generate a file of 32-byte word-pair records",
    "",
    "Usage: gen-records <NUMBER_OF_BYTES> <OUTPUT>",
    "",
    "Arguments:",
    "  <NUMBER_OF_BYTES>  Number of bytes to generate, rounded down to a multiple of 32",
    "  <OUTPUT>           File to write the records to",
    "",
    "Options:",
    "  -h, --help  Print help"]

/-- The answer to the call for help. -/
def helpText : String := String.join (helpLines.map (· ++ "\n"))

end WordPairs.CommandLine
