import WordPairs.Text.Utf8

/-!
# Text without control sequences

Terminals take an escape character and what follows it as a command, and the text between commands
as text. Where the output is no terminal, the commands are left out, and with them all controls that
are not blanks.
-/

namespace WordPairs.CommandLine

/-- How far a command to a terminal has been read. -/
inductive Sequence where
  /-- There is no command. -/
  | ground
  /-- The escape character. -/
  | escape
  /-- An escape character and what stands between it and the last character of the command. -/
  | intermediate
  /-- A command with parameters. -/
  | control
  /-- The beginning of a command that holds a text. -/
  | device
  /-- The parameters of a command that holds a text. -/
  | deviceParameter
  /-- What stands between the parameters and the text of such a command. -/
  | deviceIntermediate
  /-- A text that belongs to a command. -/
  | string
  /-- A text for the system around the terminal. -/
  | system
  deriving DecidableEq

namespace Sequence

/-- Whether a byte lies between two others. -/
def within (low high byte : UInt8) : Bool := low ≤ byte && byte ≤ high

/-- The state behind a byte of a command. -/
def next (byte : UInt8) : Sequence → Sequence
  | ground => ground
  | escape =>
    match byte with
    | 0x50 => device
    | 0x58 | 0x5E | 0x5F => string
    | 0x5B => control
    | 0x5D => system
    | _ =>
      if within 0x20 0x2F byte then intermediate
      else if within 0x30 0x7E byte then ground
      else escape
  | intermediate => if within 0x30 0x7E byte then ground else intermediate
  | control => if within 0x40 0x7E byte then ground else control
  | device =>
    if within 0x20 0x2F byte then deviceIntermediate
    else if within 0x30 0x3F byte then deviceParameter
    else if within 0x40 0x7E byte then string
    else device
  | deviceParameter =>
    if within 0x20 0x2F byte then deviceIntermediate
    else if within 0x3C 0x7E byte then string
    else deviceParameter
  | deviceIntermediate => if within 0x30 0x7E byte then string else deviceIntermediate
  | string => if byte = 0x9C then ground else string
  | system => if byte = 0x07 then ground else system

/-- The state behind any byte: an escape character begins a command anew, and two controls end
every command. -/
def step (state : Sequence) (byte : UInt8) : Sequence :=
  if byte = 0x1B then escape
  else if byte = 0x18 || byte = 0x1A then ground
  else state.next byte

/-- Whether controls inside the command are obeyed at once. -/
def obeysControls : Sequence → Bool
  | ground | escape | intermediate | control => true
  | _ => false

end Sequence

/-- The controls that are blanks. -/
def isBlankControl (byte : UInt8) : Bool :=
  byte = 0x09 || byte = 0x0A || byte = 0x0C || byte = 0x0D

/-- Whether a byte is shown where no command is being read: as a blank, as a visible ASCII
character, or as part of another character. -/
def isShown (byte : UInt8) : Bool :=
  isBlankControl byte || Sequence.within 0x20 0x7E byte || 0x80 ≤ byte

/-- What is shown of the bytes of a text. While bytes are shown, the state of a command that was
broken off by a blank is kept for the next byte that is not shown. -/
def showBytes (showing : Bool) (state : Sequence) : List UInt8 → List UInt8
  | [] => []
  | byte :: bytes =>
    if showing && isShown byte then
      byte :: showBytes true (if 0x80 ≤ byte then .ground else state) bytes
    else if !showing && state.obeysControls && isBlankControl byte then
      byte :: showBytes true state bytes
    else if !showing && state = .ground && Sequence.within 0x20 0x7E byte then
      byte :: showBytes true state bytes
    else if !showing && state = .ground && Sequence.within 0xC2 0xF4 byte then
      byte :: showBytes true .ground bytes
    else showBytes false (state.step byte) bytes

/-- The command that ends a style. -/
def styleEnd : List Char := ['\x1B', '[', '0', 'm']

/-- A value as it is shown in a message, where the style that it is written in ends behind it. -/
def shownValue (value : String) : String :=
  String.ofList (Text.decode (showBytes false .ground (Text.encode (value.toList ++ styleEnd))))

end WordPairs.CommandLine
