import WordPairs.Error
import WordPairs.Record.Basic

/-!
# Writers

A writer takes bytes, perhaps only some of those it is offered. `writeAll` offers the rest again
until all are taken.
-/

namespace WordPairs

/-- Something that bytes can be written to. -/
class ByteWriter (ω : Type) where
  /-- Offers bytes. The number returned tells how many of them, from the front, were taken. -/
  write : List UInt8 → ω → Except IoError Nat × ω
  /-- Passes on what is held back. -/
  flush : ω → Except IoError Unit × ω

namespace ByteWriter

variable {ω : Type} [ByteWriter ω]

/-- Offers bytes until all are taken, at most `left` times. An interrupted offer is repeated, and
an offer of which nothing is taken is an error. -/
def offer : Nat → List UInt8 → ω → Except IoError Unit × ω
  | _, [], writer => (.ok (), writer)
  | 0, _ :: _, writer => (.error .interrupted, writer)
  | left + 1, byte :: rest, writer =>
    match write (byte :: rest) writer with
    | (.ok 0, writer) => (.error .writeZero, writer)
    | (.ok taken, writer) => offer left ((byte :: rest).drop taken) writer
    | (.error .interrupted, writer) => offer left (byte :: rest) writer
    | (.error cause, writer) => (.error cause, writer)

/-- Writes all of the bytes. The offers suffice for a writer that takes single bytes and is
interrupted every other time: the loop of its offers ends within them, were it not bounded. -/
def writeAll (bytes : List UInt8) (writer : ω) : Except IoError Unit × ω :=
  offer (2 * bytes.length + 2) bytes writer

/-- Writes one record, all or nothing as far as the result tells. -/
def writeRecord (record : Record) (writer : ω) : Except Failure Unit × ω :=
  match writeAll record.bytes writer with
  | (.ok (), writer) => (.ok (), writer)
  | (.error cause, writer) => (.error (.error (.io cause)), writer)

/-- Writes records back to back, adding their lengths to `written`. -/
def writeEach : List Record → Nat → ω → Except IoError Nat × ω
  | [], written, writer => (.ok written, writer)
  | record :: records, written, writer =>
    match writeAll record.bytes writer with
    | (.ok (), writer) => writeEach records (written + record.bytes.length) writer
    | (.error cause, writer) => (.error cause, writer)

/-- Writes records back to back and flushes once. The number of bytes written is returned. -/
def writeRecords (records : List Record) (writer : ω) : Except IoError Nat × ω :=
  match writeEach records 0 writer with
  | (.error cause, writer) => (.error cause, writer)
  | (.ok written, writer) =>
    match flush writer with
    | (.ok (), writer) => (.ok written, writer)
    | (.error cause, writer) => (.error cause, writer)

end ByteWriter

end WordPairs
