import WordPairs.Event
import WordPairs.Generation.Basic
import WordPairs.Word64
import WordPairs.Writer.Basic

/-!
# Generating records for a budget

A budget of bytes pays for the whole records that fit in it. They are returned as a list by
`generate`, or written as they are drawn by `writeTo`. A list without a short word is refused before
anything is drawn. Both draw by way of `eachRecord`, which sees to this; `generate` sees to it
beforehand as well.
-/

namespace WordPairs

/-- What a computation returns, the state it leaves, and the events it told, in order. -/
structure Outcome (σ α : Type) where
  /-- The value, or why there is none. -/
  result : Except Failure α
  /-- The state after the computation, whether it failed or not. -/
  state : σ
  /-- The events in the order in which they happened. -/
  events : List Event

/-- The number of whole records that a budget of bytes pays for. -/
def recordCount (budget : UInt64) : UInt64 := budget / 32

/-- Refuses a list without a short word, and warns of it. -/
def WordList.check (list : WordList) : Except Failure Unit × List Event :=
  if list.hasShortWord then (.ok (), [])
  else (.error (.error (.noQualifyingWord 0)), [.noShortWord list.size])

namespace Generator

variable {σ : Type} [IndexSource σ]

/-- Draws so many records and hands each to a receiver. Where there is none to draw, nothing is
asked of the list. -/
def eachRecord {ω : Type} (generator : Generator) (list : WordList) (count : UInt64)
    (receive : Record → ω → Except Failure Unit × ω) (source : σ) (receiver : ω) :
    Outcome (σ × ω) Unit :=
  if count = 0 then ⟨.ok (), (source, receiver), []⟩
  else
    match list.check with
    | (.error failure, events) => ⟨.error failure, (source, receiver), events⟩
    | (.ok (), events) =>
      let (result, state) := generator.drawEach list receive count.toNat source receiver
      ⟨result, state, events ++ [.generating count.toNat list.size generator.attempts]⟩

/-- Puts a record behind those already collected. -/
def collect (record : Record) (records : Array Record) : Except Failure Unit × Array Record :=
  (.ok (), records.push record)

/-- The records of a budget. The list is checked before they are drawn, and again when they are. -/
def generate (generator : Generator) (list : WordList) (budget : UInt64) (source : σ) :
    Outcome σ (List Record) :=
  let count := recordCount budget
  if count = 0 then ⟨.ok [], source, []⟩
  else
    match list.check with
    | (.error failure, events) => ⟨.error failure, source, events⟩
    | (.ok (), events) =>
      let outcome := generator.eachRecord list count collect source #[]
      ⟨outcome.result.map fun () => outcome.state.2.toList, outcome.state.1,
        events ++ outcome.events⟩

/-- Writes the records of a budget, each as soon as it is drawn, and returns the number of bytes
that they take. The writer is not flushed. -/
def writeTo {ω : Type} [ByteWriter ω] (generator : Generator) (list : WordList) (budget : UInt64)
    (source : σ) (writer : ω) : Outcome (σ × ω) UInt64 :=
  let outcome := generator.eachRecord list (recordCount budget) ByteWriter.writeRecord source writer
  let total := match Word64.mul (recordCount budget) 32 with
    | .ok total => .ok total
    | .error fault => .error (.fault fault)
  ⟨outcome.result.bind fun () => total, outcome.state, outcome.events⟩

end Generator

end WordPairs
