import WordPairs.CommandLine.FieldValue
import WordPairs.CommandLine.Number
import WordPairs.Event

/-!
# Directives of filters

A directive lets events through up to a severity: those of all parts of the library, of the parts
whose names begin in a given way, or those that have a field. A directive can also ask for a span
that events stand in, or for the value of a field.
-/

namespace WordPairs.CommandLine

open WordPairs.Text

/-- The severity up to which a directive lets events through; `none` lets nothing through. -/
abbrev Threshold := Option Level

/-- A field that a directive asks for. -/
structure FieldRule where
  /-- The name of the field. -/
  name : String
  /-- Whether a value is asked for, too. -/
  hasValue : Bool
  deriving DecidableEq

/-- A rule for some events. -/
structure Directive where
  /-- How the names of the parts begin; `none` stands for all parts. -/
  target : Option String
  /-- The name of the span that events stand in. -/
  span : Option String
  /-- The field that events have. -/
  field : Option FieldRule
  /-- The severity up to which events are let through. -/
  threshold : Threshold
  deriving DecidableEq

/-- Why directives cannot be read. -/
inductive DirectiveError where
  /-- A directive is in no known form. -/
  | malformed
  /-- A part of a directive begins or ends inside of a character. -/
  | brokenCharacter
  deriving DecidableEq

/-- The name or number of a severity. The empty text names errors. -/
def threshold? (text : String) : Option Threshold :=
  match readNumber text with
  | .ok 0 => some none
  | .ok 1 => some (some .error)
  | .ok 2 => some (some .warn)
  | .ok 3 => some (some .info)
  | .ok 4 => some (some .debug)
  | .ok 5 => some (some .trace)
  | _ =>
    match String.ofList (text.toList.map Char.toLower) with
    | "" => some (some .error)
    | "off" => some none
    | "error" => some (some .error)
    | "warn" => some (some .warn)
    | "info" => some (some .info)
    | "debug" => some (some .debug)
    | "trace" => some (some .trace)
    | _ => none

/-- The number of bytes of a text. -/
def byteSize (text : List Char) : Nat := (String.ofList text).utf8ByteSize

/-- A text without its first bytes, unless they end inside of a character. -/
def dropBytes? : Nat → List Char → Option (List Char)
  | 0, text => some text
  | _ + 1, [] => none
  | count + 1, char :: text =>
    if char.utf8Size ≤ count + 1 then dropBytes? (count + 1 - char.utf8Size) text else none

/-- A character adds its own bytes to those of a text. -/
theorem byteSize_cons (char : Char) (text : List Char) :
    byteSize (char :: text) = char.utf8Size + byteSize text := by
  simp [byteSize, String.ofList_cons]

/-- A text without the bytes of its front is its back. -/
theorem dropBytes?_byteSize (front back : List Char) :
    dropBytes? (byteSize front) (front ++ back) = some back := by
  induction front with
  | nil => cases back <;> rfl
  | cons char front inner =>
    have positive := char.utf8Size_pos
    obtain ⟨count, size⟩ : ∃ count, byteSize (char :: front) = count + 1 :=
      ⟨byteSize (char :: front) - 1, by rw [byteSize_cons]; omega⟩
    have rest : count + 1 - char.utf8Size = byteSize front := by
      rw [← size, byteSize_cons]; omega
    rw [size, List.cons_append, dropBytes?, if_pos (by rw [← size, byteSize_cons]; omega), rest]
    exact inner

/-- The text between two positions, which are counted in bytes. -/
def slice (text : List Char) (start stop : Nat) : Except DirectiveError String :=
  match dropBytes? start text, dropBytes? stop text with
  | some front, some back => .ok (String.ofList (front.take (front.length - back.length)))
  | _, _ => .error .brokenCharacter

namespace Directive

/-- The part of a directive that is being read, and where it begins. -/
inductive Part where
  /-- Nothing has been read. -/
  | nothing
  /-- A severity or the name of a part. -/
  | name (start : Nat)
  /-- The name of a span. -/
  | span (start : Nat)
  /-- A field. -/
  | field (start : Nat)
  /-- What comes behind a field. -/
  | closed
  /-- What comes behind a span. -/
  | complete
  /-- A severity. -/
  | level (start : Nat)
  deriving DecidableEq

/-- A directive that is being read. -/
structure Draft where
  /-- What has been read, with the severity left open. -/
  directive : Directive
  /-- What is being read. -/
  part : Part
  deriving DecidableEq

/-- A draft of which nothing has been read. -/
def Draft.empty : Draft := ⟨⟨none, none, none, some .trace⟩, .nothing⟩

/-- Reads a field: a name, and a value behind an equals sign. -/
def readField (text : String) : Except DirectiveError FieldRule :=
  match splitWhere (· == '=') text.toList with
  | [] | [[]] => .error .malformed
  | [name] => .ok ⟨String.ofList name, false⟩
  | name :: value :: _ =>
    if isFieldValue value then .ok ⟨String.ofList name, true⟩ else .error .malformed

/-- Reads a severity; where none is written, all events are let through. -/
def readLevel (text : String) : Except DirectiveError Threshold :=
  if text.isEmpty then .ok (some .trace)
  else
    match threshold? text with
    | some threshold => .ok threshold
    | none => .error .malformed

/-- Reads the next character, which stands at a position. The names between are cut out of a text at
the same positions. -/
def Draft.read (text : List Char) (draft : Draft) (position : Nat) (char : Char) :
    Except DirectiveError Draft :=
  let directive := draft.directive
  match draft.part with
  | .nothing =>
    if char = '[' then .ok ⟨directive, .span (position + 1)⟩
    else if isAlphanumeric char || ['-', ':', '_'].contains char then
      .ok ⟨directive, .name position⟩
    else .error .malformed
  | .name start =>
    if char = '=' || char = '[' then do
      let target ← slice text start position
      let next := if char = '=' then Part.level (position + 1) else Part.span (position + 1)
      .ok ⟨{ directive with target := some target }, next⟩
    else .ok draft
  | .span start =>
    if char = ']' then do
      let name ← slice text start position
      .ok ⟨{ directive with span := some name }, .complete⟩
    else if char = '{' then do
      let name ← slice text start position
      let span := if name.isEmpty then none else some name
      .ok ⟨{ directive with span }, .field (position + 1)⟩
    else .ok draft
  | .field start =>
    if char = '}' then do
      let field ← readField (← slice text start position)
      .ok ⟨{ directive with field := some field }, .closed⟩
    else .ok draft
  | .closed => if char = ']' then .ok ⟨directive, .complete⟩ else .error .malformed
  | .complete =>
    if char = '=' then .ok ⟨directive, .level (position + 1)⟩ else .error .malformed
  | .level _ => .ok draft

/-- Reads characters from a position on. -/
def Draft.readAll (text : List Char) : Draft → Nat → List Char → Except DirectiveError Draft
  | draft, _, [] => .ok draft
  | draft, position, char :: rest => do
    let draft ← draft.read text position char
    draft.readAll text (position + char.utf8Size) rest

/-- The directive of a draft that has been read to its end. -/
def Draft.finish (text : List Char) (draft : Draft) : Except DirectiveError Directive :=
  match draft.part with
  | .name start => do
    let name ← slice text start (byteSize text)
    match threshold? name with
    | some threshold => .ok { draft.directive with threshold }
    | none => .ok { draft.directive with target := some name }
  | .level start => do
    let threshold ← readLevel (← slice text start (byteSize text))
    .ok { draft.directive with threshold }
  | .complete => .ok draft.directive
  | _ => .error .malformed

/-- Reads a directive. Blanks at its ends do not count when its parts are told apart, but they count
when these are cut out. -/
def read (text : List Char) : Except DirectiveError Directive := do
  let draft ← Draft.empty.readAll text 0 (trim text)
  draft.finish text

/-- Whether a directive can be about events that stand in no span. -/
def isStatic (directive : Directive) : Bool :=
  directive.span.isNone && !directive.field.any (·.hasValue)

/-- Whether a directive is about an event. -/
def concerns (directive : Directive) (event : Event) : Bool :=
  directive.isStatic && directive.target.all (·.toList.isPrefixOf event.target.toList) &&
    directive.field.all (event.fields.contains ·.name)

/-- How specific a directive is about its parts. -/
def reach (directive : Directive) : Nat :=
  match directive.target with
  | none => 0
  | some target => target.utf8ByteSize + 1

/-- Whether a directive decides where another does not: it names more of the part, or else a field,
or else a field that comes later in the order of names. Of equals the later one decides. -/
def yields (directive later : Directive) : Bool :=
  if directive.reach ≠ later.reach then directive.reach < later.reach
  else
    match directive.field, later.field with
    | none, _ => true
    | some _, none => false
    | some field, some other => field.name ≤ other.name

end Directive

end WordPairs.CommandLine
