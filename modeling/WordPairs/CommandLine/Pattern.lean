import WordPairs.CommandLine.Pattern.Brackets

/-!
# Patterns

A pattern is a text in which some characters stand for sets of characters, for repetition or for
groups. Groups are read without going into each of them: those that are open are kept in a list,
with the depths of what has been read of them.
-/

namespace WordPairs.CommandLine.Pattern

open WordPairs.Text

/-- A part of a branch. -/
structure Item where
  /-- Its depth. -/
  depth : Nat
  /-- Whether it can be repeated. -/
  repeats : Bool
  deriving DecidableEq

/-- What has been read of an open group. -/
structure Group where
  /-- How the group is read on. -/
  mode : Mode
  /-- The depths of the branches that are complete. -/
  branches : List Nat
  /-- The parts of the last branch, the last one first. -/
  items : List Item
  deriving DecidableEq

namespace Group

/-- A group in which nothing has been read. -/
def start (mode : Mode) : Group := ⟨mode, [], []⟩

/-- A group with one more part. -/
def add (group : Group) (item : Item) : Group := { group with items := item :: group.items }

/-- A group in which another branch begins. -/
def branch (group : Group) : Group :=
  ⟨group.mode, depthOf (group.items.map (·.depth)) :: group.branches, []⟩

/-- The depth of what has been read. -/
def depth (group : Group) : Nat := depthOf group.branch.branches

/-- A group whose last part is repeated. -/
def repeatLast? (group : Group) : Option Group :=
  match group.items with
  | item :: items =>
    if item.repeats then some { group with items := ⟨item.depth + 1, true⟩ :: items } else none
  | [] => none

end Group

/-- How far a pattern has been read. -/
structure Reading where
  /-- The innermost open group, or else the whole pattern. -/
  inner : Group
  /-- The groups around it. -/
  outer : List Group
  /-- The names of groups. -/
  names : List (List Char)
  deriving DecidableEq

namespace Reading

/-- Nothing has been read. -/
def start : Reading := ⟨.start .standard, [], []⟩

/-- Reads a part of the innermost group. -/
def add (reading : Reading) (item : Item) : Reading :=
  { reading with inner := reading.inner.add item }

/-- Opens a group. -/
def push (reading : Reading) (mode : Mode) : Reading :=
  { reading with inner := .start mode, outer := reading.inner :: reading.outer }

/-- Closes the innermost group. -/
def pop? (reading : Reading) : Option Reading :=
  match reading.outer with
  | next :: outer =>
    some { reading with inner := next.add ⟨reading.inner.depth + 1, true⟩, outer }
  | [] => none

end Reading

/-- Whether a text can name a group. -/
def isName : List Char → Bool
  | [] => false
  | first :: rest =>
    (first = '_' || isAlphabetic first) &&
      rest.all fun char => isAlphanumeric char || ['_', '.', '[', ']'].contains char

/-- Opens a group behind the angle bracket before its name. -/
def openNamed? (reading : Reading) (text : List Char) : Option (Reading × List Char) :=
  let name := text.takeWhile (· != '>')
  match text.dropWhile (· != '>') with
  | _ :: rest =>
    if isName name && !reading.names.contains name then
      some ({ reading.push reading.inner.mode with names := name :: reading.names }, rest)
    else none
  | [] => none

/-- Reads flags. They hold for the group that is opened behind them, or up to the end of the group
that they stand in. -/
def readFlags? (reading : Reading) (text : List Char) : Option (Reading × List Char) :=
  let isEnd (char : Char) : Bool := char = ':' || char = ')'
  let flags := text.takeWhile (!isEnd ·)
  let mode := reading.inner.mode.under flags
  if areFlags flags then
    match text.dropWhile (!isEnd ·) with
    | ':' :: rest => some (reading.push mode, rest)
    | ')' :: rest =>
      if flags.isEmpty then none
      else
        let reading := reading.add ⟨0, false⟩
        some ({ reading with inner := { reading.inner with mode } }, rest)
    | _ => none
  else none

/-- Opens a group behind its parenthesis, or reads flags there. -/
def openGroup? (reading : Reading) (text : List Char) : Option (Reading × List Char) :=
  match reading.inner.mode.skip text with
  | '?' :: 'P' :: '<' :: rest | '?' :: '<' :: rest => openNamed? reading rest
  | '?' :: rest => readFlags? reading rest
  | rest => some (reading.push reading.inner.mode, rest)

/-- Reads a part of a pattern that begins with a character. A brace would begin a number of
repetitions, but the brace that ends it ends a directive. -/
def readPart? (reading : Reading) (char : Char) (text : List Char) :
    Option (Reading × List Char) :=
  let mode := reading.inner.mode
  match char with
  | '(' => openGroup? reading text
  | ')' => reading.pop?.map (·, text)
  | '|' => some ({ reading with inner := reading.inner.branch }, text)
  | '*' | '+' | '?' => do
    let inner ← reading.inner.repeatLast?
    let rest := match text with
      | '?' :: rest => rest
      | _ => text
    some ({ reading with inner }, rest)
  | '{' => none
  | '[' => do
    let (depth, rest) ← readSet? mode text
    some (reading.add ⟨depth, true⟩, rest)
  | _ => do
    let (atom, rest) ← readAtom? mode char text
    if atom.fits mode then some (reading.add ⟨0, true⟩, rest) else none

/-- Reads a pattern to its end. -/
def readAll? (reading : Reading) (text : List Char) : Option Reading :=
  match reading.inner.mode.skip text with
  | [] => some reading
  | char :: behind =>
    match readPart? reading char behind with
    | none => none
    | some (reading, rest) =>
      if rest.length < text.length then readAll? reading rest else none
termination_by text.length

/-- Whether a text is a pattern: it can be read to its end, all groups are closed, and it is not
too deep. -/
def isPattern (text : List Char) : Bool :=
  (readAll? .start text).any fun reading =>
    reading.outer.isEmpty && reading.inner.depth ≤ depthLimit

end WordPairs.CommandLine.Pattern
