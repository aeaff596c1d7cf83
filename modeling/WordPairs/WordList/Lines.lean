import WordPairs.Record.Basic

/-!
# Lines of a text

A line is a word and the bytes that end it: a line feed, a carriage return, or both in this order.
The last line of a text may lack them. `lines` cuts a text into its lines; put back to back they
are the text again.
-/

namespace WordPairs

/-- The byte that ends a line. -/
def lineFeed : UInt8 := 10

/-- The byte that ends a line alone or in front of a line feed. -/
def carriageReturn : UInt8 := 13

/-- Whether a byte ends a line. -/
def endsLine (byte : UInt8) : Bool := byte == lineFeed || byte == carriageReturn

/-- How a line ends. -/
inductive Ending where
  /-- By a line feed. -/
  | lf
  /-- By a carriage return that no line feed follows. -/
  | cr
  /-- By a carriage return and a line feed. -/
  | crlf
  /-- By the end of the text. -/
  | textEnd
  deriving DecidableEq

/-- The bytes that end a line. -/
def Ending.bytes : Ending → List UInt8
  | lf => [lineFeed]
  | cr => [carriageReturn]
  | crlf => [carriageReturn, lineFeed]
  | textEnd => []

/-- A word and the way its line ends. -/
structure Line where
  /-- The bytes of the line in front of its ending. -/
  word : Word
  /-- The ending. -/
  ending : Ending
  deriving DecidableEq

/-- The bytes that a line takes in its text. -/
def Line.bytes (line : Line) : List UInt8 := line.word ++ line.ending.bytes

namespace Line

/-- The ending at the front of a text that does not go on with a word, and the rest. -/
def cutEnding : List UInt8 → Ending × List UInt8
  | [] => (.textEnd, [])
  | byte :: rest =>
    if byte == carriageReturn then
      match rest with
      | next :: after => if next == lineFeed then (.crlf, after) else (.cr, next :: after)
      | [] => (.cr, [])
    else (.lf, rest)

/-- The first line of a text, and the rest. -/
def cut (text : List UInt8) : Line × List UInt8 :=
  let (ending, rest) := cutEnding (text.dropWhile (!endsLine ·))
  (⟨text.takeWhile (!endsLine ·), ending⟩, rest)

/-- An ending and what follows it make up what they are cut from. -/
theorem bytes_cutEnding {text : List UInt8} (ends : ∀ byte ∈ text.head?, endsLine byte) :
    (cutEnding text).1.bytes ++ (cutEnding text).2 = text := by
  cases text with
  | nil => rfl
  | cons byte rest =>
    have ends : endsLine byte := ends byte rfl
    simp only [endsLine, Bool.or_eq_true, beq_iff_eq] at ends
    by_cases first : byte = carriageReturn
    · subst first
      cases rest with
      | nil => rfl
      | cons next after =>
        by_cases second : next = lineFeed
        · subst second
          rfl
        · simp [cutEnding, second, Ending.bytes]
    · have feed : byte = lineFeed := ends.resolve_right first
      subst feed
      rfl

/-- An ending takes at least one byte unless the text is at its end. -/
theorem bytes_cutEnding_ne_nil {text : List UInt8} (nonempty : text ≠ []) :
    (cutEnding text).1.bytes ≠ [] := by
  unfold cutEnding
  split
  · contradiction
  · split
    · split
      · split <;> simp [Ending.bytes]
      · simp [Ending.bytes]
    · simp [Ending.bytes]

/-- The part of a text behind its first word begins with the end of the line. -/
theorem endsLine_head_dropWhile (text : List UInt8) :
    ∀ byte ∈ (text.dropWhile (!endsLine ·)).head?, endsLine byte := by
  intro byte first
  have kept := List.head?_dropWhile_not (!endsLine ·) text
  rw [Option.mem_def.1 first] at kept
  simpa using kept

/-- The first line and the rest make up the text. -/
theorem bytes_cut (text : List UInt8) : (cut text).1.bytes ++ (cut text).2 = text := by
  show text.takeWhile _ ++ (cutEnding (text.dropWhile _)).1.bytes ++ (cutEnding _).2 = text
  rw [List.append_assoc, bytes_cutEnding (endsLine_head_dropWhile text)]
  exact List.takeWhile_append_dropWhile

/-- The first line of a text that is not empty takes at least one byte. -/
theorem bytes_cut_ne_nil {text : List UInt8} (nonempty : text ≠ []) : (cut text).1.bytes ≠ [] := by
  intro byteless
  obtain ⟨word, ending⟩ := List.append_eq_nil_iff.1 byteless
  have rest : text.dropWhile (!endsLine ·) = text := by
    have whole := List.takeWhile_append_dropWhile (p := (!endsLine ·)) (l := text)
    rwa [show text.takeWhile (!endsLine ·) = [] from word] at whole
  exact bytes_cutEnding_ne_nil (rest.symm ▸ nonempty) ending

/-- Cutting a line off a text that is not empty leaves a shorter text. -/
theorem length_cut_lt {text : List UInt8} (nonempty : text ≠ []) :
    (cut text).2.length < text.length := by
  have total := congrArg List.length (bytes_cut text)
  have taken := List.length_pos_iff.2 (bytes_cut_ne_nil nonempty)
  rw [List.length_append] at total
  omega

/-- The lines of a text put behind the lines already cut off, which are held in reverse. -/
def linesOnto (reversed : List Line) (text : List UInt8) : List Line :=
  match text with
  | [] => reversed.reverse
  | byte :: rest => linesOnto ((cut (byte :: rest)).1 :: reversed) (cut (byte :: rest)).2
termination_by text.length
decreasing_by exact length_cut_lt (by simp)

end Line

/-- Lines are put behind those already cut off. -/
theorem Line.linesOnto_bytes (reversed : List Line) (text : List UInt8) :
    (linesOnto reversed text).flatMap Line.bytes =
      reversed.reverse.flatMap Line.bytes ++ text := by
  fun_induction linesOnto reversed text with
  | case1 => simp
  | case2 reversed byte rest ih =>
    rw [ih, List.reverse_cons, List.flatMap_append, List.append_assoc]
    simp only [List.flatMap_cons, List.flatMap_nil, List.append_nil, bytes_cut]

/-- The lines of a text in order. -/
def lines (text : List UInt8) : List Line := Line.linesOnto [] text

/-- The lines of a text, back to back, are the text. -/
theorem flatMap_bytes_lines (text : List UInt8) : (lines text).flatMap Line.bytes = text :=
  Line.linesOnto_bytes [] text

end WordPairs
