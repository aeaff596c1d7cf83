import Mathlib.Data.List.Basic
import WordPairs.Proofs.WordList.Cursor

/-!
# Texts put together at the end of a line

Behind the end of a line reading begins anew, so that the words of a text are those of its parts. A
line feed that follows a carriage return is the one exception, since it belongs to the line in front
of it even where two parts meet. Nor does it make a difference to the words how their lines end, and
a list is read again from its words with a line feed behind each of them.
-/

namespace WordPairs

namespace Line

variable {line : Line} {rest : List UInt8}

/-- The last byte of a line tells how it ends, but for the carriage return in front of a line
feed. -/
theorem getLast?_bytes (fits : line.Fits rest) :
    (line.bytes.getLast? = some lineFeed ↔ line.ending = .lf ∨ line.ending = .crlf) ∧
      (line.bytes.getLast? = some carriageReturn ↔ line.ending = .cr) := by
  have word : ∀ byte, line.word.getLast? = some byte → byte ≠ lineFeed ∧ byte ≠ carriageReturn :=
    fun byte last => fits.plain byte (List.mem_of_getLast? last)
  rw [Line.bytes, List.getLast?_append]
  cases line.ending with
  | lf => simp [Ending.bytes, lineFeed, carriageReturn]
  | cr => simp [Ending.bytes, lineFeed, carriageReturn]
  | crlf => simp [Ending.bytes, lineFeed, carriageReturn]
  | textEnd =>
    have feed : line.word.getLast? ≠ some lineFeed := fun last => (word _ last).1 rfl
    have ret : line.word.getLast? ≠ some carriageReturn := fun last => (word _ last).2 rfl
    simp [Ending.bytes, feed, ret]

/-- A line takes a byte from what it is told from. -/
theorem Fits.bytes_ne_nil (fits : line.Fits rest) : line.bytes ≠ [] :=
  Line.bytes_ne_nil fun ended => (fits.last ended).1

/-- In the place of the last of the lines that can be told apart another one may stand, if it begins
alike and can be told from what follows. -/
theorem lines_flatMap_append {front : List Line} {old new : Line} (apart : Apart (front ++ [old]))
    (fits : new.Fits rest) (alike : new.bytes.head? = old.bytes.head?) :
    lines (front.flatMap Line.bytes ++ (new.bytes ++ rest)) = front ++ new :: lines rest := by
  induction front with
  | nil => exact lines_bytes_append fits
  | cons line others ih =>
    obtain ⟨told, further⟩ := apart_cons_iff.1 apart
    have closed : line.ending ≠ .textEnd := by
      intro ended
      have none := further.eq_nil (told.last ended).2
      exact List.append_ne_nil_of_right_ne_nil others (List.cons_ne_nil old []) none
    have begins : (others.flatMap Line.bytes ++ (new.bytes ++ rest)).head? =
        ((others ++ [old]).flatMap Line.bytes).head? := by
      rw [List.flatMap_append, List.flatMap_singleton, List.head?_append,
        List.head?_append_of_ne_nil _ fits.bytes_ne_nil, alike, List.head?_append]
    have fits : line.Fits (others.flatMap Line.bytes ++ (new.bytes ++ rest)) :=
      ⟨told.plain, fun ended => absurd ended closed, fun ended => begins ▸ told.lone ended⟩
    rw [List.flatMap_cons, List.append_assoc, lines_bytes_append fits, ih further]
    rfl

/-- Lines can be told apart with other endings as well, if none is taken away and none becomes a
lone carriage return. -/
theorem Apart.map {parts : List Line} (apart : Apart parts) {change : Line → Line}
    (word : ∀ line, (change line).word = line.word)
    (last : ∀ line, (change line).ending = .textEnd → line.ending = .textEnd)
    (lone : ∀ line, (change line).ending ≠ .cr) : Apart (parts.map change) := by
  induction parts with
  | nil => exact apart_nil
  | cons line others ih =>
    obtain ⟨fits, further⟩ := apart_cons_iff.1 apart
    rw [List.map_cons, apart_cons_iff]
    refine ⟨⟨?_, fun ended => ?_, fun ended => absurd ended (lone line)⟩, ih further⟩
    · rw [word line]
      exact fits.plain
    · obtain ⟨some, alone⟩ := fits.last (last line ended)
      rw [word line, further.eq_nil alone]
      exact ⟨some, rfl⟩

end Line

/-- A text that is not empty is made of its last line and the others in front of it. -/
theorem exists_last_line {text : List UInt8} (nonempty : text ≠ []) :
    ∃ front last, lines text = front ++ [last] ∧ Line.Apart (front ++ [last]) ∧ last.Fits [] ∧
      text = front.flatMap Line.bytes ++ last.bytes ∧ text.getLast? = last.bytes.getLast? := by
  rcases List.eq_nil_or_concat' (lines text) with none | ⟨front, last, cut⟩
  · exact absurd (lines_eq_nil_iff.1 none) nonempty
  · have apart := apart_lines text
    have whole := flatMap_bytes_lines text
    rw [cut] at apart whole
    rw [List.flatMap_append, List.flatMap_singleton] at whole
    have fits : last.Fits [] :=
      ⟨apart.plain last (List.mem_append_right _ List.mem_cons_self),
        fun ended => ⟨(apart.last front last [] rfl ended).1, rfl⟩, fun _ => nofun⟩
    refine ⟨front, last, cut, apart, fits, whole.symm, ?_⟩
    rw [← whole, List.getLast?_append_of_ne_nil _ fits.bytes_ne_nil]

/-- A text whose lines all end in a line feed: each carriage return with a line feed behind it, and
each other carriage return, is replaced by a line feed. -/
def toLineFeeds : List UInt8 → List UInt8
  | [] => []
  | [byte] => [if byte = carriageReturn then lineFeed else byte]
  | byte :: next :: rest =>
    if byte = carriageReturn ∧ next = lineFeed then lineFeed :: toLineFeeds rest
    else (if byte = carriageReturn then lineFeed else byte) :: toLineFeeds (next :: rest)

/-- A byte is replaced by itself, unless it and the next one are an ending. -/
theorem toLineFeeds_cons {byte : UInt8} {rest : List UInt8}
    (apart : byte = carriageReturn → rest.head? ≠ some lineFeed) :
    toLineFeeds (byte :: rest) =
      (if byte = carriageReturn then lineFeed else byte) :: toLineFeeds rest := by
  cases rest with
  | nil => rfl
  | cons next rest =>
    have two : ¬(byte = carriageReturn ∧ next = lineFeed) := fun both =>
      apart both.1 (congrArg some both.2)
    rw [toLineFeeds, if_neg two]

namespace Line

/-- The line with a line feed for its ending, if it has one. -/
def withLineFeed (line : Line) : Line :=
  { line with ending := if line.ending = .textEnd then .textEnd else .lf }

/-- A word is not changed. -/
theorem toLineFeeds_append {word : Word} (rest : List UInt8)
    (plain : ∀ byte ∈ word, byte ≠ lineFeed ∧ byte ≠ carriageReturn) :
    toLineFeeds (word ++ rest) = word ++ toLineFeeds rest := by
  induction word with
  | nil => rfl
  | cons byte word ih =>
    obtain ⟨first, others⟩ := List.forall_mem_cons.1 plain
    rw [List.cons_append, toLineFeeds_cons fun ret => absurd ret first.2, if_neg first.2,
      ih others, List.cons_append]

/-- The first line of a text gets a line feed. -/
theorem toLineFeeds_bytes_append {line : Line} {rest : List UInt8} (fits : line.Fits rest) :
    toLineFeeds (line.bytes ++ rest) = line.withLineFeed.bytes ++ toLineFeeds rest := by
  have ending : toLineFeeds (line.ending.bytes ++ rest) =
      line.withLineFeed.ending.bytes ++ toLineFeeds rest := by
    rw [withLineFeed]
    cases ended : line.ending with
    | lf => exact toLineFeeds_cons fun ret => absurd ret (by decide)
    | cr => exact toLineFeeds_cons fun _ => fits.lone ended
    | crlf => exact if_pos ⟨rfl, rfl⟩
    | textEnd => rfl
  rw [Line.bytes, List.append_assoc, toLineFeeds_append _ fits.plain, ending, Line.bytes,
    List.append_assoc]
  rfl

/-- All lines get a line feed. -/
theorem toLineFeeds_flatMap {parts : List Line} (apart : Apart parts) :
    toLineFeeds (parts.flatMap Line.bytes) =
      (parts.map withLineFeed).flatMap Line.bytes := by
  induction parts with
  | nil => rfl
  | cons line others ih =>
    obtain ⟨fits, further⟩ := apart_cons_iff.1 apart
    rw [List.flatMap_cons, toLineFeeds_bytes_append fits, ih further]
    rfl

end Line

/-- The lines of a text with line feeds are those of the text, with line feeds. -/
theorem lines_toLineFeeds (text : List UInt8) :
    lines (toLineFeeds text) = (lines text).map Line.withLineFeed := by
  have changed := Line.toLineFeeds_flatMap (apart_lines text)
  rw [flatMap_bytes_lines] at changed
  have word (line : Line) : line.withLineFeed.word = line.word := rfl
  have last (line : Line) (ended : line.withLineFeed.ending = .textEnd) :
      line.ending = .textEnd := by
    by_contra other
    simp [Line.withLineFeed, other] at ended
  have lone (line : Line) : line.withLineFeed.ending ≠ .cr := by
    rw [Line.withLineFeed]
    split <;> simp
  rw [changed, lines_flatMap_bytes ((apart_lines text).map word last lone)]

namespace WordList

/-- The words that a text is parsed to. There is none in the text from which no list is read. -/
def wordsOf (text : List UInt8) : List Word :=
  match parse text with
  | .ok list => list.toList
  | .error _ => []

/-- The words of a text are those of its lines. -/
theorem wordsOf_eq (text : List UInt8) : wordsOf text = (lines text).map Line.word := by
  rw [wordsOf, parse]
  cases made : ofWords ((lines text).map Line.word) with
  | error cause => exact (ofWords_eq_error_iff.1 made).1.symm
  | ok list =>
    have known := congrArg (Except.map toList) made
    exact (map_toList_ofWords_eq_ok_iff.1 known).2.symm

/-- Behind a line feed, and behind a carriage return that no line feed follows, reading begins
anew. -/
theorem wordsOf_append {front back : List UInt8}
    (ended : front.getLast? = some lineFeed ∨ front.getLast? = some carriageReturn)
    (seam : front.getLast? = some carriageReturn → back.head? ≠ some lineFeed) :
    wordsOf (front ++ back) = wordsOf front ++ wordsOf back := by
  have nonempty : front ≠ [] := by
    rintro rfl
    exact absurd ended (by decide)
  obtain ⟨others, last, cut, apart, fits, whole, same⟩ := exists_last_line nonempty
  obtain ⟨feed, ret⟩ := Line.getLast?_bytes fits
  rw [same, feed, ret] at ended
  rw [same, ret] at seam
  have told : last.Fits back := by
    refine ⟨fits.plain, fun none => ?_, seam⟩
    rw [none] at ended
    exact absurd ended (by decide)
  rw [wordsOf_eq, wordsOf_eq, wordsOf_eq, cut, whole, List.append_assoc,
    Line.lines_flatMap_append apart told rfl, List.append_cons, List.map_append]

/-- A line feed behind a carriage return belongs to the line in front of it. -/
theorem wordsOf_append_lineFeed {front : List UInt8}
    (ended : front.getLast? = some carriageReturn) (back : List UInt8) :
    wordsOf (front ++ lineFeed :: back) = wordsOf front ++ wordsOf back := by
  have nonempty : front ≠ [] := by
    rintro rfl
    exact absurd ended (by decide)
  obtain ⟨others, last, cut, apart, fits, whole, same⟩ := exists_last_line nonempty
  have lone : last.ending = .cr := (Line.getLast?_bytes fits).2.1 (same ▸ ended)
  let joined : Line := ⟨last.word, .crlf⟩
  have told : joined.Fits back := ⟨fits.plain, nofun, nofun⟩
  have longer : joined.bytes = last.bytes ++ [lineFeed] := by
    rw [Line.bytes, Line.bytes, lone, List.append_assoc]
    rfl
  have alike : joined.bytes.head? = last.bytes.head? := by
    rw [longer, List.head?_append_of_ne_nil _ fits.bytes_ne_nil]
  have bytes : last.bytes ++ lineFeed :: back = joined.bytes ++ back := by
    rw [longer, List.append_assoc, List.singleton_append]
  rw [wordsOf_eq, wordsOf_eq, wordsOf_eq, cut, whole, List.append_assoc, bytes,
    Line.lines_flatMap_append apart told alike, List.append_cons, List.map_append, List.map_append,
    List.map_append]
  rfl

/-- A text with line feeds for all its endings is parsed to the same. -/
theorem parse_toLineFeeds (text : List UInt8) : parse (toLineFeeds text) = parse text := by
  rw [parse, lines_toLineFeeds, List.map_map]
  rfl

/-- The words of a text with a line feed behind each are parsed to the same. -/
theorem parse_flatMap_wordsOf (text : List UInt8) :
    parse ((wordsOf text).flatMap (· ++ [lineFeed])) = parse text := by
  let change (line : Line) : Line := ⟨line.word, .lf⟩
  have apart : Line.Apart ((lines text).map change) :=
    (apart_lines text).map (fun _ => rfl) (fun _ ended => nomatch ended) fun _ => nofun
  have bytes : (wordsOf text).flatMap (· ++ [lineFeed]) =
      ((lines text).map change).flatMap Line.bytes := by
    rw [wordsOf_eq, List.flatMap_map, List.flatMap_map]
    rfl
  rw [parse, bytes, lines_flatMap_bytes apart, List.map_map]
  rfl

/-- Reading composes at the end of a line. A text that ends in a line feed or a carriage return has,
together with what follows, its own words and those of what follows; only if a line feed follows a
carriage return, that line feed is left out. The list of a text, or that there is none, does not
change when each carriage return with a line feed behind it, and each other one, is replaced by a
line feed; and the list is read again from its words with a line feed behind each. -/
theorem parse_composes :
    (∀ front back : List UInt8,
      front.getLast? = some lineFeed ∨ front.getLast? = some carriageReturn →
      ¬(front.getLast? = some carriageReturn ∧ back.head? = some lineFeed) →
        wordsOf (front ++ back) = wordsOf front ++ wordsOf back) ∧
      (∀ front back : List UInt8, front.getLast? = some carriageReturn →
        wordsOf (front ++ lineFeed :: back) = wordsOf front ++ wordsOf back) ∧
      (∀ text, parse (toLineFeeds text) = parse text) ∧
      ∀ text list, parse text = .ok list →
        parse (list.toList.flatMap (· ++ [lineFeed])) = .ok list := by
  refine ⟨fun front back ended seam => ?_, fun front back ended => ?_, parse_toLineFeeds,
    fun text list made => ?_⟩
  · exact wordsOf_append ended fun ret feed => seam ⟨ret, feed⟩
  · exact wordsOf_append_lineFeed ended back
  · have words : wordsOf text = list.toList := by rw [wordsOf, made]
    rw [← words, parse_flatMap_wordsOf, made]

/-- Between two carriage returns a text is put together of its parts. Between a carriage return and
a line feed it is not, since the part behind it would begin with an empty line; without the line
feed it is. The list of one word is read again from the word and a line feed. -/
theorem parse_composes_at_pair :
    wordsOf ([97, 13] ++ [13, 98]) = wordsOf [97, 13] ++ wordsOf [13, 98] ∧
      wordsOf ([97, 13] ++ lineFeed :: [98]) = wordsOf [97, 13] ++ wordsOf [98] ∧
      wordsOf ([97, 13] ++ [10, 98]) ≠ wordsOf [97, 13] ++ wordsOf [10, 98] ∧
      parse (toLineFeeds [97, 13, 10, 13]) = parse [97, 13, 10, 13] ∧
      parse [97, 13] = .ok ⟨#[[97]], by decide⟩ ∧ parse [97, 10] = .ok ⟨#[[97]], by decide⟩ := by
  obtain ⟨parts, pair, feeds, again⟩ := parse_composes
  have one : parse [97, 13] = .ok ⟨#[[97]], by decide⟩ := by decide +kernel
  have apart : wordsOf ([97, 13] ++ [10, 98]) ≠ wordsOf [97, 13] ++ wordsOf [10, 98] := by
    decide +kernel
  exact ⟨parts _ _ (.inr rfl) (by decide), pair _ _ rfl, apart, feeds _, one, again _ _ one⟩

end WordList

end WordPairs
