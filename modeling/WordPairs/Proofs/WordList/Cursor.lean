import WordPairs.Proofs.WordList.Grammar

/-!
# Reading a text by position

A cursor goes through a text once, from byte to byte, and looks one byte further behind a carriage
return. Whatever it asks for by position lies in the text, it never stands still, and at the end it
has the words that the text is parsed to. These are the words of the only lines that the text is
made of.
-/

namespace WordPairs

/-- The place of a reader in a text. -/
structure Cursor where
  /-- The words of the lines that have ended. -/
  words : List Word
  /-- Where the word of the line that is being read begins. -/
  start : Nat
  /-- Where the next byte stands. -/
  position : Nat

namespace Cursor

/-- The bytes of a text from one position to another, if the one is not behind the other and both
lie in the text. -/
def slice? (text : List UInt8) (start stop : Nat) : Option Word :=
  if start ≤ stop ∧ stop ≤ text.length then some ((text.take stop).drop start) else none

/-- One line ending or one other byte further. There is no next place if anything was asked for
that does not lie in the text. -/
def step? (text : List UInt8) (cursor : Cursor) : Option Cursor := do
  let byte ← text[cursor.position]?
  if byte = lineFeed then
    let word ← slice? text cursor.start cursor.position
    return ⟨cursor.words ++ [word], cursor.position + 1, cursor.position + 1⟩
  else if byte = carriageReturn then
    let word ← slice? text cursor.start cursor.position
    let next := cursor.position + if text[cursor.position + 1]? = some lineFeed then 2 else 1
    return ⟨cursor.words ++ [word], next, next⟩
  else return { cursor with position := cursor.position + 1 }

/-- The words when the end is reached. What begins in front of it is one more word. -/
def finish? (text : List UInt8) (cursor : Cursor) : Option (List Word) :=
  if cursor.start < text.length then do
    let word ← slice? text cursor.start text.length
    return cursor.words ++ [word]
  else return cursor.words

/-- The places that a reader comes to, from the beginning of a text on and while there are bytes
left. -/
inductive Reached (text : List UInt8) : Cursor → Prop where
  /-- The reader begins in front of all bytes, with no word. -/
  | begin : Reached text ⟨[], 0, 0⟩
  /-- It goes on from any place that is not the end. -/
  | next {cursor next : Cursor} : Reached text cursor → cursor.position < text.length →
    cursor.step? text = some next → Reached text next

/-- A place in a text where the words that were read and the lines that are left make up what the
text holds, and the word being read has no ending up to here. -/
structure Sound (text : List UInt8) (cursor : Cursor) : Prop where
  /-- The word being read begins in front of the next byte. -/
  ordered : cursor.start ≤ cursor.position
  /-- The next byte is in the text, or the end is reached. -/
  inside : cursor.position ≤ text.length
  /-- No byte of the word being read ends a line. -/
  plain : ∀ byte ∈ (text.take cursor.position).drop cursor.start,
    byte ≠ lineFeed ∧ byte ≠ carriageReturn
  /-- The words of the text are those read and those of the lines left. -/
  words : (lines text).map Line.word =
    cursor.words ++ (lines (text.drop cursor.start)).map Line.word

/-- The next place is reached, lies further into the text and is sound. -/
def Advances (text : List UInt8) (cursor : Cursor) : Prop :=
  ∃ next, cursor.step? text = some next ∧ cursor.position < next.position ∧ Sound text next

variable {text : List UInt8} {cursor : Cursor}

/-- What lies in the text is what is asked for. -/
theorem slice?_of_le {start stop : Nat} (ordered : start ≤ stop) (inside : stop ≤ text.length) :
    slice? text start stop = some ((text.take stop).drop start) := if_pos ⟨ordered, inside⟩

/-- The text from the word on is that word up to here and the text from here on. -/
theorem Sound.drop_start (sound : Sound text cursor) :
    text.drop cursor.start =
      (text.take cursor.position).drop cursor.start ++ text.drop cursor.position := by
  have length := List.length_take_of_le sound.inside
  rw [← List.drop_append_of_le_length (by rw [length]; exact sound.ordered),
    List.take_append_drop]

/-- In front of all bytes nothing is read. -/
theorem sound_begin (text : List UInt8) : Sound text ⟨[], 0, 0⟩ :=
  ⟨Nat.le_refl 0, Nat.zero_le _, by simp, rfl⟩

/-- A line that ends here is the first of those left. -/
theorem Sound.lineEnd (sound : Sound text cursor) {ending : Ending} {next : Nat}
    (behind : text.drop cursor.position = ending.bytes ++ text.drop next)
    (ended : ending ≠ .textEnd) (inside : next ≤ text.length)
    (lone : ending = .cr → (text.drop next).head? ≠ some lineFeed) :
    Sound text ⟨cursor.words ++ [(text.take cursor.position).drop cursor.start], next, next⟩ := by
  let line : Line := ⟨(text.take cursor.position).drop cursor.start, ending⟩
  have fits : line.Fits (text.drop next) := ⟨sound.plain, fun last => absurd last ended, lone⟩
  have cut : text.drop cursor.start = line.bytes ++ text.drop next := by
    rw [sound.drop_start, behind, ← List.append_assoc]
    rfl
  refine ⟨Nat.le_refl next, inside, by simp, ?_⟩
  rw [sound.words, cut, lines_bytes_append fits, List.map_cons, List.append_assoc]
  rfl

/-- A byte that ends no line belongs to the word. -/
theorem Sound.wordByte (sound : Sound text cursor) (left : cursor.position < text.length)
    (other : text[cursor.position] ≠ lineFeed ∧ text[cursor.position] ≠ carriageReturn) :
    Sound text { cursor with position := cursor.position + 1 } := by
  have length := List.length_take_of_le sound.inside
  refine ⟨Nat.le_succ_of_le sound.ordered, left, ?_, sound.words⟩
  show ∀ byte ∈ (text.take (cursor.position + 1)).drop cursor.start, _
  rw [List.take_succ_eq_append_getElem left,
    List.drop_append_of_le_length (by rw [length]; exact sound.ordered)]
  intro byte member
  rcases List.mem_append.1 member with before | last
  · exact sound.plain byte before
  · rw [List.mem_singleton.1 last]
    exact other

/-- From a line feed a reader goes on, with one word more. -/
theorem Sound.step_lineFeed (sound : Sound text cursor) (left : cursor.position < text.length)
    (feed : text[cursor.position] = lineFeed) : Advances text cursor := by
  have here : text[cursor.position]? = some lineFeed := by
    rw [List.getElem?_eq_getElem left, feed]
  have stepped : cursor.step? text = some ⟨cursor.words ++
      [(text.take cursor.position).drop cursor.start], cursor.position + 1,
        cursor.position + 1⟩ := by
    simp only [step?, here, slice?_of_le sound.ordered sound.inside, Option.bind_eq_bind,
      Option.bind_some, if_true]
    rfl
  have ends : text.drop cursor.position = Ending.lf.bytes ++ text.drop (cursor.position + 1) := by
    rw [List.drop_eq_getElem_cons left, feed]
    rfl
  exact ⟨_, stepped, Nat.lt_succ_self _, sound.lineEnd ends (by decide) left nofun⟩

/-- From a carriage return a reader goes on, with one word more. It looks one byte further, which
need not be there. -/
theorem Sound.step_carriageReturn (sound : Sound text cursor)
    (left : cursor.position < text.length) (ret : text[cursor.position] = carriageReturn) :
    Advances text cursor := by
  let width := if text[cursor.position + 1]? = some lineFeed then 2 else 1
  have here : text[cursor.position]? = some carriageReturn := by
    rw [List.getElem?_eq_getElem left, ret]
  have stepped : cursor.step? text = some ⟨cursor.words ++
      [(text.take cursor.position).drop cursor.start], cursor.position + width,
        cursor.position + width⟩ := by
    simp only [step?, here, slice?_of_le sound.ordered sound.inside, Option.bind_eq_bind,
      Option.bind_some, if_true]
    rfl
  have behind : text.drop cursor.position =
      carriageReturn :: text.drop (cursor.position + 1) := by
    rw [List.drop_eq_getElem_cons left, ret]
  refine ⟨_, stepped, ?_⟩
  by_cases both : text[cursor.position + 1]? = some lineFeed
  · have two : width = 2 := if_pos both
    obtain ⟨second, found⟩ := List.getElem?_eq_some_iff.1 both
    have ends : text.drop cursor.position =
        Ending.crlf.bytes ++ text.drop (cursor.position + 2) := by
      rw [behind, List.drop_eq_getElem_cons second, found]
      rfl
    rw [two]
    exact ⟨Nat.lt_add_of_pos_right (by decide), sound.lineEnd ends (by decide) second nofun⟩
  · have one : width = 1 := if_neg both
    have lone : (text.drop (cursor.position + 1)).head? ≠ some lineFeed := by
      rwa [List.head?_drop]
    have ends : text.drop cursor.position =
        Ending.cr.bytes ++ text.drop (cursor.position + 1) := behind
    rw [one]
    exact ⟨Nat.lt_succ_self _, sound.lineEnd ends (by decide) left fun _ => lone⟩

/-- From a place in front of the end a reader goes on, further into the text. -/
theorem Sound.step (sound : Sound text cursor) (left : cursor.position < text.length) :
    Advances text cursor := by
  by_cases feed : text[cursor.position] = lineFeed
  · exact sound.step_lineFeed left feed
  · by_cases ret : text[cursor.position] = carriageReturn
    · exact sound.step_carriageReturn left ret
    · have here := List.getElem?_eq_getElem left
      have stepped : cursor.step? text =
          some { cursor with position := cursor.position + 1 } := by
        simp only [step?, here, feed, ret, Option.bind_eq_bind, Option.bind_some, if_false]
        rfl
      exact ⟨_, stepped, Nat.lt_succ_self _, sound.wordByte left ⟨feed, ret⟩⟩

/-- At the end of a text the words of all its lines are read. -/
theorem Sound.finish (sound : Sound text cursor) (ended : cursor.position = text.length) :
    cursor.finish? text = some ((lines text).map Line.word) := by
  rw [finish?, sound.words]
  split
  · next left =>
    have word := slice?_of_le sound.ordered sound.inside
    have whole : (text.take cursor.position).drop cursor.start = text.drop cursor.start := by
      rw [ended, List.take_length]
    let line : Line := ⟨text.drop cursor.start, .textEnd⟩
    have plain := sound.plain
    rw [whole] at plain
    have fits : line.Fits [] := ⟨plain, fun _ => ⟨by simpa [line] using left, rfl⟩, nofun⟩
    have cut : lines (text.drop cursor.start) = [line] := by
      have only := lines_bytes_append fits
      rwa [List.append_nil, lines_nil, Line.bytes, Ending.bytes, List.append_nil] at only
    rw [← ended, word, cut, whole]
    rfl
  · next none =>
    rw [List.drop_eq_nil_of_le (Nat.le_of_not_lt none), lines_nil, List.map_nil, List.append_nil]
    rfl

/-- Every place that a reader comes to is sound. -/
theorem Reached.sound (reached : Reached text cursor) : Sound text cursor := by
  induction reached with
  | begin => exact sound_begin text
  | next _ left stepped sound =>
    obtain ⟨next, same, _, still⟩ := sound.step left
    rw [stepped] at same
    exact Option.some.inj same ▸ still

/-- From every place a reader comes to the end. -/
theorem Reached.exists_end {cursor : Cursor} (reached : Reached text cursor) :
    ∃ last, Reached text last ∧ last.position = text.length := by
  by_cases ended : cursor.position = text.length
  · exact ⟨cursor, reached, ended⟩
  · have left := Nat.lt_of_le_of_ne reached.sound.inside ended
    obtain ⟨next, stepped, further, still⟩ := reached.sound.step left
    have shorter : text.length - next.position < text.length - cursor.position :=
      Nat.sub_lt_sub_left left further
    exact (Reached.next reached left stepped).exists_end
termination_by text.length - cursor.position

end Cursor

namespace WordList

/-- The words of the list that is made of words are these. -/
theorem map_toList_ofWords_eq_ok_iff {given words : List Word} :
    (ofWords given).map toList = .ok words ↔ given ≠ [] ∧ given = words := by
  unfold ofWords
  cases given <;> simp [Except.map, toList]

/-- No list is made of no words. -/
theorem ofWords_eq_error_iff {given : List Word} {cause : Error} :
    ofWords given = .error cause ↔ given = [] ∧ cause = .emptyWordList := by
  unfold ofWords
  cases given <;> simp [eq_comm]

/-- No list is read from the empty text, and from every other there is one. -/
theorem parse_eq_error_iff {text : List UInt8} {cause : Error} :
    parse text = .error cause ↔ text = [] ∧ cause = .emptyWordList := by
  rw [parse, ofWords_eq_error_iff, List.map_eq_nil_iff, lines_eq_nil_iff]

/-- A text is parsed to words exactly if it consists of lines with these words that can be told
apart, and there is a line. Only the empty text is refused. Reading the text by position comes to
the same: no place is reached from which the reader, in front of the end, would ask for anything
outside of the text or would not get further, and at the end, which is reached, it has the words
that the parsed list is made of. -/
theorem parse_accepts_grammar (text : List UInt8) :
    (∀ words, (parse text).map toList = .ok words ↔
        words ≠ [] ∧ ∃ parts : List Line, parts.map Line.word = words ∧
          parts.flatMap Line.bytes = text ∧ Line.Apart parts) ∧
      (parse text = .error .emptyWordList ↔ text = []) ∧
      (∀ cursor, Cursor.Reached text cursor →
        cursor.start ≤ cursor.position ∧ cursor.position ≤ text.length ∧
        (cursor.position < text.length →
          ∃ next, cursor.step? text = some next ∧ cursor.position < next.position) ∧
        (cursor.position = text.length →
          ∃ words, cursor.finish? text = some words ∧ parse text = ofWords words)) ∧
      ∃ last, Cursor.Reached text last ∧ last.position = text.length := by
  refine ⟨fun words => ?_, ?_, fun cursor reached => ?_, Cursor.Reached.begin.exists_end⟩
  · rw [parse, map_toList_ofWords_eq_ok_iff]
    constructor
    · rintro ⟨nonempty, rfl⟩
      exact ⟨nonempty, lines text, rfl, lines_eq_iff.1 rfl⟩
    · rintro ⟨nonempty, parts, rfl, made⟩
      rw [lines_eq_iff.2 made]
      exact ⟨nonempty, rfl⟩
  · rw [parse, ofWords_eq_error_iff, List.map_eq_nil_iff, lines_eq_iff]
    constructor
    · rintro ⟨⟨empty, _⟩, _⟩
      exact empty.symm
    · rintro rfl
      exact ⟨⟨rfl, Line.apart_nil⟩, rfl⟩
  · have sound := reached.sound
    refine ⟨sound.ordered, sound.inside, fun left => ?_,
      fun ended => ⟨_, sound.finish ended, rfl⟩⟩
    obtain ⟨next, stepped, further, _⟩ := sound.step left
    exact ⟨next, stepped, further⟩

end WordList

end WordPairs
