import WordPairs.WordList.Basic

/-!
# The lines that a text is made of

A text can be made of lines in several ways, but in one way only so that no word holds an ending,
no line but the last lacks one, and no line feed stands apart from the carriage return in front of
it. These are the lines that a text is cut into.
-/

namespace WordPairs

namespace Line

/-- A line can be told from the text behind it. Its word holds no ending; it lacks an ending only
with a word in front of the end of the text; and a carriage return that ends it is the whole
ending. -/
structure Fits (line : Line) (rest : List UInt8) : Prop where
  /-- No byte of the word ends a line. -/
  plain : ∀ byte ∈ line.word, byte ≠ lineFeed ∧ byte ≠ carriageReturn
  /-- Only a word at the end of the text goes without an ending. -/
  last : line.ending = .textEnd → line.word ≠ [] ∧ rest = []
  /-- No line feed follows a lone carriage return. -/
  lone : line.ending = .cr → rest.head? ≠ some lineFeed

/-- Lines that can be told apart in the text that they make up. -/
structure Apart (lines : List Line) : Prop where
  /-- No byte of a word ends a line. -/
  plain : ∀ line ∈ lines, ∀ byte ∈ line.word, byte ≠ lineFeed ∧ byte ≠ carriageReturn
  /-- Only the last line may lack an ending, and only behind a word. -/
  last : ∀ before line after, lines = before ++ line :: after → line.ending = .textEnd →
    line.word ≠ [] ∧ after = []
  /-- No line feed follows a lone carriage return. -/
  lone : ∀ before line after, lines = before ++ line :: after → line.ending = .cr →
    (after.flatMap Line.bytes).head? ≠ some lineFeed

/-- A byte that is neither a line feed nor a carriage return does not end a line. -/
theorem endsLine_eq_false_iff {byte : UInt8} :
    endsLine byte = false ↔ byte ≠ lineFeed ∧ byte ≠ carriageReturn := by
  simp [endsLine]

/-- An ending is cut off in front of a rest that it can be told from. -/
theorem cutEnding_bytes_append {ending : Ending} {rest : List UInt8}
    (last : ending = .textEnd → rest = [])
    (lone : ending = .cr → rest.head? ≠ some lineFeed) :
    cutEnding (ending.bytes ++ rest) = (ending, rest) := by
  cases ending with
  | lf => rfl
  | crlf => rfl
  | textEnd =>
    rw [last rfl]
    rfl
  | cr =>
    cases rest with
    | nil => rfl
    | cons next after =>
      have other : ¬next = lineFeed := fun feed => lone rfl (congrArg some feed)
      simp [cutEnding, Ending.bytes, other]

/-- A line is cut off in front of a rest that it can be told from. -/
theorem cut_bytes_append {line : Line} {rest : List UInt8} (fits : line.Fits rest) :
    cut (line.bytes ++ rest) = (line, rest) := by
  have word : ∀ byte ∈ line.word, (!endsLine byte) = true := fun byte member => by
    rw [endsLine_eq_false_iff.2 (fits.plain byte member)]
    rfl
  have ends : ∀ byte ∈ (line.ending.bytes ++ rest).head?, ¬(!endsLine byte) = true := by
    cases ending : line.ending with
    | lf => simp [Ending.bytes, endsLine]
    | cr => simp [Ending.bytes, endsLine]
    | crlf => simp [Ending.bytes, endsLine]
    | textEnd => simp [Ending.bytes, (fits.last ending).2]
  have taken : (line.ending.bytes ++ rest).takeWhile (!endsLine ·) = [] := by
    cases behind : line.ending.bytes ++ rest with
    | nil => rfl
    | cons byte others =>
      rw [behind] at ends
      exact List.takeWhile_cons_of_neg (ends byte rfl)
  have kept : (line.ending.bytes ++ rest).dropWhile (!endsLine ·) = line.ending.bytes ++ rest := by
    have whole := List.takeWhile_append_dropWhile (p := (!endsLine ·))
      (l := line.ending.bytes ++ rest)
    rwa [taken] at whole
  rw [cut, Line.bytes, List.append_assoc, List.takeWhile_append_of_pos word,
    List.dropWhile_append_of_pos word, taken, kept, List.append_nil,
    cutEnding_bytes_append (fun ended => (fits.last ended).2) fits.lone]

/-- What is left when an ending is cut off is told from it. -/
theorem cutEnding_fits {text : List UInt8} :
    ((cutEnding text).1 = .textEnd → text = [] ∧ (cutEnding text).2 = []) ∧
      ((cutEnding text).1 = .cr → (cutEnding text).2.head? ≠ some lineFeed) := by
  unfold cutEnding
  split
  · simp
  · split
    · split
      · split <;> simp_all
      · simp
    · simp

/-- The first line of a text can be told from what is left. -/
theorem cut_fits {text : List UInt8} (nonempty : text ≠ []) : (cut text).1.Fits (cut text).2 where
  plain byte member := by
    have kept : (!endsLine byte) = true := List.all_eq_true.1 List.all_takeWhile byte member
    exact endsLine_eq_false_iff.1 (by simpa using kept)
  last ended := by
    obtain ⟨nothing, rest⟩ := cutEnding_fits.1 ended
    have whole := List.takeWhile_append_dropWhile (p := (!endsLine ·)) (l := text)
    rw [nothing, List.append_nil] at whole
    exact ⟨fun empty => nonempty (whole.symm.trans empty), rest⟩
  lone ended := cutEnding_fits.2 ended

/-- A line with a word, or with an ending, takes at least one byte. -/
theorem bytes_ne_nil {line : Line} (last : line.ending = .textEnd → line.word ≠ []) :
    line.bytes ≠ [] := by
  intro byteless
  obtain ⟨word, ending⟩ := List.append_eq_nil_iff.1 byteless
  cases ended : line.ending with
  | textEnd => exact last ended word
  | lf => simp [ended, Ending.bytes] at ending
  | cr => simp [ended, Ending.bytes] at ending
  | crlf => simp [ended, Ending.bytes] at ending

/-- Lines that can be told apart make up the empty text only if there is none. -/
theorem Apart.eq_nil {lines : List Line} (apart : Apart lines)
    (byteless : lines.flatMap Line.bytes = []) : lines = [] := by
  cases lines with
  | nil => rfl
  | cons line rest =>
    have first : line.bytes = [] := (List.append_eq_nil_iff.1 byteless).1
    exact absurd first (bytes_ne_nil fun ended => (apart.last [] line rest rfl ended).1)

/-- Lines can be told apart if the first can be told from the text of the others and these can be
told apart. -/
theorem apart_cons_iff {line : Line} {rest : List Line} :
    Apart (line :: rest) ↔ line.Fits (rest.flatMap Line.bytes) ∧ Apart rest := by
  constructor
  · intro apart
    refine ⟨⟨apart.plain line List.mem_cons_self, fun ended => ?_, apart.lone [] line rest rfl⟩,
      ⟨fun other member => apart.plain other (List.mem_cons_of_mem line member),
        fun before other after cut => apart.last (line :: before) other after (by rw [cut]; rfl),
        fun before other after cut => apart.lone (line :: before) other after (by rw [cut]; rfl)⟩⟩
    obtain ⟨word, alone⟩ := apart.last [] line rest rfl ended
    exact ⟨word, by rw [alone]; rfl⟩
  · rintro ⟨fits, apart⟩
    refine ⟨List.forall_mem_cons.2 ⟨fits.plain, apart.plain⟩, ?_, ?_⟩
    · intro before other after cut ended
      cases before with
      | cons _ before => exact apart.last before other after (List.cons.inj cut).2 ended
      | nil =>
        obtain ⟨rfl, rfl⟩ := List.cons.inj cut
        exact ⟨(fits.last ended).1, apart.eq_nil (fits.last ended).2⟩
    · intro before other after cut ended
      cases before with
      | cons _ before => exact apart.lone before other after (List.cons.inj cut).2 ended
      | nil =>
        obtain ⟨rfl, rfl⟩ := List.cons.inj cut
        exact fits.lone ended

/-- No lines are told apart. -/
theorem apart_nil : Apart [] := ⟨by simp, by simp, by simp⟩

/-- Lines already cut off stay in front, the last of them first. -/
theorem linesOnto_append (front back : List Line) (text : List UInt8) :
    linesOnto (front ++ back) text = back.reverse ++ linesOnto front text := by
  fun_induction linesOnto front text with
  | case1 front => rw [linesOnto, List.reverse_append]
  | case2 front byte rest ih => rw [linesOnto, ← ih, List.cons_append]

end Line

/-- The empty text has no line. -/
@[simp] theorem lines_nil : lines [] = [] := by
  rw [lines, Line.linesOnto]
  rfl

/-- A text that is not empty has its first line and the lines of what is left. -/
theorem lines_of_ne_nil {text : List UInt8} (nonempty : text ≠ []) :
    lines text = (Line.cut text).1 :: lines (Line.cut text).2 := by
  cases text with
  | nil => contradiction
  | cons byte rest =>
    rw [lines, Line.linesOnto]
    exact Line.linesOnto_append [] [_] _

/-- Only the empty text has no lines. -/
theorem lines_eq_nil_iff {text : List UInt8} : lines text = [] ↔ text = [] := by
  constructor
  · intro none
    have whole := flatMap_bytes_lines text
    rw [none] at whole
    exact whole.symm
  · rintro rfl
    exact lines_nil

/-- A line in front of a text that it can be told from is the first of all its lines. -/
theorem lines_bytes_append {line : Line} {rest : List UInt8} (fits : line.Fits rest) :
    lines (line.bytes ++ rest) = line :: lines rest := by
  have nonempty : line.bytes ++ rest ≠ [] :=
    List.append_ne_nil_of_left_ne_nil (Line.bytes_ne_nil fun ended => (fits.last ended).1) rest
  rw [lines_of_ne_nil nonempty, Line.cut_bytes_append fits]

/-- The lines that a text is cut into can be told apart. -/
theorem apart_lines (text : List UInt8) : Line.Apart (lines text) := by
  by_cases empty : text = []
  · subst empty
    rw [lines_nil]
    exact Line.apart_nil
  · have fits := Line.cut_fits empty
    have shorter := Line.length_cut_lt empty
    rw [lines_of_ne_nil empty, Line.apart_cons_iff, flatMap_bytes_lines]
    exact ⟨fits, apart_lines (Line.cut text).2⟩
termination_by text.length

/-- Lines that can be told apart are those that their text is cut into. -/
theorem lines_flatMap_bytes {parts : List Line} (apart : Line.Apart parts) :
    lines (parts.flatMap Line.bytes) = parts := by
  induction parts with
  | nil => exact lines_nil
  | cons line rest ih =>
    obtain ⟨fits, others⟩ := Line.apart_cons_iff.1 apart
    rw [List.flatMap_cons, lines_bytes_append fits, ih others]

/-- The lines of a text are the only ones that make up the text and can be told apart. -/
theorem lines_eq_iff {text : List UInt8} {parts : List Line} :
    lines text = parts ↔ parts.flatMap Line.bytes = text ∧ Line.Apart parts := by
  constructor
  · rintro rfl
    exact ⟨flatMap_bytes_lines text, apart_lines text⟩
  · rintro ⟨rfl, apart⟩
    exact lines_flatMap_bytes apart

end WordPairs
