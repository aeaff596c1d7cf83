import WordPairs.CommandLine.Filter

/-!
# Settings that can be read

The parts of a directive are told apart without the blanks at its ends, and cut out with them. If it
begins with no blank, then the positions are the same, and if each of its characters takes one byte,
then no position lies inside of one. Every cut is made between two characters then, so that the
directive is read or turns out to be in no known form. A setting of such directives gives a filter.
-/

namespace WordPairs.CommandLine

open WordPairs.Text

/-- A position that lies inside of no character of a text. -/
def IsBoundary (text : List Char) (position : Nat) : Prop :=
  ∃ back, dropBytes? position text = some back

/-- A reading that has a value with a property, or finds the text in no known form. -/
def Whole {α : Type} (property : α → Prop) : Except DirectiveError α → Prop
  | .ok value => property value
  | .error cause => cause = .malformed

section Cuts

variable {α β : Type} {property : α → Prop} {further : β → Prop}

/-- A reading that goes on with the value of another is whole if both are. -/
theorem Whole.bind {first : Except DirectiveError α} {next : α → Except DirectiveError β}
    (whole : Whole property first) (goesOn : ∀ value, property value → Whole further (next value)) :
    Whole further (first >>= next) := by
  cases first with
  | error cause => exact whole
  | ok value => exact goesOn value whole

/-- Reading all parts is whole if reading each of them is. -/
theorem whole_mapM {read : α → Except DirectiveError β} {parts : List α}
    (whole : ∀ part ∈ parts, Whole (fun _ => True) (read part)) :
    Whole (fun _ => True) (parts.mapM read) := by
  induction parts with
  | nil => trivial
  | cons part parts ih =>
    rw [List.mapM_cons]
    refine (whole part List.mem_cons_self).bind fun value _ => ?_
    have rest := ih fun other among => whole other (List.mem_cons_of_mem part among)
    exact rest.bind fun values _ => trivial

/-- A part between two characters can be cut out. -/
theorem whole_slice {text : List Char} {start stop : Nat} (first : IsBoundary text start)
    (second : IsBoundary text stop) : Whole (fun _ => True) (slice text start stop) := by
  obtain ⟨_, first⟩ := first
  obtain ⟨_, second⟩ := second
  rw [slice, first, second]
  trivial

/-- A text ends between two characters. -/
theorem isBoundary_byteSize (text : List Char) : IsBoundary text (byteSize text) := by
  have ended := dropBytes?_byteSize text []
  rw [List.append_nil] at ended
  exact ⟨[], ended⟩

end Cuts

namespace Directive

/-- A field is read, or it is in no known form. -/
theorem whole_readField (text : String) : Whole (fun _ => True) (readField text) := by
  rw [readField]
  split
  · rfl
  · rfl
  · trivial
  · split
    · trivial
    · rfl

/-- A severity is read, or it is in no known form. -/
theorem whole_readLevel (text : String) : Whole (fun _ => True) (readLevel text) := by
  rw [readLevel]
  split
  · trivial
  · split
    · trivial
    · rfl

/-- Where the part that is being read begins, if it is to be cut out. -/
def Part.start? : Part → Option Nat
  | name start | span start | field start | level start => some start
  | nothing | closed | complete => none

namespace Draft

/-- What is being read began between two characters. -/
def Begun (text : List Char) (draft : Draft) : Prop :=
  ∀ start ∈ draft.part.start?, IsBoundary text start

variable {text : List Char}

/-- A part that begins between two characters has begun there. -/
theorem begun_of_start {directive : Directive} {part : Part} {start : Nat}
    (begins : part.start? = some start) (boundary : IsBoundary text start) :
    Begun text ⟨directive, part⟩ := by
  intro other found
  rw [begins, Option.mem_some_iff] at found
  exact found ▸ boundary

/-- Between two parts nothing has begun. -/
theorem begun_of_none {directive : Directive} {part : Part} (none : part.start? = none) :
    Begun text ⟨directive, part⟩ := by
  intro other found
  rw [none] at found
  contradiction

/-- A character that lies between two boundaries leads from what began between two characters to
what begins there. -/
theorem whole_read {draft : Draft} {position : Nat} {char : Char} (begun : draft.Begun text)
    (here : IsBoundary text position) (behind : IsBoundary text (position + char.utf8Size)) :
    Whole (Begun text) (draft.read text position char) := by
  obtain ⟨directive, part⟩ := draft
  -- The characters that end a part take one byte each, so the next part begins behind them.
  have next {mark : Char} (found : char = mark) (narrow : mark.utf8Size = 1) :
      IsBoundary text (position + 1) := by
    rwa [found, narrow] at behind
  cases part with
  | nothing =>
    simp only [read]
    split
    · next found => exact begun_of_start rfl (next found rfl)
    · split
      · exact begun_of_start rfl here
      · rfl
  | name start =>
    simp only [read]
    split
    · next found =>
      refine (whole_slice (begun start rfl) here).bind fun target _ => ?_
      by_cases equals : char = '='
      · rw [if_pos equals]
        exact begun_of_start rfl (next equals rfl)
      · rw [if_neg equals]
        have opened : char = '[' := by simpa [equals] using found
        exact begun_of_start rfl (next opened rfl)
    · exact begun
  | span start =>
    simp only [read]
    split
    · exact (whole_slice (begun start rfl) here).bind fun name _ => begun_of_none rfl
    · split
      · next found =>
        exact (whole_slice (begun start rfl) here).bind fun name _ =>
          begun_of_start rfl (next found rfl)
      · exact begun
  | field start =>
    simp only [read]
    split
    · refine (whole_slice (begun start rfl) here).bind fun name _ => ?_
      exact (whole_readField name).bind fun field _ => begun_of_none rfl
    · exact begun
  | closed =>
    simp only [read]
    split
    · exact begun_of_none rfl
    · rfl
  | complete =>
    simp only [read]
    split
    · next found => exact begun_of_start rfl (next found rfl)
    · rfl
  | level start => exact begun

/-- Reading what is left of a text, whose characters all lie between boundaries, is whole. -/
theorem whole_readAll {scanned : List Char}
    (aligned : ∀ front back, scanned = front ++ back → IsBoundary text (byteSize front))
    (front back : List Char) (parts : scanned = front ++ back) {draft : Draft}
    (begun : draft.Begun text) :
    Whole (Begun text) (draft.readAll text (byteSize front) back) := by
  induction back generalizing front draft with
  | nil => exact begun
  | cons char back ih =>
    have further : scanned = (front ++ [char]) ++ back := by
      rw [parts, List.append_assoc, List.singleton_append]
    have size : byteSize (front ++ [char]) = byteSize front + char.utf8Size := by
      simp [byteSize, String.ofList_append]
    have behind := aligned _ _ further
    rw [size] at behind
    refine (whole_read begun (aligned _ _ parts) behind).bind fun draft begun => ?_
    rw [← size]
    exact ih _ further begun

/-- The end of a text is between two characters, so that the last part can be cut out. -/
theorem whole_finish {draft : Draft} (begun : draft.Begun text) :
    Whole (fun _ => True) (draft.finish text) := by
  obtain ⟨directive, part⟩ := draft
  cases part with
  | name start =>
    refine (whole_slice (begun start rfl) (isBoundary_byteSize text)).bind fun name _ => ?_
    split <;> trivial
  | level start =>
    refine (whole_slice (begun start rfl) (isBoundary_byteSize text)).bind fun name _ => ?_
    exact (whole_readLevel name).bind fun threshold _ => trivial
  | complete => trivial
  | nothing | span _ | field _ | closed => rfl

end Draft

/-- A text that begins with no blank, or has no character of several bytes. -/
def Cuttable (text : List Char) : Prop :=
  (∀ char ∈ text.head?, isBlank char = false) ∨ ∀ char ∈ text, char.utf8Size = 1

/-- What is left of a text that begins with no blank is its front. -/
theorem trim_prefix {text : List Char} (filled : ∀ char ∈ text.head?, isBlank char = false) :
    trim text <+: text := by
  have kept : text.dropWhile isBlank = text := by
    cases text with
    | nil => rfl
    | cons char text =>
      rw [List.dropWhile_cons_of_neg]
      simp [filled char rfl]
  have front := List.reverse_prefix.2 (List.dropWhile_suffix isBlank (l := text.reverse))
  rw [List.reverse_reverse] at front
  rwa [trim, kept]

/-- No position lies inside of a character that takes one byte. -/
theorem isBoundary_of_narrow {text : List Char} (narrow : ∀ char ∈ text, char.utf8Size = 1)
    {position : Nat} (inside : position ≤ text.length) : IsBoundary text position := by
  induction text generalizing position with
  | nil =>
    rw [Nat.eq_zero_of_le_zero inside]
    exact ⟨[], rfl⟩
  | cons char text ih =>
    cases position with
    | zero => exact ⟨_, rfl⟩
    | succ position =>
      obtain ⟨back, dropped⟩ := ih (fun other among => narrow other (List.mem_cons_of_mem _ among))
        (Nat.le_of_succ_le_succ inside)
      refine ⟨back, ?_⟩
      rw [dropBytes?, narrow char List.mem_cons_self, if_pos (Nat.le_add_left 1 position)]
      exact dropped

/-- Characters of one byte take as many bytes as they are. -/
theorem byteSize_of_narrow {text : List Char} (narrow : ∀ char ∈ text, char.utf8Size = 1) :
    byteSize text = text.length := by
  induction text with
  | nil => rfl
  | cons char text ih =>
    rw [byteSize_cons, narrow char List.mem_cons_self, List.length_cons,
      ih fun other among => narrow other (List.mem_cons_of_mem _ among), Nat.add_comm]

/-- Where a text can be cut, the characters between its blanks lie between its boundaries. -/
theorem isBoundary_of_cuttable {text front back : List Char} (cuttable : Cuttable text)
    (parts : trim text = front ++ back) : IsBoundary text (byteSize front) := by
  rcases cuttable with filled | narrow
  · obtain ⟨blanks, whole⟩ := trim_prefix filled
    rw [parts, List.append_assoc] at whole
    exact ⟨_, whole ▸ dropBytes?_byteSize front (back ++ blanks)⟩
  · have among : List.Sublist (trim text) text := by
      have front := (List.dropWhile_sublist isBlank (l := (text.dropWhile isBlank).reverse)).reverse
      rw [List.reverse_reverse] at front
      exact front.trans (List.dropWhile_sublist isBlank)
    have among : List.Sublist front text :=
      (List.sublist_append_left front back).trans (parts ▸ among)
    rw [byteSize_of_narrow fun char inFront => narrow char (among.subset inFront)]
    exact isBoundary_of_narrow narrow among.length_le

/-- A directive that can be cut is read, or it is in no known form. -/
theorem whole_read {text : List Char} (cuttable : Cuttable text) :
    Whole (fun _ => True) (read text) := by
  have start : Draft.empty.Begun text := Draft.begun_of_none rfl
  exact (Draft.whole_readAll (fun _ _ => isBoundary_of_cuttable cuttable) [] (trim text) rfl
    start).bind fun draft begun => Draft.whole_finish begun

end Directive

namespace Filter

/-- Each directive of a setting begins with no blank, or has no character of several bytes. -/
def Cuttable (setting : Option String) : Prop :=
  ∀ text ∈ setting, ∀ part ∈ text.splitOn ",", Directive.Cuttable part.toList

/-- A setting whose directives can be cut gives a filter. -/
theorem exists_ofSetting {setting : Option String} (cuttable : Cuttable setting) :
    ∃ filter, ofSetting setting = .ok filter := by
  cases setting with
  | none => exact ⟨standard, rfl⟩
  | some text =>
    have whole : Whole (fun _ => True) (read text) := by
      refine Whole.bind (whole_mapM fun part among => ?_) fun directives _ => trivial
      exact Directive.whole_read (cuttable text rfl part (List.mem_filter.1 among).1)
    rw [ofSetting, Option.map_some]
    cases result : read text with
    | ok filter => exact ⟨filter, rfl⟩
    | error cause =>
      rw [result] at whole
      have malformed : cause = .malformed := whole
      rw [malformed]
      exact ⟨standard, rfl⟩

/-- A setting of one directive gives no filter if the directive is cut inside of a character. -/
theorem ofSetting_of_broken {text : String} (alone : text.splitOn "," = [text])
    (filled : text.isEmpty = false)
    (broken : Directive.read text.toList = .error .brokenCharacter) :
    ofSetting (some text) = .error .brokenCharacter := by
  have parts : (text.splitOn ",").filter (!·.isEmpty) = [text] := by
    rw [alone, List.filter_cons_of_pos (by rw [filled]; rfl), List.filter_nil]
  have failed : read text = .error .brokenCharacter := by
    rw [read, parts, List.mapM_cons, broken]
    rfl
  rw [ofSetting, Option.map_some, failed]

end Filter

end WordPairs.CommandLine
