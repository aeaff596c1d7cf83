import WordPairs.Draw.Supply
import WordPairs.Proofs.Draw.Ranges
import WordPairs.Proofs.Generation.Blocks
import WordPairs.Proofs.Record.Content

/-!
# The records that can be generated

Whatever a source hands out, a record is the pair of a short word of the list and any word of it,
and a source can hand out the indices of any such pair. Words without a zero and without the
separator can be read back from their record, so that the records of a list can be told by their
bytes.
-/

namespace WordPairs

/-- A replay on offer hands out the value whose turn it is, if that is an index. -/
theorem Supply.next_replay {length value : Nat} {values : Array Nat} {drawn : UInt64}
    (room : drawn.toNat + 1 < Word64.modulus)
    (turn : values[drawn.toNat % values.size]? = some value) (inside : value < length) :
    IndexSource.next length (Supply.replay ⟨values, drawn⟩) =
      .ok (value, Supply.replay ⟨values, drawn + 1⟩) := by
  have handed : Replay.next length ⟨values, drawn⟩ = .ok (value, ⟨values, drawn + 1⟩) :=
    Replay.next_of_turn room turn inside
  show Supply.next length (Supply.replay ⟨values, drawn⟩) = _
  rw [Supply.next, handed]
  rfl

namespace WordList

/-- A record shows a pair of words of a list. It ends in padding, and its content, cut at the first
separator, is a short word and as much of a word as there is room for. -/
structure Shows (list : WordList) (record : Record) : Prop where
  /-- The last byte is padding. -/
  last : record.bytes[31]? = some 0
  /-- Nothing follows the padding. -/
  padded : record.wellPadded
  /-- The content is made of two words of the list. -/
  parts : ∃ first ∈ list.toList, ∃ second ∈ list.toList, first.length < 16 ∧
    Record.separator ∉ first ∧
    record.content = first ++ Record.separator :: second.take (30 - first.length)

variable {σ : Type} [IndexSource σ] {list : WordList}

/-- A word that is drawn is one of the list. -/
theorem mem_of_draw {source : σ} {word : Word} (drawn : (list.draw source).1 = .ok word) :
    word ∈ list.toList := by
  rw [draw] at drawn
  split at drawn
  · contradiction
  · next index _ _ =>
    simp only [WordList.word, get?] at drawn
    split at drawn
    · next found =>
      cases drawn
      exact Array.mem_toList_iff.2 (Array.mem_of_getElem? found)
    · contradiction

/-- A word that is drawn as a short word is a short one of the list. -/
theorem mem_of_drawShort {attempts left : Nat} {source : σ} {word : Word}
    (drawn : (list.drawShort attempts left source).1 = .ok word) :
    word ∈ list.toList ∧ isShort word := by
  induction left generalizing source with
  | zero => contradiction
  | succ left ih =>
    rw [drawShort] at drawn
    split at drawn
    · contradiction
    · next found next first =>
      split at drawn
      · next short =>
        cases drawn
        exact ⟨mem_of_draw (congrArg Prod.fst first), short⟩
      · exact ih drawn

end WordList

namespace Generator

variable {σ : Type} [IndexSource σ] {generator : Generator} {list : WordList}

/-- A record that is drawn is a pair of a short word and a word of the list. -/
theorem exists_of_drawRecord {source : σ} {record : Record}
    (drawn : (generator.drawRecord list source).1 = .ok record) :
    ∃ first ∈ list.toList, ∃ second ∈ list.toList, isShort first ∧
      record = Record.encode first second := by
  rw [drawRecord] at drawn
  split at drawn
  · contradiction
  · next first middle picked =>
    split at drawn
    · contradiction
    · next second last other =>
      cases drawn
      obtain ⟨member, short⟩ := WordList.mem_of_drawShort (congrArg Prod.fst picked)
      exact ⟨first, member, second, WordList.mem_of_draw (congrArg Prod.fst other), short, rfl⟩

/-- Each record of a draft is drawn. -/
theorem exists_of_mem_draft {count : Nat} {source : σ} {record : Record}
    (member : record ∈ (generator.draft list count source).records) :
    ∃ first ∈ list.toList, ∃ second ∈ list.toList, isShort first ∧
      record = Record.encode first second := by
  induction count generalizing source with
  | zero => simp [draft] at member
  | succ count ih =>
    rw [draft] at member
    split at member
    · simp at member
    · next drawn next first =>
      rcases List.mem_cons.1 member with rfl | later
      · exact exists_of_drawRecord (congrArg Prod.fst first)
      · exact ih later

/-- Each record that is generated is a pair of a short word and a word of the list. -/
theorem exists_of_mem_generate {budget : UInt64} {source : σ} {records : List Record}
    {record : Record} (generated : (generator.generate list budget source).result = .ok records)
    (member : record ∈ records) :
    ∃ first ∈ list.toList, ∃ second ∈ list.toList, isShort first ∧
      record = Record.encode first second := by
  obtain ⟨_, same⟩ := generate_eq_ok_iff.1 generated
  rw [← same, draftFor] at member
  split at member
  · exact exists_of_mem_draft member
  · simp at member

/-- A record is among those that are generated for some budget, with some number of draws for a
short word, from some source of a kind. -/
def Occurs (σ : Type) [IndexSource σ] (list : WordList) (record : Record) : Prop :=
  ∃ (budget : UInt64) (attempts : Nat) (source : σ) (records : List Record),
    ((withAttempts attempts).generate list budget source).result = .ok records ∧ record ∈ records

/-- Any pair of a short word and a word of the list is generated from a replay of their indices. -/
theorem occurs_encode {first second : Word} (one : first ∈ list.toList)
    (other : second ∈ list.toList) (short : isShort first) :
    Occurs Supply list (Record.encode first second) := by
  obtain ⟨i, rfl⟩ := WordList.mem_toList_iff.1 one
  obtain ⟨j, rfl⟩ := WordList.mem_toList_iff.1 other
  let states (draws : UInt64) : Supply := .replay ⟨#[i.val, j.val], draws⟩
  have first : IndexSource.next list.size (states 0) = .ok (i.val, states 1) :=
    Supply.next_replay (by decide) rfl i.isLt
  have second : IndexSource.next list.size (states 1) = .ok (j.val, states 2) :=
    Supply.next_replay (by decide) rfl j.isLt
  have handed : Hands list.size (states 0) [i, j] (states 2) :=
    .cons first (.cons second (.nil (states 2)))
  have generated := generate_of_pair (withAttempts 1) short handed
  exact ⟨32, 1, states 0, _, congrArg Outcome.result generated, List.mem_singleton_self _⟩

/-- From words that hold neither a zero nor the separator, just those records can be generated that
show a pair of them. It makes no difference whether all sources of indices are looked at or only
those on offer. -/
theorem occurs_iff_shows (list : WordList)
    (plain : ∀ word ∈ list.toList, 0 ∉ word ∧ Record.separator ∉ word) (record : Record) :
    ((∃ (σ : Type) (_ : IndexSource σ), Occurs σ list record) ↔ list.Shows record) ∧
      (Occurs Supply list record ↔ list.Shows record) := by
  have sound (σ : Type) [IndexSource σ] (occurs : Occurs σ list record) : list.Shows record := by
    obtain ⟨budget, attempts, source, records, generated, member⟩ := occurs
    obtain ⟨first, one, second, other, short, rfl⟩ := exists_of_mem_generate generated member
    have short : first.length < 16 := of_decide_eq_true short
    have room : first.length < Record.contentLimit := Nat.lt_trans short (by decide)
    obtain ⟨content, padded⟩ :=
      Record.content_encode room ⟨(plain first one).1, (plain second other).1⟩
    exact ⟨Record.last_encode first second, padded, first, one, second, other, short,
      (plain first one).2, content⟩
  have complete (shows : list.Shows record) : Occurs Supply list record := by
    obtain ⟨first, one, second, other, short, _, content⟩ := shows.parts
    have room : first.length < Record.contentLimit := Nat.lt_trans short (by decide)
    rw [Record.eq_encode shows.padded room content]
    exact occurs_encode one other (decide_eq_true short)
  exact ⟨⟨fun ⟨σ, _, occurs⟩ => sound σ occurs, fun shows => ⟨Supply, _, complete shows⟩⟩,
    ⟨sound Supply, complete⟩⟩

/-- Behind a word of three bytes there is room for 27 of the 40 bytes of another. -/
theorem occurs_iff_shows_cut :
    let list : WordList := ⟨#[[99, 97, 116], List.replicate 40 97], by decide⟩
    let record := Record.encode [99, 97, 116] (List.replicate 27 97)
    (∀ word ∈ list.toList, 0 ∉ word ∧ Record.separator ∉ word) ∧ Occurs Supply list record := by
  intro list record
  have plain : ∀ word ∈ list.toList, 0 ∉ word ∧ Record.separator ∉ word := by decide
  have shows : list.Shows record := by
    refine ⟨by decide, by decide, [99, 97, 116], by decide, List.replicate 40 97, by decide,
      by decide, by decide, by decide⟩
  exact ⟨plain, (occurs_iff_shows list plain record).2.2 shows⟩

end Generator

end WordPairs
