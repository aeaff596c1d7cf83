import WordPairs.Draw.Replay
import WordPairs.Proofs.Draw.Traced
import WordPairs.Proofs.Generation.Draft

/-!
# Records and the indices they are drawn with

The indices of one record are a block: some of long words, which are rejected, one of a short word,
and one more. A source of indices is read block by block, so that the records of a budget are those
of the first blocks of the stream that it hands out. Where instead of a block so many long words
come that no draw is left, the records end.
-/

namespace WordPairs

/-- The word at an index in range. -/
def WordList.wordAt (list : WordList) (index : Fin list.size) : Word :=
  have inside : index.val < list.words.size := index.isLt
  list.words[index.val]

/-- The indices that one record is drawn with, when so many draws are made for a short word. -/
structure Block (list : WordList) (attempts : Nat) where
  /-- The indices of the words that are too long to stand first. -/
  rejected : List (Fin list.size)
  /-- The index of the first word of the record. -/
  first : Fin list.size
  /-- The index of the second word of the record. -/
  second : Fin list.size
  /-- Rejected words are long. -/
  long : ∀ index ∈ rejected, isShort (list.wordAt index) = false
  /-- A draw is left for the first word. -/
  fewer : rejected.length < attempts
  /-- The first word is short. -/
  short : isShort (list.wordAt first)

namespace Block

variable {list : WordList} {attempts : Nat}

/-- The indices in the order in which they are drawn. -/
def indices (block : Block list attempts) : List (Fin list.size) :=
  block.rejected ++ [block.first, block.second]

/-- The record that is drawn with the indices. -/
def record (block : Block list attempts) : Record :=
  Record.encode (list.wordAt block.first) (list.wordAt block.second)

/-- A record takes two draws at least, and one more than are made for a short word at most. -/
theorem length_indices (block : Block list attempts) :
    2 ≤ block.indices.length ∧ block.indices.length ≤ attempts + 1 := by
  have fewer := block.fewer
  simp only [indices, List.length_append, List.length_cons, List.length_nil]
  omega

/-- What the draws of several records add up to. -/
theorem length_flatMap_indices (blocks : List (Block list attempts)) :
    2 * blocks.length ≤ (blocks.flatMap indices).length ∧
      (blocks.flatMap indices).length ≤ blocks.length * (attempts + 1) := by
  induction blocks with
  | nil => simp
  | cons block blocks ih =>
    have one := block.length_indices
    simp only [List.flatMap_cons, List.length_append, List.length_cons, Nat.succ_mul]
    omega

end Block

namespace WordList

variable {σ : Type} [IndexSource σ] {list : WordList}

/-- A list is found to have a short word exactly if one of its words has less than 16 bytes. -/
theorem hasShortWord_iff : list.hasShortWord ↔ ∃ word ∈ list.toList, word.length < 16 := by
  rw [hasShortWord, ← Array.any_toList, List.any_eq_true]
  simp only [isShort, decide_eq_true_eq]
  rfl

/-- The words at the indices are those of the list. -/
theorem mem_toList_iff {word : Word} : word ∈ list.toList ↔ ∃ index, list.wordAt index = word := by
  rw [toList, Array.mem_toList_iff, Array.mem_iff_getElem]
  constructor
  · rintro ⟨index, inside, found⟩
    exact ⟨⟨index, inside⟩, found⟩
  · rintro ⟨index, found⟩
    exact ⟨index.val, index.isLt, found⟩

/-- An index that is handed out is drawn as the word at it. -/
theorem draw_of_next {source next : σ} {index : Fin list.size}
    (drawn : IndexSource.next list.size source = .ok (index.val, next)) :
    list.draw source = (.ok (list.wordAt index), next) := by
  have inside : index.val < list.words.size := index.isLt
  rw [draw, drawn]
  simp only [word, get?, Array.getElem?_eq_getElem inside]
  rfl

/-- Long words use up draws. -/
theorem drawShort_of_rejected {source last : σ} {rejected : List (Fin list.size)}
    (handed : Hands list.size source rejected last)
    (long : ∀ index ∈ rejected, isShort (list.wordAt index) = false) (attempts left : Nat) :
    list.drawShort attempts (rejected.length + left) source =
      list.drawShort attempts left last := by
  induction handed with
  | nil => rw [List.length_nil, Nat.zero_add]
  | @cons source middle last index rest drawn _ ih =>
    have refused := long index List.mem_cons_self
    have others := ih fun other member => long other (List.mem_cons_of_mem index member)
    rw [List.length_cons, Nat.add_right_comm, drawShort, draw_of_next drawn]
    simp only [refused, Bool.false_eq_true, if_false, others]

end WordList

namespace Generator

variable {σ : Type} [IndexSource σ] {generator : Generator} {list : WordList}

/-- A block that is handed out gives its record. -/
theorem drawRecord_of_block {source last : σ} (block : Block list generator.attempts)
    (handed : Hands list.size source block.indices last) :
    generator.drawRecord list source = (.ok block.record, last) := by
  obtain ⟨middle, rejected, pair⟩ := hands_append.1 handed
  obtain ⟨left, enough⟩ : ∃ left, generator.attempts = block.rejected.length + (left + 1) :=
    ⟨generator.attempts - block.rejected.length - 1, by have := block.fewer; omega⟩
  cases pair with
  | @cons _ between _ _ _ first rest =>
    cases rest with
    | cons second none =>
      cases none
      have picked : list.drawShort generator.attempts generator.attempts source =
          (.ok (list.wordAt block.first), between) := by
        have skipped := WordList.drawShort_of_rejected rejected block.long generator.attempts
          (left + 1)
        rw [← enough, WordList.drawShort, WordList.draw_of_next first] at skipped
        simpa only [block.short, if_true] using skipped
      rw [drawRecord, picked]
      simp only [WordList.draw_of_next second]
      rfl

/-- Long words alone use up all the draws that are made for a short word. -/
theorem drawRecord_of_rejected {source last : σ} {rejected : List (Fin list.size)}
    (handed : Hands list.size source rejected last)
    (long : ∀ index ∈ rejected, isShort (list.wordAt index) = false)
    (all : rejected.length = generator.attempts) :
    generator.drawRecord list source =
      (.error (.error (.noQualifyingWord generator.attempts)), last) := by
  have failed := WordList.drawShort_of_rejected handed long generator.attempts 0
  rw [Nat.add_zero, all, WordList.drawShort] at failed
  rw [drawRecord, failed]

/-- Blocks that are handed out give their records, and the drawing goes on behind them. -/
theorem draft_of_blocks {source middle : σ} (blocks : List (Block list generator.attempts))
    (handed : Hands list.size source (blocks.flatMap Block.indices) middle) (count : Nat) :
    let rest := generator.draft list count middle
    generator.draft list (blocks.length + count) source =
      ⟨blocks.map Block.record ++ rest.records, rest.result, rest.source⟩ := by
  induction blocks generalizing source with
  | nil =>
    cases handed
    rw [List.length_nil, Nat.zero_add]
    rfl
  | cons block blocks ih =>
    obtain ⟨next, first, others⟩ := hands_append.1 handed
    rw [List.length_cons, Nat.add_right_comm, draft, drawRecord_of_block block first]
    simp only [ih others, List.map_cons, List.cons_append]

/-- From as many blocks as there are records to draw, all of them are drawn. -/
theorem draftFor_of_blocks {budget : UInt64} {source last : σ} (short : list.hasShortWord)
    (blocks : List (Block list generator.attempts))
    (enough : blocks.length = (recordCount budget).toNat)
    (handed : Hands list.size source (blocks.flatMap Block.indices) last) :
    generator.draftFor list budget source = ⟨blocks.map Block.record, .ok (), last⟩ := by
  have drawn := draft_of_blocks blocks handed 0
  rw [draftFor_of_admitted (.inr short), ← enough]
  simpa [draft] using drawn

/-- Behind fewer blocks, long words that leave no draw end the drawing. -/
theorem draftFor_of_rejected {budget : UInt64} {source last : σ} (short : list.hasShortWord)
    (blocks : List (Block list generator.attempts)) {rejected : List (Fin list.size)}
    (fewer : blocks.length < (recordCount budget).toNat)
    (long : ∀ index ∈ rejected, isShort (list.wordAt index) = false)
    (all : rejected.length = generator.attempts)
    (handed : Hands list.size source (blocks.flatMap Block.indices ++ rejected) last) :
    generator.draftFor list budget source =
      ⟨blocks.map Block.record, .error (.error (.noQualifyingWord generator.attempts)), last⟩ := by
  obtain ⟨middle, complete, rest⟩ := hands_append.1 handed
  obtain ⟨left, more⟩ : ∃ left, (recordCount budget).toNat = blocks.length + (left + 1) :=
    ⟨(recordCount budget).toNat - blocks.length - 1, by omega⟩
  rw [draftFor_of_admitted (.inr short), more, draft_of_blocks blocks complete, draft,
    drawRecord_of_rejected rest long all]
  simp

end Generator

section Cutting

variable {list : WordList} (stream : Nat → Fin list.size)

/-- Of so many indices some is the first of a short word, or all are of long words. -/
theorem exists_short_or_long (start attempts : Nat) :
    (∃ count < attempts,
      (∀ index ∈ window stream start count, isShort (list.wordAt index) = false) ∧
        isShort (list.wordAt (stream (start + count)))) ∨
      ∀ index ∈ window stream start attempts, isShort (list.wordAt index) = false := by
  induction attempts with
  | zero => exact .inr nofun
  | succ attempts ih =>
    rcases ih with ⟨count, fewer, long, short⟩ | long
    · exact .inl ⟨count, by omega, long, short⟩
    · by_cases short : isShort (list.wordAt (stream (start + attempts)))
      · exact .inl ⟨attempts, by omega, long, short⟩
      · refine .inr fun index member => ?_
        rw [← window_append, List.mem_append] at member
        rcases member with earlier | last
        · exact long index earlier
        · have last : index = stream (start + attempts) := List.mem_singleton.1 last
          simpa [last] using short

/-- A stream goes on with a block, or with long words that leave no draw. -/
theorem exists_block_or_long (start attempts : Nat) :
    (∃ block : Block list attempts, Continues stream start block.indices) ∨
      ∀ index ∈ window stream start attempts, isShort (list.wordAt index) = false := by
  rcases exists_short_or_long stream start attempts with ⟨count, fewer, long, short⟩ | long
  · have pair : Continues stream (start + (window stream start count).length)
        [stream (start + count), stream (start + count + 1)] := by
      rw [length_window]
      rfl
    exact .inl ⟨⟨window stream start count, stream (start + count), stream (start + count + 1),
      long, by simpa using fewer, short⟩,
      (continues_append stream).2 ⟨continues_window stream start count, pair⟩⟩
  · exact .inr long

/-- A stream is cut into as many blocks as are asked for, or into fewer and then long words that
leave no draw. -/
theorem exists_blocks_or_rejected (attempts count start : Nat) :
    (∃ blocks : List (Block list attempts), blocks.length = count ∧
      Continues stream start (blocks.flatMap Block.indices)) ∨
      ∃ (blocks : List (Block list attempts)) (rejected : List (Fin list.size)),
        blocks.length < count ∧ rejected.length = attempts ∧
          (∀ index ∈ rejected, isShort (list.wordAt index) = false) ∧
          Continues stream start (blocks.flatMap Block.indices ++ rejected) := by
  induction count generalizing start with
  | zero => exact .inl ⟨[], rfl, rfl⟩
  | succ count ih =>
    rcases exists_block_or_long stream start attempts with ⟨block, first⟩ | long
    · rcases ih (start + block.indices.length) with
        ⟨blocks, all, rest⟩ | ⟨blocks, rejected, fewer, none, long, rest⟩
      · refine .inl ⟨block :: blocks, by rw [List.length_cons, all], ?_⟩
        exact (continues_append stream).2 ⟨first, rest⟩
      · refine .inr ⟨block :: blocks, rejected, Nat.succ_lt_succ fewer, none, long, ?_⟩
        rw [List.flatMap_cons, List.append_assoc]
        exact (continues_append stream).2 ⟨first, rest⟩
    · exact .inr ⟨[], window stream start attempts, Nat.succ_pos count,
        length_window stream start attempts, long, continues_window stream start attempts⟩

end Cutting

namespace Generator

variable {σ : Type} [IndexSource σ]

/-- From as many blocks as a budget pays for, their records are generated. -/
theorem generate_of_blocks (generator : Generator) {list : WordList} {budget : UInt64}
    {source last : σ} (short : list.hasShortWord)
    (blocks : List (Block list generator.attempts))
    (enough : blocks.length = (recordCount budget).toNat)
    (handed : Hands list.size source (blocks.flatMap Block.indices) last) :
    generator.generate list budget source =
      ⟨.ok (blocks.map Block.record), last, generator.announcement list budget⟩ := by
  rw [generate_eq_draftFor, draftFor_of_blocks short blocks enough handed]
  rfl

/-- From the index of a short word and that of any word, the record of the two is generated. -/
theorem generate_of_pair (generator : Generator) {list : WordList} {source last : σ}
    {first second : Fin list.size} (short : isShort (list.wordAt first))
    (handed : Hands list.size source [first, second] last) :
    generator.generate list 32 source =
      ⟨.ok [Record.encode (list.wordAt first) (list.wordAt second)], last,
        generator.announcement list 32⟩ := by
  let block : Block list generator.attempts :=
    ⟨[], first, second, nofun, generator.positive, short⟩
  have admitted : list.hasShortWord := WordList.hasShortWord_iff.2
    ⟨_, WordList.mem_toList_iff.2 ⟨first, rfl⟩, of_decide_eq_true short⟩
  have enough : [block].length = (recordCount 32).toNat := by
    show 1 = (recordCount 32).toNat
    decide
  exact generate_of_blocks generator admitted [block] enough handed

/-- Behind fewer blocks, long words that leave no draw are an error. -/
theorem generate_of_rejected (generator : Generator) {list : WordList} {budget : UInt64}
    {source last : σ} (short : list.hasShortWord)
    (blocks : List (Block list generator.attempts)) {rejected : List (Fin list.size)}
    (fewer : blocks.length < (recordCount budget).toNat)
    (long : ∀ index ∈ rejected, isShort (list.wordAt index) = false)
    (all : rejected.length = generator.attempts)
    (handed : Hands list.size source (blocks.flatMap Block.indices ++ rejected) last) :
    generator.generate list budget source =
      ⟨.error (.error (.noQualifyingWord generator.attempts)), last,
        generator.announcement list budget⟩ := by
  rw [generate_eq_draftFor, draftFor_of_rejected short blocks fewer long all handed]
  rfl

/-- The records of a budget are those of the blocks that the stream of indices is cut into, if
there are enough, and no index behind the blocks is drawn. If there are not, the failure tells how
many draws were made in vain, and those are the last ones. A source needs to hand out no more of
the stream than the records can take. -/
theorem generate_of_stream (list : WordList) (budget : UInt64) (attempts : Nat)
    (stream : Nat → Fin list.size) (states : Nat → σ)
    (short : ∃ word ∈ list.toList, word.length < 16)
    (streams : ∀ draw < (recordCount budget).toNat * (max 1 attempts + 1),
      IndexSource.next list.size (states draw) = .ok ((stream draw).val, states (draw + 1))) :
    let count := (recordCount budget).toNat
    let most := max 1 attempts
    let outcome := (withAttempts attempts).generate list budget (states 0)
    let traced := (withAttempts attempts).generate list budget (Traced.start (states 0))
    (∀ blocks : List (Block list most), blocks.length = count →
      Continues stream 0 (blocks.flatMap Block.indices) →
        ∃ draws, draws = (blocks.flatMap Block.indices).length ∧
          outcome.result = .ok (blocks.map Block.record) ∧ outcome.state = states draws ∧
          traced.state = ⟨states draws, (window stream 0 draws).map Fin.val⟩ ∧
          2 * count ≤ draws ∧ draws ≤ count * (most + 1)) ∧
      ((¬∃ blocks : List (Block list most), blocks.length = count ∧
          Continues stream 0 (blocks.flatMap Block.indices)) →
        ∃ (blocks : List (Block list most)) (rejected : List (Fin list.size)) (draws : Nat),
          blocks.length < count ∧ rejected.length = most ∧
          (∀ index ∈ rejected, 16 ≤ (list.wordAt index).length) ∧
          Continues stream 0 (blocks.flatMap Block.indices ++ rejected) ∧
          draws = (blocks.flatMap Block.indices).length + most ∧
          outcome.result = .error (.error (.noQualifyingWord most)) ∧
          outcome.state = states draws ∧
          traced.state = ⟨states draws, (window stream 0 draws).map Fin.val⟩) := by
  intro count most outcome traced
  have short := WordList.hasShortWord_iff.2 short
  constructor
  · intro blocks enough continues
    obtain ⟨least, greatest⟩ := Block.length_flatMap_indices blocks
    rw [enough] at least greatest
    obtain ⟨handed, noted⟩ := Traced.hands_of_stream streams continues greatest
    have plain : outcome = _ :=
      generate_of_blocks (withAttempts attempts) short blocks enough handed
    have traces : traced = _ :=
      generate_of_blocks (withAttempts attempts) short blocks enough noted
    rw [plain, traces]
    exact ⟨_, rfl, rfl, rfl, rfl, least, greatest⟩
  · intro scarce
    rcases exists_blocks_or_rejected stream most count 0 with
      cut | ⟨blocks, rejected, fewer, all, long, continues⟩
    · exact absurd cut scarce
    · have bound := (Block.length_flatMap_indices blocks).2
      have products := Nat.mul_le_mul_right (most + 1) (Nat.succ_le_of_lt fewer)
      have total : (blocks.flatMap Block.indices ++ rejected).length =
          (blocks.flatMap Block.indices).length + most := by
        rw [List.length_append, all]
      have inside : (blocks.flatMap Block.indices ++ rejected).length ≤ count * (most + 1) := by
        rw [Nat.succ_mul] at products
        omega
      obtain ⟨handed, noted⟩ := Traced.hands_of_stream streams continues inside
      have plain : outcome = _ :=
        generate_of_rejected (withAttempts attempts) short blocks fewer long all handed
      have traces : traced = _ :=
        generate_of_rejected (withAttempts attempts) short blocks fewer long all noted
      have lengths : ∀ index ∈ rejected, 16 ≤ (list.wordAt index).length := fun index member =>
        Nat.le_of_not_lt (of_decide_eq_false (long index member))
      rw [plain, traces]
      exact ⟨blocks, rejected, _, fewer, all, lengths, continues, total, rfl, rfl, rfl⟩

/-- Of two draws for a short word the first is in vain, so that one record takes three draws. -/
theorem generate_of_stream_rejecting :
    let list : WordList := ⟨#[List.replicate 17 97, [99, 97, 116]], by decide⟩
    let stream : Nat → Fin list.size := fun draw =>
      if draw = 1 then ⟨1, by decide⟩ else ⟨0, by decide⟩
    let states : Nat → Replay := fun draw => ⟨#[0, 1, 0], UInt64.ofNat draw⟩
    let outcome := (withAttempts 2).generate list 32 (states 0)
    (∃ word ∈ list.toList, word.length < 16) ∧
      (∀ draw < 3, IndexSource.next list.size (states draw) =
        .ok ((stream draw).val, states (draw + 1))) ∧
      outcome.result = .ok [Record.encode [99, 97, 116] (List.replicate 17 97)] ∧
      outcome.state = states 3 := by
  intro list stream states outcome
  have short : ∃ word ∈ list.toList, word.length < 16 := ⟨[99, 97, 116], by decide, by decide⟩
  have streams : ∀ draw < 3, IndexSource.next list.size (states draw) =
      .ok ((stream draw).val, states (draw + 1)) := by
    intro draw inside
    match draw, inside with
    | 0, _ => rfl
    | 1, _ => rfl
    | 2, _ => rfl
  let block : Block list 2 :=
    ⟨[⟨0, by decide⟩], ⟨1, by decide⟩, ⟨0, by decide⟩, by decide, by decide, by decide⟩
  obtain ⟨draws, three, result, state, _⟩ :=
    (generate_of_stream list 32 2 stream states short streams).1 [block] (by decide) rfl
  refine ⟨short, streams, result, ?_⟩
  rw [three] at state
  exact state

end Generator

end WordPairs
