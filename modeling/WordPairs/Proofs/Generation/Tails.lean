import WordPairs.Proofs.Generation.Limited
import WordPairs.Proofs.Generation.Replaying
import WordPairs.Proofs.Record.Content

/-!
# Tails of words

A record has room for 30 bytes of words beside the separator. A first word is shorter than that, and
a second word is cut to what fits, so that cutting the words of a list to 30 bytes changes nothing:
neither which words are short, nor which record a pair of words makes. What comes behind the first
30 bytes of a word has no influence on anything that can be observed.
-/

namespace WordPairs

/-- Words are short or not by their first 16 bytes. -/
theorem isShort_take {length : Nat} (enough : shortWordLimit ≤ length) (word : Word) :
    isShort (word.take length) = isShort word := by
  rw [isShort, isShort, List.length_take]
  apply decide_eq_decide.2
  omega

/-- A short word is not cut. -/
theorem take_of_isShort {length : Nat} (enough : shortWordLimit ≤ length) {word : Word}
    (short : isShort word) : word.take length = word := by
  have fewer : word.length < shortWordLimit := of_decide_eq_true short
  exact List.take_of_length_le (by omega)

/-- The record of a pair has room for 30 bytes of its second word. -/
theorem Record.encode_take {length : Nat} (enough : 30 ≤ length) (first second : Word) :
    encode first (second.take length) = encode first second := by
  apply eq_of_bytes
  rw [bytes_encode, bytes_encode, joined, joined, List.take_append, List.take_append]
  cases left : contentLimit - first.length with
  | zero => rfl
  | succ room =>
    -- The separator takes the first byte of the room behind the first word.
    have inside : room ≤ length := by
      simp only [contentLimit] at left
      omega
    rw [List.take_succ_cons, List.take_succ_cons, List.take_take, Nat.min_eq_left inside]

namespace WordList

/-- The list of the same words, each cut to so many bytes. -/
def cut (length : Nat) (list : WordList) : WordList where
  words := (list.toList.map (List.take length)).toArray
  nonempty := by
    rw [List.size_toArray, List.length_map]
    exact list.nonempty

variable {length : Nat} {list : WordList}

/-- Cutting the words leaves their number. -/
theorem size_cut : (list.cut length).size = list.size := List.length_map _

/-- The word at an index is cut. -/
theorem word_cut (index : Nat) :
    (list.cut length).word index = (list.word index).map (List.take length) := by
  have found : (list.cut length).get? index = (list.get? index).map (List.take length) := by
    rw [get?, get?, cut, List.getElem?_toArray, List.getElem?_map, toList, Array.getElem?_toList]
  rw [word, word, found, size_cut]
  cases list.get? index <;> rfl

variable {σ : Type} [IndexSource σ]

/-- The word that is drawn is cut. -/
theorem draw_cut (source : σ) :
    (list.cut length).draw source =
      ((list.draw source).1.map (List.take length), (list.draw source).2) := by
  rw [draw, draw, size_cut]
  rcases IndexSource.next list.size source with _ | ⟨index, next⟩
  · rfl
  · simp only [word_cut]

/-- A list has a short word if it has one when its words are cut. -/
theorem hasShortWord_cut (enough : shortWordLimit ≤ length) :
    (list.cut length).hasShortWord = list.hasShortWord := by
  have same : isShort ∘ List.take length = isShort := funext (isShort_take enough)
  rw [hasShortWord, hasShortWord, cut, List.any_toArray, List.any_map, same]
  exact Array.any_toList

/-- The short word that is drawn is not cut. -/
theorem drawShort_cut (enough : shortWordLimit ≤ length) (attempts left : Nat) (source : σ) :
    (list.cut length).drawShort attempts left source = list.drawShort attempts left source := by
  induction left generalizing source with
  | zero => rfl
  | succ left ih =>
    rw [drawShort, drawShort, draw_cut]
    rcases list.draw source with ⟨cause | word, next⟩
    · rfl
    · simp only [Except.map, isShort_take enough]
      by_cases short : isShort word
      · simp only [short, if_true, take_of_isShort enough short]
      · simp only [short]
        exact ih next

end WordList

namespace Generator

variable {σ : Type} [IndexSource σ] {length : Nat} (enough : 30 ≤ length) (generator : Generator)
  (list : WordList)
include enough

/-- The record that is drawn shows what is left of its words. -/
theorem drawRecord_cut (source : σ) :
    generator.drawRecord (list.cut length) source = generator.drawRecord list source := by
  have short : shortWordLimit ≤ length := Nat.le_trans (by decide) enough
  rw [drawRecord, drawRecord, WordList.drawShort_cut short]
  rcases list.drawShort generator.attempts generator.attempts source with ⟨failure | first, next⟩
  · rfl
  · simp only [WordList.draw_cut]
    rcases list.draw next with ⟨cause | second, last⟩
    · rfl
    · simp only [Except.map, Record.encode_take enough]

section Receivers

variable {ω : Type} (receive : Record → ω → Except Failure Unit × ω)

/-- A receiver is handed the same records. -/
theorem drawEach_cut (count : Nat) (source : σ) (receiver : ω) :
    generator.drawEach (list.cut length) receive count source receiver =
      generator.drawEach list receive count source receiver := by
  induction count generalizing source receiver with
  | zero => rfl
  | succ count ih => simp only [drawEach, drawRecord_cut enough, ih]

/-- The list passes the same check, and a receiver is handed the same records. -/
theorem eachRecord_cut (count : UInt64) (source : σ) (receiver : ω) :
    generator.eachRecord (list.cut length) count receive source receiver =
      generator.eachRecord list count receive source receiver := by
  have short : shortWordLimit ≤ length := Nat.le_trans (by decide) enough
  simp only [eachRecord, WordList.check, WordList.hasShortWord_cut short, WordList.size_cut,
    drawEach_cut enough]

end Receivers

/-- Generating from cut words leads to the same outcome. -/
theorem generate_cut (budget : UInt64) (source : σ) :
    generator.generate (list.cut length) budget source =
      generator.generate list budget source := by
  rw [generate_eq_eachRecord, generate_eq_eachRecord, eachRecord_cut enough]

/-- Writing from cut words leads to the same outcome. -/
theorem writeTo_cut {ω : Type} [ByteWriter ω] (budget : UInt64) (source : σ) (writer : ω) :
    generator.writeTo (list.cut length) budget source writer =
      generator.writeTo list budget source writer := by
  rw [writeTo, writeTo, eachRecord_cut enough]

omit enough

/-- The list of the empty word and a word of 30 bytes with the given last byte. -/
def lastByteList (last : UInt8) : WordList :=
  ⟨#[[], List.replicate 29 97 ++ [last]], Nat.zero_lt_succ 1⟩

/-- The last of 30 bytes is shown behind an empty word. -/
theorem generate_lastByteList (last : UInt8) :
    (generator.generate (lastByteList last) 32 (Replay.ofList [0, 1])).result =
      .ok [Record.encode [] (List.replicate 29 97 ++ [last])] := by
  let indices : List (Fin (lastByteList last).size) :=
    [⟨0, Nat.zero_lt_succ 1⟩, ⟨1, Nat.one_lt_two⟩]
  have counted : indices.length < Word64.modulus := show 2 < Word64.modulus by decide
  have handed := Replay.hands_ofList counted
  have short : isShort ((lastByteList last).wordAt ⟨0, Nat.zero_lt_succ 1⟩) := rfl
  exact congrArg Outcome.result (generate_of_pair generator short handed)

/-- No byte behind the first 30 of a word makes a difference. From two lists whose words are the
same when they are cut to 30 bytes, with the same budget, the same number of draws for a short word
and the same source, the same records are returned or the same error, the same bytes are written to
every writer, the source is left in the same state and the same events are told. The 30th byte does
make a difference: there are lists whose words are the same when they are cut to 29 bytes, and a
source from which different records are returned and written. -/
theorem generate_of_same_cut (generator : Generator) :
    (∀ left right : WordList, left.cut 30 = right.cut 30 →
      ∀ (budget : UInt64) {σ : Type} [IndexSource σ] (source : σ),
        generator.generate left budget source = generator.generate right budget source ∧
        ∀ {ω : Type} [ByteWriter ω] (writer : ω),
          generator.writeTo left budget source writer =
            generator.writeTo right budget source writer) ∧
      ∃ (left right : WordList) (source : Replay), left.cut 29 = right.cut 29 ∧
        (generator.generate left 32 source).result ≠
          (generator.generate right 32 source).result ∧
        (generator.writeTo left 32 source Device.unlimited).state.2.data ≠
          (generator.writeTo right 32 source Device.unlimited).state.2.data := by
  constructor
  · intro left right same budget σ _ source
    have enough : 30 ≤ 30 := Nat.le_refl 30
    refine ⟨?_, fun writer => ?_⟩
    · rw [← generate_cut enough, same, generate_cut enough]
    · rw [← writeTo_cut enough, same, writeTo_cut enough]
  · have differ : Record.encode [] (List.replicate 29 97 ++ [98]) ≠
        Record.encode [] (List.replicate 29 97 ++ [99]) := by decide
    have first := generator.generate_lastByteList 98
    have second := generator.generate_lastByteList 99
    refine ⟨lastByteList 98, lastByteList 99, Replay.ofList [0, 1], by decide, ?_, ?_⟩
    · rw [first, second]
      intro same
      exact differ (List.singleton_inj.1 (Except.ok.inj same))
    · intro same
      have bytes := congrArg Array.toList same
      rw [writeTo_unlimited_of_generate _ first, writeTo_unlimited_of_generate _ second,
        Record.concat_singleton, Record.concat_singleton] at bytes
      exact differ (Record.eq_of_bytes bytes)

/-- Words of 31 bytes and more that differ behind their first 30 make the same records behind the
empty word, where they are cut least. -/
theorem generate_of_same_cut_empty :
    let left : WordList := ⟨#[[], List.replicate 31 97, List.replicate 17 98], by decide⟩
    let right : WordList :=
      ⟨#[[], List.replicate 30 97 ++ [0, 44], List.replicate 17 98], by decide⟩
    let source := Replay.ofList [0, 1, 2, 0, 2]
    left.cut 30 = right.cut 30 ∧ left ≠ right ∧
      (standard.generate right 64 source).result =
        .ok [Record.encode [] (List.replicate 30 97), Record.encode [] (List.replicate 17 98)] := by
  intro left right source
  have same : left.cut 30 = right.cut 30 := by decide
  have equal := ((generate_of_same_cut standard).1 left right same 64 source).1
  refine ⟨same, by decide, ?_⟩
  rw [← equal]
  decide +kernel

end Generator

end WordPairs
