import WordPairs.Proofs.Record.Content

/-!
# Cutting a record back into its words

The content of a record is cut at its first separator. Words without a zero, of which the first has
no separator and leaves room for one, are what their record is cut into, the second up to where the
record ends. A well padded record that ends in a zero is the record of what it is cut into.
-/

namespace WordPairs.Record

/-- What stands in front of the first separator and what stands behind it. -/
def split? : List UInt8 → Option (Word × Word)
  | [] => none
  | byte :: rest =>
    if byte = separator then some ([], rest)
    else (split? rest).map fun (first, second) => (byte :: first, second)

/-- Two words that their record shows apart. -/
structure Separable (first second : Word) : Prop where
  /-- The content does not end in the first word. -/
  plain_first : 0 ∉ first
  /-- The content does not end in the second word. -/
  plain_second : 0 ∉ second
  /-- No separator stands in front of the one between the words. -/
  unseparated : separator ∉ first
  /-- The separator fits into the record. -/
  room : first.length ≤ 30

/-- Joined words are cut into these words, if the first has no separator. -/
theorem split?_joined {first : Word} (unseparated : separator ∉ first) (second : Word) :
    split? (joined first second) = some (first, second) := by
  induction first with
  | nil => exact if_pos rfl
  | cons byte first ih =>
    obtain ⟨other, rest⟩ := not_or.1 (mt List.mem_cons.2 unseparated)
    have tail : split? (joined first second) = some (first, second) := ih rest
    have head : split? (byte :: joined first second) =
        (split? (joined first second)).map fun (front, back) => (byte :: front, back) :=
      if_neg (Ne.symm other)
    rw [tail] at head
    exact head

/-- What bytes are cut into is joined to these bytes, and the first word has no separator. -/
theorem joined_of_split? {bytes : List UInt8} {first second : Word}
    (cut : split? bytes = some (first, second)) :
    bytes = joined first second ∧ separator ∉ first := by
  induction bytes generalizing first with
  | nil => cases cut
  | cons byte rest ih =>
    by_cases here : byte = separator
    · rw [split?, if_pos here] at cut
      cases cut
      exact ⟨congrArg (· :: second) here, List.not_mem_nil⟩
    · rw [split?, if_neg here, Option.map_eq_some_iff] at cut
      obtain ⟨⟨front, back⟩, found, same⟩ := cut
      cases same
      obtain ⟨whole, unseparated⟩ := ih found
      have absent : separator ∉ byte :: front :=
        List.not_mem_cons_of_ne_of_not_mem (Ne.symm here) unseparated
      exact ⟨congrArg (byte :: ·) whole, absent⟩

/-- Bytes with a separator are cut. -/
theorem exists_split? {bytes : List UInt8} (separated : separator ∈ bytes) :
    ∃ first second, split? bytes = some (first, second) := by
  obtain ⟨first, second, rfl, unseparated⟩ := List.eq_append_cons_of_mem separated
  exact ⟨first, second, split?_joined unseparated second⟩

/-- The content of a record has no zero. -/
theorem zero_notMem_content (record : Record) : 0 ∉ record.content :=
  zero_notMem_takeWhile record.bytes

/-- A record that ends in a zero has at most 31 bytes of content. -/
theorem length_content_le {record : Record} (last : record.bytes[31]? = some 0) :
    record.content.length ≤ contentLimit := by
  by_contra long
  have inside : 31 < record.content.length := Nat.lt_of_not_le long
  have same : record.content[31]? = record.bytes[31]? := by
    rw [← record.content_append_drop, List.getElem?_append_left inside]
  have member : 0 ∈ record.content := List.mem_of_getElem? (same.trans last)
  exact record.zero_notMem_content member

/-- The record of separable words is cut into the first word and what fits of the second. -/
theorem split?_encode {first second : Word} (separable : Separable first second) :
    split? (encode first second).content = some (first, second.take (30 - first.length)) := by
  have room : first.length < contentLimit := Nat.lt_succ_of_le separable.room
  have shown := (content_encode room ⟨separable.plain_first, separable.plain_second⟩).1
  rw [shown]
  exact split?_joined separable.unseparated _

/-- Separable words have one record exactly if the first words are the same and as much of the
second words as fits. -/
theorem encode_eq_iff {first second other last : Word} (left : Separable first second)
    (right : Separable other last) :
    encode first second = encode other last ↔
      first = other ∧ second.take (30 - first.length) = last.take (30 - other.length) := by
  constructor
  · intro same
    have cut := split?_encode left
    rw [same, split?_encode right, Option.some.injEq, Prod.mk.injEq] at cut
    exact ⟨cut.1.symm, cut.2.symm⟩
  · rintro ⟨rfl, kept⟩
    have room : first.length < contentLimit := Nat.lt_succ_of_le left.room
    apply eq_of_bytes
    rw [bytes_encode, bytes_encode, take_joined room, take_joined room]
    exact congrArg (fun rest => pad (first ++ separator :: rest)) kept

/-- A well padded record that ends in a zero is the record of what its content is cut into. -/
theorem encode_of_split? {record : Record} {first second : Word} (padded : record.wellPadded)
    (last : record.bytes[31]? = some 0) (cut : split? record.content = some (first, second)) :
    encode first second = record := by
  have whole : record.content = joined first second := (joined_of_split? cut).1
  have short : (joined first second).length ≤ contentLimit := whole ▸ length_content_le last
  apply eq_of_bytes
  rw [bytes_encode, List.take_of_length_le short, ← whole]
  exact ((wellPadded_iff record).1 padded).symm

/-- Encoding a pair of words and cutting the content at its first separator are inverse: separable
words come back, the second as far as it fits, so that their record is known by what it is cut
into, and every well padded record with a separator that ends in a zero is the record of what it is
cut into. -/
theorem encode_split_inverse :
    (∀ first second, Separable first second →
      split? (encode first second).content = some (first, second.take (30 - first.length))) ∧
    (∀ first second other last, Separable first second → Separable other last →
      (encode first second = encode other last ↔
        first = other ∧ second.take (30 - first.length) = last.take (30 - other.length))) ∧
    (∀ record : Record, record.wellPadded → record.bytes[31]? = some 0 →
      separator ∈ record.content →
      ∃ first second, split? record.content = some (first, second) ∧
        encode first second = record) := by
  refine ⟨fun _ _ separable => split?_encode separable,
    fun _ _ _ _ left right => encode_eq_iff left right, ?_⟩
  intro record padded last separated
  obtain ⟨first, second, cut⟩ := exists_split? separated
  exact ⟨first, second, cut, encode_of_split? padded last cut⟩

/-- A first word of 29 bytes leaves room for one byte of the second, so that two second words with
the same first byte have one record; of a content with two separators the first one cuts. -/
theorem encode_split_inverse_cut :
    split? (encode (List.replicate 29 97) [98, 99]).content =
        some (List.replicate 29 97, [98]) ∧
      encode (List.replicate 29 97) [98, 99] = encode (List.replicate 29 97) [98, 44, 100] ∧
      ∃ first second, split? (Record.content ⟨pad [99, 44, 44, 100], rfl⟩) = some (first, second) ∧
        encode first second = ⟨pad [99, 44, 44, 100], rfl⟩ := by
  have left : Separable (List.replicate 29 97) [98, 99] :=
    ⟨by decide, by decide, by decide, by decide⟩
  have right : Separable (List.replicate 29 97) [98, 44, 100] :=
    ⟨by decide, by decide, by decide, by decide⟩
  obtain ⟨splits, same, rebuilt⟩ := encode_split_inverse
  exact ⟨splits _ _ left, (same _ _ _ _ left right).2 ⟨rfl, by decide⟩,
    rebuilt _ (by decide) (by decide) (by decide)⟩

end WordPairs.Record
