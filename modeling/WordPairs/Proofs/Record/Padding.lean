import WordPairs.Proofs.Record.Content

/-!
# Words with zeros

Words may hold zeros, in front of the cut or behind it. The content of their record ends at the
first zero of what is kept of the joined words, and the padding is told from the words only if
nothing but zeros stands behind that zero. Any 32 bytes are a record in the same sense: well padded
if they are their content and zeros, and then known by the content.
-/

namespace WordPairs.Record

/-- Bytes begin with others that have no zero, and end there or go on with a zero. -/
structure UpToZero (bytes front : List UInt8) : Prop where
  /-- There is no zero in front of the first one. -/
  plain : 0 ∉ front
  /-- The bytes end where a zero stands or nothing. -/
  ends : ∃ rest, bytes = front ++ rest ∧ ∀ byte ∈ rest.head?, byte = 0

/-- No byte but a zero stands behind a zero. -/
def ZerosLast (bytes : List UInt8) : Prop :=
  ∀ before after, bytes = before ++ 0 :: after → ∀ byte ∈ after, byte = 0

/-- What stands in front of the first zero and what does not make up the bytes, and the latter
begins with that zero. -/
theorem upToZero_takeWhile (bytes : List UInt8) : UpToZero bytes (bytes.takeWhile (· != 0)) where
  plain := zero_notMem_takeWhile bytes
  ends := by
    refine ⟨bytes.dropWhile (· != 0), List.takeWhile_append_dropWhile.symm, ?_⟩
    intro byte first
    have zero := List.head?_dropWhile_not (· != 0) bytes
    rw [Option.mem_def.1 first] at zero
    simpa using zero

/-- Zeros are last exactly if all bytes from the first zero on are zeros. -/
theorem zerosLast_iff {bytes : List UInt8} :
    ZerosLast bytes ↔ ∀ byte ∈ bytes.dropWhile (· != 0), byte = 0 := by
  constructor
  · intro last byte member
    obtain ⟨rest, parts, first⟩ := (upToZero_takeWhile bytes).ends
    have same : bytes.dropWhile (· != 0) = rest :=
      List.append_cancel_left (List.takeWhile_append_dropWhile.trans parts)
    rw [same] at member
    cases rest with
    | nil => contradiction
    | cons zero after =>
      have zero : zero = 0 := first zero rfl
      rw [zero] at parts member
      rcases List.mem_cons.1 member with here | behind
      · exact here
      · exact last _ after parts byte behind
  · intro zeros before after parts byte member
    apply zeros byte
    have kept : (0 :: after).dropWhile (· != 0) = 0 :: after :=
      List.dropWhile_cons_of_neg (by decide)
    rw [parts, List.dropWhile_append]
    split
    · rw [kept]
      exact List.mem_cons_of_mem 0 member
    · exact List.mem_append_right _ (List.mem_cons_of_mem 0 member)

/-- A record is well padded exactly if its zeros are last. -/
theorem wellPadded_iff_zerosLast (record : Record) :
    record.wellPadded ↔ ZerosLast record.bytes := by
  have rest : record.bytes.drop record.content.length = record.bytes.dropWhile (· != 0) :=
    List.append_cancel_left
      (record.content_append_drop.trans List.takeWhile_append_dropWhile.symm)
  rw [wellPadded, rest, List.all_eq_true, zerosLast_iff]
  exact forall₂_congr fun byte _ => beq_iff_eq

/-- Padding keeps the zeros last, if they were, and does not bring them there. -/
theorem zerosLast_pad {bytes : List UInt8} : ZerosLast (pad bytes) ↔ ZerosLast bytes := by
  have zeros : ∀ byte ∈ List.replicate (size - bytes.length) (0 : UInt8), byte = 0 :=
    fun byte member => List.eq_of_mem_replicate member
  rw [zerosLast_iff, zerosLast_iff, pad, List.dropWhile_append]
  split
  · next none =>
    rw [List.isEmpty_iff.1 none]
    exact iff_of_true (fun byte member => zeros byte (List.dropWhile_subset _ member)) (by simp)
  · rw [List.forall_mem_append]
    exact and_iff_left zeros

/-- Well padded records are the same exactly if their contents are. -/
theorem eq_iff_content_eq {left right : Record} (padded : left.wellPadded ∧ right.wellPadded) :
    left = right ↔ left.content = right.content := by
  constructor
  · exact congrArg content
  · intro same
    apply eq_of_bytes
    rw [(wellPadded_iff left).1 padded.1, (wellPadded_iff right).1 padded.2, same]

/-- The record of two words is what is kept of the joined words, and zeros. Its content is that up
to the first zero, and all of it only if there is none; it is well padded exactly if nothing but
zeros stands behind a zero in it. Any 32 bytes are a record, whose content is the bytes up to the
first zero, and which is well padded exactly if the bytes are the content and zeros. Two well padded
records are the same exactly if their contents are. -/
theorem content_and_padding :
    (∀ first second : Word,
      let kept := (first ++ 44 :: second).take 31
      (encode first second).bytes = kept ++ List.replicate (32 - kept.length) 0 ∧
        UpToZero kept (encode first second).content ∧
        ((encode first second).content = kept ↔ 0 ∉ kept) ∧
        ((encode first second).wellPadded ↔ ZerosLast kept)) ∧
      (∀ bytes : List UInt8, bytes.length = 32 → ∃ record, ofBytes? bytes = some record ∧
        record.bytes = bytes ∧ UpToZero bytes record.content ∧
        (record.wellPadded ↔
          bytes = record.content ++ List.replicate (32 - record.content.length) 0)) ∧
      ∀ left right : Record, left.wellPadded → right.wellPadded →
        (left = right ↔ left.content = right.content) := by
  refine ⟨fun first second => ?_, fun bytes width => ?_, fun left right padded also => ?_⟩
  · intro kept
    have shown : (encode first second).content = kept.takeWhile (· != 0) :=
      content_encode_eq first second
    refine ⟨rfl, ?_, ?_, ?_⟩
    · rw [shown]
      exact upToZero_takeWhile kept
    · rw [shown]
      exact takeWhile_eq_iff
    · rw [wellPadded_iff_zerosLast, bytes_encode]
      exact zerosLast_pad
  · exact ⟨⟨bytes, width⟩, dif_pos width, rfl, upToZero_takeWhile bytes, wellPadded_iff _⟩
  · exact eq_iff_content_eq ⟨padded, also⟩

/-- A zero in the last place that is kept leaves a well padded record, the same as the one of the
30 bytes in front of it. A zero in front of the separator does not, as the separator is no zero. -/
theorem content_and_padding_at_cut :
    let kept := List.replicate 29 97 ++ [44, 0]
    let record := encode (List.replicate 29 97) [0, 98]
    record.bytes = kept ++ [0] ∧ record.content ≠ kept ∧ record.wellPadded ∧
      ¬(encode [97, 0] [98]).wellPadded ∧
      ofBytes? (kept ++ [0]) = some record ∧
      record = ⟨pad (List.replicate 29 97 ++ [44]), rfl⟩ := by
  intro kept record
  obtain ⟨pairs, every, known⟩ := content_and_padding
  obtain ⟨bytes, _, whole, padded⟩ := pairs (List.replicate 29 97) [0, 98]
  obtain ⟨_, _, _, spoilt⟩ := pairs [97, 0] [98]
  obtain ⟨same, made, shown, _, _⟩ := every (kept ++ [0]) rfl
  have zeros : kept.dropWhile (· != 0) = [0] := by decide
  have last : record.wellPadded := by
    refine padded.2 (zerosLast_iff.2 fun byte member => ?_)
    exact List.mem_singleton.1 (zeros ▸ member)
  have straight : ¬ZerosLast [97, 0, 44, 98] := fun zeros =>
    absurd (zerosLast_iff.1 zeros 44 (by decide)) (by decide)
  have record_eq : same = record := eq_of_bytes (shown.trans bytes.symm)
  rw [record_eq] at made
  exact ⟨bytes, fun all => absurd (whole.1 all) (by decide), last,
    fun also => straight (spoilt.1 also), made, (known record _ last (by decide)).2 (by decide)⟩

end WordPairs.Record
