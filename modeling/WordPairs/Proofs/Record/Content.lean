import Mathlib.Data.List.TakeWhile
import WordPairs.Record.Basic

/-!
# The content of a record

A record is well padded exactly if it is its content and the padding of it, so that a well padded
record is known by its content. Of two words without a zero the content holds as much as fits in
front of the last byte, which is padding.
-/

namespace WordPairs.Record

/-- Records with the same bytes are the same. -/
theorem eq_of_bytes {left right : Record} (same : left.bytes = right.bytes) : left = right := by
  cases left
  cases right
  cases same
  rfl

/-- Bytes are all in front of the first zero exactly if there is none. -/
theorem takeWhile_eq_iff {bytes : List UInt8} : bytes.takeWhile (· != 0) = bytes ↔ 0 ∉ bytes := by
  rw [List.takeWhile_eq_self_iff]
  constructor
  · intro kept member
    exact absurd (kept 0 member) (by decide)
  · intro plain byte member
    exact bne_iff_ne.2 fun zero => plain (zero ▸ member)

/-- There is no zero in front of the first one. -/
theorem zero_notMem_takeWhile (bytes : List UInt8) : 0 ∉ bytes.takeWhile (· != 0) := by
  intro member
  have nonzero := List.mem_takeWhile_imp member
  exact absurd nonzero (by decide)

/-- Padding adds nothing in front of the first zero. -/
theorem takeWhile_pad (bytes : List UInt8) :
    (pad bytes).takeWhile (· != 0) = bytes.takeWhile (· != 0) := by
  have padding : (List.replicate (size - bytes.length) (0 : UInt8)).takeWhile (· != 0) = [] := by
    rw [List.takeWhile_replicate]
    rfl
  rw [pad, List.takeWhile_append, padding, List.append_nil]
  split
  · next all => exact ((List.takeWhile_prefix _).eq_of_length all).symm
  · rfl

/-- The content of a pair is what is kept of the joined words, up to its first zero. -/
theorem content_encode_eq (first second : Word) : (encode first second).content =
    ((joined first second).take contentLimit).takeWhile (· != 0) := by
  rw [content, bytes_encode, takeWhile_pad]

/-- A record begins with its content, and what follows is what its padding is looked for in. -/
theorem content_append_drop (record : Record) :
    record.content ++ record.bytes.drop record.content.length = record.bytes := by
  have front : record.content = record.bytes.take record.content.length :=
    List.prefix_iff_eq_take.1 (List.takeWhile_prefix _)
  have whole := List.take_append_drop record.content.length record.bytes
  rwa [← front] at whole

/-- A record is well padded exactly if it is its content, padded. -/
theorem wellPadded_iff (record : Record) :
    record.wellPadded ↔ record.bytes = pad record.content := by
  have whole := record.content_append_drop
  have rest : (record.bytes.drop record.content.length).length = size - record.content.length := by
    rw [List.length_drop, record.length_bytes]
    rfl
  constructor
  · intro padded
    have zeros : record.bytes.drop record.content.length =
        List.replicate (size - record.content.length) 0 := by
      refine List.eq_replicate_iff.2 ⟨rest, fun byte member => ?_⟩
      exact beq_iff_eq.1 (List.all_eq_true.1 padded byte member)
    rw [pad, ← zeros, whole]
  · intro same
    have zeros := List.append_cancel_left (whole.trans same)
    rw [wellPadded, zeros, List.all_eq_true]
    intro byte member
    exact beq_iff_eq.2 (List.eq_of_mem_replicate member)

/-- A record that is padded bytes without a zero has these as its content and is well padded. -/
theorem content_of_pad {record : Record} {content : List UInt8} (plain : 0 ∉ content)
    (padded : record.bytes = pad content) : record.content = content ∧ record.wellPadded := by
  have same : record.content = content := by
    rw [Record.content, padded, takeWhile_pad, takeWhile_eq_iff.2 plain]
  exact ⟨same, (wellPadded_iff record).2 (same.symm ▸ padded)⟩

/-- The first word of a pair that leaves room for the separator is kept, and of the second word what
fits behind it. -/
theorem take_joined {first : Word} (room : first.length < contentLimit) (second : Word) :
    (joined first second).take contentLimit =
      first ++ separator :: second.take (contentLimit - 1 - first.length) := by
  have left : contentLimit - first.length = contentLimit - 1 - first.length + 1 := by
    simp only [contentLimit] at room ⊢
    omega
  rw [joined, List.take_append, List.take_of_length_le (Nat.le_of_lt room), left,
    List.take_succ_cons]

/-- The content of a pair of words without a zero, when the first leaves room for the separator. -/
theorem content_encode {first second : Word} (room : first.length < contentLimit)
    (plain : 0 ∉ first ∧ 0 ∉ second) :
    (encode first second).content =
        first ++ separator :: second.take (contentLimit - 1 - first.length) ∧
      (encode first second).wellPadded := by
  apply content_of_pad
  · have kept : 0 ∉ second.take (contentLimit - 1 - first.length) := fun member =>
      plain.2 (List.mem_of_mem_take member)
    simp only [List.mem_append, List.mem_cons, not_or]
    exact ⟨plain.1, by decide, kept⟩
  · rw [bytes_encode, take_joined room]

/-- A well padded record is the pair of words that its content shows. -/
theorem eq_encode {record : Record} {first second : Word} (padded : record.wellPadded)
    (room : first.length < contentLimit)
    (shown : record.content = first ++ separator :: second.take (contentLimit - 1 - first.length)) :
    record = encode first second := by
  apply eq_of_bytes
  rw [(wellPadded_iff record).1 padded, shown, bytes_encode, take_joined room]

/-- The last byte of a pair is padding. -/
theorem last_encode (first second : Word) : (encode first second).bytes[31]? = some 0 := by
  have cut : ((joined first second).take contentLimit).length ≤ 31 := List.length_take_le _ _
  have inside : 31 - ((joined first second).take contentLimit).length <
      size - ((joined first second).take contentLimit).length := by
    simp only [size]
    omega
  rw [bytes_encode, pad, List.getElem?_append_right cut, List.getElem?_replicate, if_pos inside]

end WordPairs.Record
