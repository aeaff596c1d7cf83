import WordPairs.Proofs.Text.Utf8

/-!
# Texts cut in their bytes

The bytes of a text are cut at a limit that knows nothing of characters. Either all of them fit, or
there is one character at the cut: it ends behind the limit, and the characters in front of it are
the longest front of the text that is whole. These read as themselves. The one at the cut reads as
a mark if any of its bytes is kept, and as nothing if it begins right at the limit.
-/

namespace WordPairs.Text

/-- The longest front of a text whose bytes are within a limit. -/
structure LongestFront (limit : Nat) (text kept : List Char) : Prop where
  /-- The text begins with it. -/
  front : kept <+: text
  /-- Its bytes are within the limit. -/
  fits : (encode kept).length ≤ limit
  /-- Whatever else the text begins with is in it, or is not within the limit. -/
  longest : ∀ other, other <+: text → (encode other).length ≤ limit → other <+: kept

/-- Some character of the text begins in front of the limit and ends behind it. -/
def CutsCharacter (limit : Nat) (text : List Char) : Prop :=
  ∃ front char rest, text = front ++ char :: rest ∧
    (encode front).length < limit ∧ limit < (encode (front ++ [char])).length

/-- A character that ends behind the limit, after a front that is within it. -/
structure AtCut (limit : Nat) (front : List Char) (char : Char) : Prop where
  /-- The character does not begin behind the limit. -/
  before : (encode front).length ≤ limit
  /-- The character ends behind the limit. -/
  behind : limit < (encode (front ++ [char])).length

variable {limit : Nat} {front rest text : List Char} {char : Char}

/-- There is one longest front. -/
theorem LongestFront.unique {kept other : List Char} (one : LongestFront limit text kept)
    (also : LongestFront limit text other) : kept = other :=
  have inside : kept <+: other := also.longest kept one.front one.fits
  inside.eq_of_length_le (one.longest other also.front also.fits).length_le

/-- The bytes of a text begin with those of its front. -/
theorem length_encode_le (prefixed : front <+: text) :
    (encode front).length ≤ (encode text).length := by
  obtain ⟨rest, rfl⟩ := prefixed
  rw [encode_append, List.length_append]
  exact Nat.le_add_right _ _

/-- A text begins with each of its characters and what is in front of it. -/
theorem isPrefix_concat (front : List Char) (char : Char) (rest : List Char) :
    front ++ [char] <+: front ++ char :: rest :=
  (List.prefix_append_right_inj front).2 ⟨rest, rfl⟩

/-- A text that is too long has a character at the cut. -/
theorem exists_atCut (long : limit < (encode text).length) :
    ∃ front char rest, text = front ++ char :: rest ∧ AtCut limit front char := by
  induction text generalizing limit with
  | nil => exact absurd long (Nat.not_lt_zero limit)
  | cons first text ih =>
    have whole (further : List Char) : (encode (first :: further)).length =
        (String.utf8EncodeChar first).length + (encode further).length := List.length_append
    rcases Nat.lt_or_ge limit (String.utf8EncodeChar first).length with beyond | room
    · rw [← encode_singleton] at beyond
      exact ⟨[], first, text, rfl, Nat.zero_le limit, beyond⟩
    · rw [whole] at long
      obtain ⟨front, char, rest, rfl, cut⟩ := ih (Nat.sub_lt_left_of_lt_add room long)
      have before := cut.before
      have behind := cut.behind
      refine ⟨first :: front, char, rest, rfl, ?_, ?_⟩
      · rw [whole]
        omega
      · rw [List.cons_append, whole]
        omega

/-- What the text begins with within the limit is in front of a character that ends behind it. -/
theorem prefix_of_fits {other : List Char} (behind : limit < (encode (front ++ [char])).length)
    (prefixed : other <+: front ++ char :: rest) (fits : (encode other).length ≤ limit) :
    other <+: front := by
  rcases List.prefix_or_prefix_of_prefix prefixed (isPrefix_concat front char rest) with
    inside | beyond
  · rcases List.prefix_concat_iff.1 inside with rfl | shorter
    · omega
    · exact shorter
  · have longer := length_encode_le beyond
    omega

/-- The characters in front of the one at the cut are the longest front. -/
theorem AtCut.longestFront (cut : AtCut limit front char) (rest : List Char) :
    LongestFront limit (front ++ char :: rest) front where
  front := List.prefix_append _ _
  fits := cut.before
  longest _ prefixed fits := prefix_of_fits cut.behind prefixed fits

/-- The character at the cut is cut if it begins in front of the limit, and no other one is. -/
theorem AtCut.cutsCharacter_iff (cut : AtCut limit front char) :
    CutsCharacter limit (front ++ char :: rest) ↔ (encode front).length < limit := by
  constructor
  · rintro ⟨other, last, others, same, start, stop⟩
    have inside : front <+: other :=
      prefix_of_fits stop (same ▸ List.prefix_append front _) cut.before
    exact Nat.lt_of_le_of_lt (length_encode_le inside) start
  · exact fun start => ⟨front, char, rest, rfl, start, cut.behind⟩

/-- Not all bytes of the character at the cut are kept. -/
theorem AtCut.sub_lt (cut : AtCut limit front char) :
    limit - (encode front).length < (String.utf8EncodeChar char).length := by
  have before := cut.before
  have behind := cut.behind
  rw [encode_append, encode_singleton, List.length_append] at behind
  omega

/-- What is kept of a text is the front and some bytes of the character at the cut. -/
theorem AtCut.take_encode (cut : AtCut limit front char) :
    (encode (front ++ char :: rest)).take limit =
      encode front ++ (String.utf8EncodeChar char).take (limit - (encode front).length) := by
  have bytes : encode (front ++ char :: rest) =
      encode front ++ (String.utf8EncodeChar char ++ encode rest) := encode_append ..
  rw [bytes, List.take_append, List.take_of_length_le cut.before,
    List.take_append_of_le_length (Nat.le_of_lt cut.sub_lt)]

/-- The kept bytes of a text read as its longest front, and a mark if the cut is in a character. -/
theorem decode_take_encode (limit : Nat) (text : List Char) :
    ∃ kept, LongestFront limit text kept ∧
      (CutsCharacter limit text → decode ((encode text).take limit) = kept ++ [replacement]) ∧
      (¬CutsCharacter limit text → decode ((encode text).take limit) = kept) := by
  rcases Nat.lt_or_ge limit (encode text).length with long | short
  · obtain ⟨front, char, rest, rfl, cut⟩ := exists_atCut long
    rw [cut.cutsCharacter_iff, cut.take_encode, decode_encode_append]
    refine ⟨front, cut.longestFront rest, fun inside => ?_, fun between => ?_⟩
    · rw [decode_take_utf8EncodeChar ⟨Nat.sub_pos_of_lt inside, cut.sub_lt⟩]
    · rw [Nat.sub_eq_zero_of_le (Nat.not_lt.1 between), List.take_zero, decode, List.append_nil]
  · refine ⟨text, ⟨List.prefix_rfl, short, fun _ prefixed _ => prefixed⟩, ?_, fun _ => ?_⟩
    · rintro ⟨front, char, rest, rfl, _, behind⟩
      have longer := length_encode_le (isPrefix_concat front char rest)
      omega
    · have all := decode_encode_append text []
      rw [List.append_nil] at all
      rw [List.take_of_length_le short, all, decode, List.append_nil]

end WordPairs.Text
