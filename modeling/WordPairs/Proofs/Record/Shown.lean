import WordPairs.Proofs.Record.Content
import WordPairs.Proofs.Text.Cut
import WordPairs.Record.Text

/-!
# Texts shown by a record

A record of two words that are texts shows the longest front of the joined text that fits, in whole
characters. If the cut is in a character, one mark stands for what is left of that character.
-/

namespace WordPairs.Record

/-- Texts joined by a comma are joined in their bytes. -/
theorem joined_encode (first second : List Char) :
    joined (Text.encode first) (Text.encode second) = Text.encode (first ++ ',' :: second) :=
  (Text.encode_append first (',' :: second)).symm

/-- The record of two texts reads as what is kept of the bytes of the joined text. -/
theorem text_encode {first second : List Char} (plain : '\x00' ∉ first ∧ '\x00' ∉ second) :
    (encode (Text.encode first) (Text.encode second)).text =
      Text.decode ((Text.encode (first ++ ',' :: second)).take contentLimit) := by
  have whole : '\x00' ∉ first ++ ',' :: second := by
    simp only [List.mem_append, List.mem_cons, not_or]
    exact ⟨plain.1, by decide, plain.2⟩
  have kept : 0 ∉ (Text.encode (first ++ ',' :: second)).take contentLimit := fun zero =>
    Text.zero_notMem_encode whole (List.mem_of_mem_take zero)
  rw [text, content_encode_eq, joined_encode, takeWhile_eq_iff.2 kept]

/-- The record of two texts without the character zero quotes the longest front of the joined text
that has at most 31 bytes. One mark follows it if the cut is in a character, and nothing follows it
otherwise. -/
theorem text_encode_longest {first second : List Char}
    (plain : '\x00' ∉ first ∧ '\x00' ∉ second) :
    ∃ kept, Text.LongestFront 31 (first ++ ',' :: second) kept ∧
      let record := encode (Text.encode first) (Text.encode second)
      (Text.CutsCharacter 31 (first ++ ',' :: second) → record.text = kept ++ ['\uFFFD']) ∧
      (¬Text.CutsCharacter 31 (first ++ ',' :: second) → record.text = kept) ∧
      record.debugText = "Record(" ++ Text.quote record.text ++ ")" := by
  have shown : (encode (Text.encode first) (Text.encode second)).text =
      Text.decode ((Text.encode (first ++ ',' :: second)).take 31) := text_encode plain
  obtain ⟨kept, longest, cut, uncut⟩ := Text.decode_take_encode 31 (first ++ ',' :: second)
  rw [← shown] at cut uncut
  exact ⟨kept, longest, cut, uncut, rfl⟩

/-- A mark stands for the first byte of three, which is the last one that fits. If that byte does
not fit either, there is no mark. -/
theorem text_encode_longest_at_cut :
    (encode (Text.encode (List.replicate 29 'a')) (Text.encode ['€', 'b'])).text =
        List.replicate 29 'a' ++ [',', '\uFFFD'] ∧
      (encode (Text.encode (List.replicate 30 'a')) (Text.encode ['€', 'b'])).text =
        List.replicate 30 'a' ++ [','] := by
  have inside : Text.AtCut 31 (List.replicate 29 'a' ++ [',']) '€' := ⟨by decide, by decide⟩
  have between : Text.AtCut 31 (List.replicate 30 'a' ++ [',']) '€' := ⟨by decide, by decide⟩
  constructor
  · obtain ⟨kept, longest, cut, _⟩ := text_encode_longest
      (show '\x00' ∉ List.replicate 29 'a' ∧ '\x00' ∉ ['€', 'b'] by decide)
    rw [cut (inside.cutsCharacter_iff.2 (by decide)), longest.unique (inside.longestFront ['b'])]
    rfl
  · obtain ⟨kept, longest, _, uncut, _⟩ := text_encode_longest
      (show '\x00' ∉ List.replicate 30 'a' ∧ '\x00' ∉ ['€', 'b'] by decide)
    rw [uncut (fun cut => absurd (between.cutsCharacter_iff.1 cut) (by decide)),
      longest.unique (between.longestFront ['b'])]

end WordPairs.Record
