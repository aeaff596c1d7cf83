import WordPairs.Text.Utf8

/-!
# Texts read from their bytes

A character beyond ASCII is a first byte, which tells how many trailing bytes follow and bounds the
first of them, and six bits in each of these. So the bytes of a text read as the text, whatever
stands behind them, and a character that is cut off anywhere between its bytes reads as one
replacement mark, since what is left of it is one part that begins a character. Only the character
zero has a zero among its bytes.
-/

namespace WordPairs.Text

/-- Trailing bytes, the first of them within the given bounds. -/
def Trailing (low high : UInt8) : List UInt8 → Prop
  | [] => True
  | byte :: rest => (low ≤ byte ∧ byte ≤ high) ∧ Trailing 0x80 0xBF rest

/-- The front of trailing bytes is trailing. -/
theorem Trailing.take {low high : UInt8} {run : List UInt8} (trailing : Trailing low high run)
    (count : Nat) : Trailing low high (run.take count) := by
  induction run generalizing low high count with
  | nil =>
    rw [List.take_nil]
    trivial
  | cons byte run ih =>
    cases count with
    | zero => trivial
    | succ count => exact ⟨trailing.1, ih trailing.2 count⟩

/-- Trailing bytes are taken up to the number that is asked for, or until there are no more
bytes. -/
theorem trail_append {low high : UInt8} {run : List UInt8} {count : Nat}
    (trailing : Trailing low high run) {rest : List UInt8}
    (ends : run.length = count ∨ run.length ≤ count ∧ rest = []) :
    trail count low high (run ++ rest) = run := by
  induction run generalizing low high count with
  | nil =>
    rcases ends with rfl | ⟨_, rfl⟩
    · cases rest <;> rfl
    · cases count <;> rfl
  | cons byte run ih =>
    cases count with
    | zero => simp at ends
    | succ count =>
      have inside : (low ≤ byte && byte ≤ high) = true := by simpa using trailing.1
      have further : run.length = count ∨ run.length ≤ count ∧ rest = [] := by simpa using ends
      rw [List.cons_append, trail]
      simp only [inside, if_true, ih trailing.2 further]

/-- The trailing byte of the six lowest bits of a number. -/
def trailByte (value : Nat) : UInt8 := UInt8.ofNat (value % 64 + 0x80)

theorem toNat_trailByte (value : Nat) : (trailByte value).toNat = value % 64 + 128 := by
  rw [trailByte, UInt8.toNat_ofNat']
  omega

/-- A trailing byte gives its six bits back. -/
theorem toNat_trailByte_and (value : Nat) : (trailByte value &&& 0x3F).toNat = value % 64 := by
  rw [UInt8.toNat_and, toNat_trailByte]
  show (value % 64 + 128) &&& (2 ^ 6 - 1) = _
  rw [Nat.and_two_pow_sub_one_eq_mod]
  omega

/-- Trailing bytes give the numbers of six bits back that they are made of. -/
theorem foldl_trailByte (values : List Nat) (bits : Nat) :
    (values.map trailByte).foldl (fun point byte => point * 64 + (byte &&& 0x3F).toNat) bits =
      values.foldl (fun point value => point * 64 + value % 64) bits := by
  simp only [List.foldl_map, toNat_trailByte_and]

/-- Of several trailing bytes only the first has bounds of its own. -/
theorem trailing_map {low high : UInt8} {first : Nat} {others : List Nat}
    (bounds : low.toNat ≤ first % 64 + 128 ∧ first % 64 + 128 ≤ high.toNat) :
    Trailing low high ((first :: others).map trailByte) := by
  induction others generalizing first low high with
  | nil =>
    refine ⟨?_, trivial⟩
    rwa [UInt8.le_iff_toNat_le, UInt8.le_iff_toNat_le, toNat_trailByte]
  | cons second others ih =>
    have further : 128 ≤ second % 64 + 128 ∧ second % 64 + 128 ≤ 191 := by omega
    refine ⟨?_, ih further⟩
    rwa [UInt8.le_iff_toNat_le, UInt8.le_iff_toNat_le, toNat_trailByte]

/-- A byte from C2 on that is less than E0 begins a character of two bytes. -/
theorem Lead.ofByte?_two {byte : UInt8} (range : 0xC2 ≤ byte.toNat ∧ byte.toNat < 0xE0) :
    Lead.ofByte? byte = some ⟨byte.toNat % 32, 1, 0x80, 0xBF⟩ := by
  have bits : (byte &&& 0x1F).toNat = byte.toNat % 32 :=
    (UInt8.toNat_and ..).trans (Nat.and_two_pow_sub_one_eq_mod _ 5)
  have kind : ¬byte < 0xC2 ∧ byte < 0xE0 := by
    simp only [UInt8.lt_iff_toNat_lt, UInt8.reduceToNat]
    omega
  rw [Lead.ofByte?, if_neg kind.1, if_pos kind.2, bits]

/-- A byte from E0 on that is less than F0 begins a character of three bytes. -/
theorem Lead.ofByte?_three {byte : UInt8} (range : 0xE0 ≤ byte.toNat ∧ byte.toNat < 0xF0) :
    Lead.ofByte? byte = some ⟨byte.toNat % 16, 2, if byte = 0xE0 then 0xA0 else 0x80,
      if byte = 0xED then 0x9F else 0xBF⟩ := by
  have bits : (byte &&& 0x0F).toNat = byte.toNat % 16 :=
    (UInt8.toNat_and ..).trans (Nat.and_two_pow_sub_one_eq_mod _ 4)
  have kind : ¬byte < 0xC2 ∧ ¬byte < 0xE0 ∧ byte < 0xF0 := by
    simp only [UInt8.lt_iff_toNat_lt, UInt8.reduceToNat]
    omega
  rw [Lead.ofByte?, if_neg kind.1, if_neg kind.2.1, if_pos kind.2.2, bits]

/-- A byte from F0 on that is less than F5 begins a character of four bytes. -/
theorem Lead.ofByte?_four {byte : UInt8} (range : 0xF0 ≤ byte.toNat ∧ byte.toNat < 0xF5) :
    Lead.ofByte? byte = some ⟨byte.toNat % 8, 3, if byte = 0xF0 then 0x90 else 0x80,
      if byte = 0xF4 then 0x8F else 0xBF⟩ := by
  have bits : (byte &&& 0x07).toNat = byte.toNat % 8 :=
    (UInt8.toNat_and ..).trans (Nat.and_two_pow_sub_one_eq_mod _ 3)
  have kind : ¬byte < 0xC2 ∧ ¬byte < 0xE0 ∧ ¬byte < 0xF0 ∧ byte < 0xF5 := by
    simp only [UInt8.lt_iff_toNat_lt, UInt8.reduceToNat]
    omega
  rw [Lead.ofByte?, if_neg kind.1, if_neg kind.2.1, if_neg kind.2.2.1, if_pos kind.2.2.2, bits]

/-- A byte that begins a character of several bytes is no character of one byte. -/
theorem Lead.wide_of_ofByte? {byte : UInt8} {lead : Lead} (leads : Lead.ofByte? byte = some lead) :
    ¬byte < 0x80 := by
  intro narrow
  have low : byte < 0xC2 := UInt8.lt_trans narrow (by decide)
  rw [Lead.ofByte?, if_pos low] at leads
  contradiction

/-- A character of several bytes: a first byte, and a trailing byte for each of the values. -/
structure Spells (char : Char) (byte : UInt8) (lead : Lead) (values : List Nat) : Prop where
  /-- These are its bytes. -/
  bytes : String.utf8EncodeChar char = byte :: values.map trailByte
  /-- The first one begins a character of several bytes. -/
  leads : Lead.ofByte? byte = some lead
  /-- The others are within the bounds that it sets. -/
  trailing : Trailing lead.low lead.high (values.map trailByte)
  /-- There are as many of them as it asks for. -/
  length : values.length = lead.trailing
  /-- Together they make up the code point. -/
  value : values.foldl (fun point value => point * 64 + value % 64) lead.bits = char.toNat

/-- A character of two bytes. Its first byte is not less than C2, as one byte would not do. -/
theorem spells_two {char : Char} (range : 0x80 ≤ char.toNat ∧ char.toNat < 0x800) :
    ∃ byte lead values, Spells char byte lead values := by
  let byte := UInt8.ofNat (char.toNat / 64 % 32 + 192)
  have first : byte.toNat = char.toNat / 64 + 192 := by
    rw [UInt8.toNat_ofNat']
    omega
  have kind : 0xC2 ≤ byte.toNat ∧ byte.toNat < 0xE0 := by omega
  refine ⟨byte, _, [char.toNat], ?bytes, Lead.ofByte?_two kind, trailing_map ?bounds, rfl, ?value⟩
  case bytes =>
    rw [String.utf8EncodeChar, if_neg, if_pos]
    · rfl
    · exact Nat.le_of_lt_succ range.2
    · exact Nat.not_le.2 range.1
  case bounds =>
    simp only [UInt8.reduceToNat]
    omega
  case value =>
    simp only [List.foldl_cons, List.foldl_nil, first]
    omega

/-- A character of three bytes. After E0 the second byte is not so low that two would do, and after
ED it is not so high that the code point would be a surrogate. -/
theorem spells_three {char : Char} (range : 0x800 ≤ char.toNat ∧ char.toNat < 0x10000) :
    ∃ byte lead values, Spells char byte lead values := by
  have valid : char.toNat < 0xD800 ∨ 0xDFFF < char.toNat ∧ char.toNat < 0x110000 := char.valid
  let byte := UInt8.ofNat (char.toNat / 4096 % 16 + 224)
  have first : byte.toNat = char.toNat / 4096 + 224 := by
    rw [UInt8.toNat_ofNat']
    omega
  have kind : 0xE0 ≤ byte.toNat ∧ byte.toNat < 0xF0 := by omega
  refine ⟨byte, _, [char.toNat / 64, char.toNat], ?bytes, Lead.ofByte?_three kind,
    trailing_map ?bounds, rfl, ?value⟩
  case bytes =>
    rw [String.utf8EncodeChar, if_neg, if_neg, if_pos]
    · rfl
    · exact Nat.le_of_lt_succ range.2
    · exact Nat.not_le.2 range.1
    · exact Nat.not_le.2 (Nat.lt_of_lt_of_le (by decide) range.1)
  case bounds =>
    simp only [UInt8.toNat_inj.symm, apply_ite UInt8.toNat, UInt8.reduceToNat]
    constructor <;> split <;> omega
  case value =>
    simp only [List.foldl_cons, List.foldl_nil, first]
    omega

/-- A character of four bytes. After F0 the second byte is not so low that three would do, and after
F4 it is not so high that the code point would be beyond the last one. -/
theorem spells_four {char : Char} (range : 0x10000 ≤ char.toNat) :
    ∃ byte lead values, Spells char byte lead values := by
  have valid : char.toNat < 0xD800 ∨ 0xDFFF < char.toNat ∧ char.toNat < 0x110000 := char.valid
  let byte := UInt8.ofNat (char.toNat / 262144 % 8 + 240)
  have first : byte.toNat = char.toNat / 262144 + 240 := by
    rw [UInt8.toNat_ofNat']
    omega
  have kind : 0xF0 ≤ byte.toNat ∧ byte.toNat < 0xF5 := by omega
  refine ⟨byte, _, [char.toNat / 4096, char.toNat / 64, char.toNat], ?bytes,
    Lead.ofByte?_four kind, trailing_map ?bounds, rfl, ?value⟩
  case bytes =>
    rw [String.utf8EncodeChar, if_neg, if_neg, if_neg]
    · rfl
    · exact Nat.not_le.2 range
    · exact Nat.not_le.2 (Nat.lt_of_lt_of_le (by decide) range)
    · exact Nat.not_le.2 (Nat.lt_of_lt_of_le (by decide) range)
  case bounds =>
    simp only [UInt8.toNat_inj.symm, apply_ite UInt8.toNat, UInt8.reduceToNat]
    constructor <;> split <;> omega
  case value =>
    simp only [List.foldl_cons, List.foldl_nil, first]
    omega

/-- A character beyond ASCII is one of several bytes. -/
theorem exists_spells {char : Char} (wide : 0x80 ≤ char.toNat) :
    ∃ byte lead values, Spells char byte lead values := by
  rcases Nat.lt_or_ge char.toNat 0x800 with two | more
  · exact spells_two ⟨wide, two⟩
  · rcases Nat.lt_or_ge char.toNat 0x10000 with three | four
    · exact spells_three ⟨more, three⟩
    · exact spells_four four

/-- A character of ASCII is its code point in one byte. -/
theorem utf8EncodeChar_narrow {char : Char} (narrow : char.toNat < 0x80) :
    String.utf8EncodeChar char = [UInt8.ofNat char.toNat] := by
  rw [String.utf8EncodeChar, if_pos]
  · rfl
  · exact Nat.le_of_lt_succ narrow

/-- A first byte reads with the trailing bytes after it, and reading goes on behind them. -/
theorem decode_cons_lead {byte : UInt8} {lead : Lead} (leads : Lead.ofByte? byte = some lead)
    {run rest : List UInt8} (taken : trail lead.trailing lead.low lead.high (run ++ rest) = run) :
    decode (byte :: (run ++ rest)) = lead.read run :: decode rest := by
  rw [decode, if_neg (Lead.wide_of_ofByte? leads)]
  simp only [leads, taken, List.drop_left]

/-- A character reads as itself, whatever stands behind it. -/
theorem decode_utf8EncodeChar_append (char : Char) (rest : List UInt8) :
    decode (String.utf8EncodeChar char ++ rest) = char :: decode rest := by
  rcases Nat.lt_or_ge char.toNat 0x80 with narrow | wide
  · have byte : (UInt8.ofNat char.toNat).toNat = char.toNat := by
      rw [UInt8.toNat_ofNat']
      omega
    have one : UInt8.ofNat char.toNat < 0x80 := by
      rwa [UInt8.lt_iff_toNat_lt, byte]
    rw [utf8EncodeChar_narrow narrow, List.singleton_append, decode, if_pos one, byte,
      Char.ofNat_toNat]
  · obtain ⟨byte, lead, values, spells⟩ := exists_spells wide
    have count : (values.map trailByte).length = lead.trailing := by
      rw [List.length_map, spells.length]
    rw [spells.bytes, List.cons_append,
      decode_cons_lead spells.leads (trail_append spells.trailing (.inl count)), Lead.read,
      if_pos count, foldl_trailByte, spells.value, Char.ofNat_toNat]

/-- A character that is cut off between its bytes reads as one mark. -/
theorem decode_take_utf8EncodeChar {char : Char} {count : Nat}
    (cut : 0 < count ∧ count < (String.utf8EncodeChar char).length) :
    decode ((String.utf8EncodeChar char).take count) = [replacement] := by
  rcases Nat.lt_or_ge char.toNat 0x80 with narrow | wide
  · rw [utf8EncodeChar_narrow narrow, List.length_singleton] at cut
    omega
  · obtain ⟨byte, lead, values, spells⟩ := exists_spells wide
    rw [spells.bytes, List.length_cons, List.length_map, spells.length] at cut
    obtain ⟨kept, rfl⟩ := Nat.exists_eq_add_one.2 cut.1
    have short : ((values.map trailByte).take kept).length < lead.trailing := by
      rw [List.length_take]
      omega
    have taken := trail_append (spells.trailing.take kept) (.inr ⟨Nat.le_of_lt short, rfl⟩)
    have read := decode_cons_lead spells.leads taken
    rw [List.append_nil, Lead.read, if_neg (Nat.ne_of_lt short)] at read
    rw [spells.bytes, List.take_succ_cons, read, decode]

/-- Only the character zero has a zero among its bytes. -/
theorem zero_notMem_utf8EncodeChar {char : Char} (plain : char ≠ '\x00') :
    0 ∉ String.utf8EncodeChar char := by
  rcases Nat.lt_or_ge char.toNat 0x80 with narrow | wide
  · rw [utf8EncodeChar_narrow narrow, List.mem_singleton]
    intro zero
    have point : char.toNat = 0 := by
      have same := congrArg UInt8.toNat zero
      rw [UInt8.toNat_ofNat', UInt8.toNat_zero] at same
      omega
    exact plain (Char.toNat_inj.1 point)
  · obtain ⟨byte, lead, values, spells⟩ := exists_spells wide
    rw [spells.bytes, List.mem_cons, List.mem_map]
    rintro (rfl | ⟨value, _, zero⟩)
    · exact absurd (Lead.wide_of_ofByte? spells.leads) (by decide)
    · have same := congrArg UInt8.toNat zero
      rw [toNat_trailByte, UInt8.toNat_zero] at same
      omega

/-- The bytes of a text without the character zero have no zero. -/
theorem zero_notMem_encode {text : List Char} (plain : '\x00' ∉ text) : 0 ∉ encode text := by
  intro zero
  obtain ⟨char, member, inside⟩ := List.mem_flatMap.1 zero
  exact zero_notMem_utf8EncodeChar (fun null => plain (null ▸ member)) inside

theorem encode_append (front back : List Char) :
    encode (front ++ back) = encode front ++ encode back :=
  List.flatMap_append

theorem encode_singleton (char : Char) : encode [char] = String.utf8EncodeChar char :=
  List.append_nil _

/-- The bytes of a text read as the text, whatever stands behind them. -/
theorem decode_encode_append (text : List Char) (rest : List UInt8) :
    decode (encode text ++ rest) = text ++ decode rest := by
  induction text with
  | nil => rfl
  | cons char text ih =>
    have bytes : encode (char :: text) ++ rest =
        String.utf8EncodeChar char ++ (encode text ++ rest) := List.append_assoc ..
    rw [bytes, decode_utf8EncodeChar_append, ih, List.cons_append]

end WordPairs.Text
