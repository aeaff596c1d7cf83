/-!
# Reading bytes as UTF-8

Every byte string reads as text. Well-formed characters read as themselves. Where the bytes are
ill-formed, each maximal part that begins some character, and each byte that begins none, reads as
one replacement mark.
-/

namespace WordPairs.Text

/-- The mark that stands for bytes that are no character. -/
def replacement : Char := '\uFFFD'

/-- What the first byte of a character of several bytes asks of the bytes after it. -/
structure Lead where
  /-- The bits that the first byte adds to the code point. -/
  bits : Nat
  /-- How many bytes follow. -/
  trailing : Nat
  /-- The least second byte. -/
  low : UInt8
  /-- The greatest second byte. -/
  high : UInt8

/-- A byte that begins characters of several bytes. The bounds on the second byte leave out
overlong forms, surrogates and all beyond the last code point. -/
def Lead.ofByte? (byte : UInt8) : Option Lead :=
  if byte < 0xC2 then none
  else if byte < 0xE0 then some ⟨(byte &&& 0x1F).toNat, 1, 0x80, 0xBF⟩
  else if byte < 0xF0 then
    some ⟨(byte &&& 0x0F).toNat, 2, if byte = 0xE0 then 0xA0 else 0x80,
      if byte = 0xED then 0x9F else 0xBF⟩
  else if byte < 0xF5 then
    some ⟨(byte &&& 0x07).toNat, 3, if byte = 0xF0 then 0x90 else 0x80,
      if byte = 0xF4 then 0x8F else 0xBF⟩
  else none

/-- The longest run of at most `count` trailing bytes at the front, the first of them within the
given bounds. -/
def trail (count : Nat) (low high : UInt8) : List UInt8 → List UInt8
  | [] => []
  | byte :: rest =>
    match count with
    | 0 => []
    | count + 1 => if low ≤ byte && byte ≤ high then byte :: trail count 0x80 0xBF rest else []

/-- The character that a first byte and the run of trailing bytes after it make. -/
def Lead.read (lead : Lead) (run : List UInt8) : Char :=
  if run.length = lead.trailing then
    Char.ofNat (run.foldl (fun point byte => point * 64 + (byte &&& 0x3F).toNat) lead.bits)
  else replacement

/-- The text of a byte string. -/
def decode (bytes : List UInt8) : List Char :=
  match bytes with
  | [] => []
  | byte :: rest =>
    if byte < 0x80 then Char.ofNat byte.toNat :: decode rest
    else
      match Lead.ofByte? byte with
      | none => replacement :: decode rest
      | some lead =>
        let run := trail lead.trailing lead.low lead.high rest
        lead.read run :: decode (rest.drop run.length)
termination_by bytes.length

/-- The bytes of a text. -/
def encode (text : List Char) : List UInt8 := text.flatMap String.utf8EncodeChar

end WordPairs.Text
