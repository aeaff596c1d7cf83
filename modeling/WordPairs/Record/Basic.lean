/-!
# Records

A record is 32 bytes. It holds two words joined by a comma, cut to 31 bytes and padded with zeros,
so that an encoded record always ends in a zero byte.
-/

namespace WordPairs

/-- A word is a string of bytes; nothing is assumed of its encoding. -/
abbrev Word := List UInt8

/-- A string of exactly 32 bytes. -/
structure Record where
  /-- The bytes in file order. -/
  bytes : List UInt8
  /-- Every record has the same width. -/
  length_bytes : bytes.length = 32
  deriving DecidableEq

namespace Record

/-- The width of a record in bytes. -/
def size : Nat := 32

/-- How many bytes of the joined words a record keeps. -/
def contentLimit : Nat := 31

/-- The byte between the two words, a comma. -/
def separator : UInt8 := 44

/-- Two words with the separator between them. -/
def joined (first second : Word) : List UInt8 := first ++ separator :: second

/-- Bytes followed by as many zeros as fill a record. -/
def pad (content : List UInt8) : List UInt8 :=
  content ++ List.replicate (size - content.length) 0

/-- Padding fills up to the size of a record. -/
theorem length_pad {content : List UInt8} (fits : content.length ≤ size) :
    (pad content).length = size := by
  simp only [pad, List.length_append, List.length_replicate]
  omega

/-- The record of a pair of words. All of the joined words is subject to the cut, so a long first
word can push out the separator and the second word. -/
def encode (first second : Word) : Record where
  bytes := pad ((joined first second).take contentLimit)
  length_bytes := length_pad (Nat.le_trans (List.length_take_le _ _) (by decide))

/-- A string of bytes as a record, if it has the width of one. -/
def ofBytes? (bytes : List UInt8) : Option Record :=
  if h : bytes.length = 32 then some ⟨bytes, h⟩ else none

/-- The bytes in front of the first zero. -/
def content (record : Record) : List UInt8 := record.bytes.takeWhile (· != 0)

/-- Whether only zeros follow the first zero. -/
def wellPadded (record : Record) : Bool := (record.bytes.drop record.content.length).all (· == 0)

/-- The bytes of a list of records, back to back. -/
def concat (records : List Record) : List UInt8 := records.flatMap bytes

/-- A record is the bytes of an encoded pair, cut and padded. -/
theorem bytes_encode (first second : Word) :
    (encode first second).bytes = pad ((joined first second).take contentLimit) := rfl

/-- Records behind others follow these back to back. -/
theorem concat_append (front back : List Record) :
    concat (front ++ back) = concat front ++ concat back := List.flatMap_append

/-- One record is its own bytes. -/
theorem concat_singleton (record : Record) : concat [record] = record.bytes := List.append_nil _

/-- Records back to back take 32 bytes each. -/
theorem length_concat (records : List Record) :
    (concat records).length = size * records.length := by
  induction records with
  | nil => rfl
  | cons record records ih =>
    simp only [concat, List.flatMap_cons, List.length_append, record.length_bytes,
      List.length_cons] at ih ⊢
    simp only [ih, size]
    omega

end Record

end WordPairs
