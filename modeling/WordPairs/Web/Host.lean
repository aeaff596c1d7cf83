import WordPairs.Web.Domain.Name
import WordPairs.Web.Percent

/-!
# Hosts of URLs

A host is a domain name, an address of four numbers, or an address of eight numbers in brackets.
Each has one form, which is in ASCII letters.
-/

namespace WordPairs.Web

open WordPairs.Text (hexValue? splitWhere)

/-- The value of digits in a base of at most sixteen. -/
def numberOf? (base : Nat) (digits : List Char) : Option Nat :=
  digits.foldlM
    (fun value char => do
      let digit ← hexValue? char
      if digit < base then some (value * base + digit) else none)
    0

/-- The value of one number of an address: decimal, octal after a zero, hexadecimal after `0x`. -/
def addressPart? : List Char → Option Nat
  | '0' :: 'x' :: digits => numberOf? 16 digits
  | '0' :: 'X' :: digits => numberOf? 16 digits
  | '0' :: digit :: digits => numberOf? 8 (digit :: digits)
  | [] => none
  | digits => numberOf? 10 digits

/-- The parts of a dotted name; an empty last part is left out. -/
def dottedParts (host : List Char) : List (List Char) :=
  let parts := splitWhere (· == '.') host
  if 1 < parts.length && parts.getLast? == some [] then parts.dropLast else parts

/-- Whether the last part of a name makes it an address. -/
def endsInNumber (host : List Char) : Bool :=
  match (dottedParts host).getLast? with
  | some part => (!part.isEmpty && part.all Char.isDigit) || (addressPart? part).isSome
  | none => false

/-- The value of a one in a place of an address, counted from the last byte. -/
def bytePlace (place : Nat) : Nat := Nat.pow 256 place

/-- The value of an address of up to four numbers. The last fills the bytes that are left. -/
def address4? (host : List Char) : Option Nat := do
  let numbers ← (dottedParts host).mapM addressPart?
  let last ← numbers.getLast?
  let leading := numbers.dropLast
  let room := bytePlace (4 - leading.length)
  if 3 < leading.length || leading.any (255 < ·) || room ≤ last then none
  else some (leading.foldl (fun value number => 256 * value + number) 0 * room + last)

/-- An address of four numbers in its one form. -/
def address4Text (address : Nat) : List Char :=
  (String.intercalate "." ([3, 2, 1, 0].map fun place =>
    toString (address / bytePlace place % 256))).toList

/-- The pieces of sixteen bits that a part of a long address stands for. A dotted address of four
plain decimal numbers can stand last and counts as two pieces. -/
def pieces? (text : List Char) : Option (List Nat) :=
  if text.isEmpty then some []
  else
    let parts := splitWhere (· == ':') text
    let plain (part : List Char) : Option Nat :=
      if part.isEmpty || 4 < part.length then none else numberOf? 16 part
    let decimal (part : List Char) : Option Nat :=
      if part.isEmpty || (1 < part.length && part.head? == some '0') then none
      else (numberOf? 10 part).filter (· ≤ 255)
    match parts.getLast? with
    | none => some []
    | some last =>
      if last.contains '.' then do
        let leading ← parts.dropLast.mapM plain
        match ← (splitWhere (· == '.') last).mapM decimal with
        | [a, b, c, d] => some (leading ++ [256 * a + b, 256 * c + d])
        | _ => none
      else parts.mapM plain

/-- The texts before and after the first pair of colons. -/
def cutAtPair : List Char → Option (List Char × List Char)
  | ':' :: ':' :: rest => some ([], rest)
  | char :: rest => (cutAtPair rest).map fun cut => (char :: cut.1, cut.2)
  | [] => none

/-- The eight pieces of a long address. A pair of colons stands for one zero or more. -/
def address6? (text : List Char) : Option (List Nat) :=
  match cutAtPair text with
  | none => (pieces? text).filter (·.length = 8)
  | some (front, back) => do
    if front.contains '.' then none
    else
      let front ← pieces? front
      let back ← pieces? back
      if 7 < front.length + back.length then none
      else some (front ++ List.replicate (8 - front.length - back.length) 0 ++ back)

/-- The length of the run of zeros at the front. -/
def zeros (pieces : List Nat) : Nat := (pieces.takeWhile (· == 0)).length

/-- Where the first longest run of two zeros or more begins. -/
def longestZeros? (pieces : List Nat) : Option Nat :=
  let lengths := (List.range pieces.length).map fun start => zeros (pieces.drop start)
  let longest := lengths.foldl max 0
  if longest < 2 then none else lengths.findIdx? (· == longest)

/-- A long address in its one form: lower case, and the longest run of zeros left out. -/
def address6Text (pieces : List Nat) : List Char :=
  let colons (pieces : List Nat) : String :=
    String.intercalate ":" (pieces.map fun piece => String.ofList (Nat.toDigits 16 piece))
  match longestZeros? pieces with
  | none => (colons pieces).toList
  | some start =>
    let back := pieces.drop start
    (colons (pieces.take start) ++ "::" ++ colons (back.drop (zeros back))).toList

/-- Characters that no host may hold. -/
def isForbidden (char : Char) : Bool :=
  ['\x00', '\t', '\n', '\r', ' ', '#', '/', ':', '<', '>', '?', '@', '[', '\\', ']', '^',
    '|'].contains char

/-- A host between brackets. -/
def bracketHost? (host : List Char) : Option (List Char) := do
  if host.getLast? == some ']' then
    let pieces ← address6? (host.drop 1).dropLast
    some ('[' :: address6Text pieces ++ [']'])
  else none

/-- The host of a URL of the web, in the one form it is written in. -/
def webHost? (host : List Char) : Option (List Char) :=
  if host.head? == some '[' then bracketHost? host
  else do
    let name ← Domain.toAscii? (Text.decode (percentDecode host))
    let refused (char : Char) : Bool := isForbidden char || isControl char || char == '%'
    if name.isEmpty || name.any refused then none
    else if endsInNumber name then (address4? name).map address4Text
    else some name

/-- The host of any other URL. -/
def opaqueHost? (host : List Char) : Option (List Char) :=
  if host.head? == some '[' then bracketHost? host
  else if host.any isForbidden then none
  else some (percentEncode isControl host)

end WordPairs.Web
