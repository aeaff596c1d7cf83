import WordPairs.Text.Table
import WordPairs.Text.Utf8

/-!
# Percent encoding

A byte can be written as a percent sign and two hexadecimal digits. Which characters of a URL are
written so depends on the part of the URL they are in.
-/

namespace WordPairs.Web

open WordPairs.Text (hexValue?)

/-- One byte in percent encoding. -/
def percentByte (byte : UInt8) : List Char :=
  let digit (value : Nat) : Char := Char.ofNat (if value < 10 then 48 + value else 55 + value)
  ['%', digit (byte.toNat / 16), digit (byte.toNat % 16)]

/-- Characters that are encoded in every part: controls and all beyond ASCII. -/
def isControl (char : Char) : Bool := char < ' ' || '~' < char

/-- Characters that are encoded in a fragment. -/
def inFragment (char : Char) : Bool := isControl char || [' ', '"', '<', '>', '\x60'].contains char

/-- Characters that are encoded in a query; schemes of the web add the apostrophe. -/
def inQuery (special : Bool) (char : Char) : Bool :=
  isControl char || [' ', '"', '#', '<', '>'].contains char || (special && char == '\'')

/-- Characters that are encoded in a path. -/
def inPath (char : Char) : Bool := inFragment char || ['#', '?', '{', '}'].contains char

/-- Characters that are encoded in a name or a password. -/
def inCredentials (char : Char) : Bool :=
  inPath char || ['/', ':', ';', '=', '@', '[', '\\', ']', '^', '|'].contains char

/-- A text with some of its characters in percent encoding. -/
def percentEncode (encoded : Char → Bool) (text : List Char) : List Char :=
  text.flatMap fun char =>
    if encoded char then (String.utf8EncodeChar char).flatMap percentByte else [char]

/-- The bytes that a text in percent encoding stands for. -/
def percentDecode : List Char → List UInt8
  | [] => []
  | '%' :: high :: low :: rest =>
    match hexValue? high, hexValue? low with
    | some high, some low => UInt8.ofNat (16 * high + low) :: percentDecode rest
    | _, _ => 37 :: percentDecode (high :: low :: rest)
  | char :: rest => String.utf8EncodeChar char ++ percentDecode rest

end WordPairs.Web
