/-!
# Labels in ASCII letters

A label with other characters is written with its ASCII characters first, and behind a dash with
numbers that say where the other characters go, from the least character to the greatest. Digits of
a number have values up to 35, and the last digit of a number is known by being small.
-/

namespace WordPairs.Web.Domain.Punycode

/-- The number of digits. -/
def base : Nat := 36

/-- The place of the first digit of a number; the places of further digits are as far apart. -/
def firstPlace : Nat := base

/-- The code point from which on characters are not written as themselves. -/
def firstPoint : Nat := 128

/-- The bias of the first number. -/
def firstBias : Nat := 72

/-- A digit as a character. -/
def digit (value : Nat) : Char := Char.ofNat (if value < 26 then 97 + value else 22 + value)

/-- The value of a digit. -/
def digitValue? (char : Char) : Option Nat :=
  if 'a' ≤ char && char ≤ 'z' then some (char.toNat - 97)
  else if '0' ≤ char && char ≤ '9' then some (char.toNat - 22)
  else none

/-- The value below which a digit is the last of its number. -/
def threshold (bias place : Nat) : Nat := min 26 (max 1 (place - bias))

/-- A threshold is a digit other than zero, and leaves digits above it. -/
theorem threshold_bounds (bias place : Nat) :
    1 ≤ threshold bias place ∧ threshold bias place ≤ 26 := by
  unfold threshold
  omega

/-- The bias for numbers of a size. -/
def biasOf (places delta : Nat) : Nat :=
  if 455 < delta then biasOf (places + base) (delta / 35) else places + base * delta / (delta + 38)
termination_by delta

/-- The bias for the number behind one, where so many characters have been placed. -/
def adapt (delta count : Nat) (isFirst : Bool) : Nat :=
  let scaled := if isFirst then delta / 700 else delta / 2
  biasOf 0 (scaled + scaled / count)

/-! ## Writing -/

/-- The digits of a number. -/
def writeNumber (bias place number : Nat) : List Char :=
  let least := threshold bias place
  if number < least then [digit number]
  else
    digit (least + (number - least) % (base - least)) ::
      writeNumber bias (place + base) ((number - least) / (base - least))
termination_by number
decreasing_by
  have := threshold_bounds bias place
  have := Nat.div_le_self (number - threshold bias place) (base - threshold bias place)
  omega

/-- How far a label has been written. -/
structure Written where
  /-- What has been written. -/
  text : List Char
  /-- The number of ways to place a character that have been passed over. -/
  delta : Nat
  /-- The bias of the next number. -/
  bias : Nat
  /-- How many characters have been placed. -/
  count : Nat

namespace Written

/-- Goes past one character of a label, on the way that places all characters of a code point. Of
the characters of the label, so many are ASCII characters. -/
def pass (basics point : Nat) (written : Written) (char : Char) : Written :=
  if char.toNat < point then { written with delta := written.delta + 1 }
  else if char.toNat = point then
    { text := written.text ++ writeNumber written.bias firstPlace written.delta
      delta := 0
      bias := adapt written.delta (written.count + 1) (written.count == basics)
      count := written.count + 1 }
  else written

/-- Places the characters of code points, which are in ascending order and not below a given one. -/
def place (basics : Nat) (label : List Char) : Nat → List Nat → Written → Written
  | _, [], written => written
  | least, point :: points, written =>
    let start :=
      { written with delta := written.delta + (point - least) * (written.count + 1) }
    let passed := label.foldl (pass basics point) start
    place basics label (point + 1) points { passed with delta := passed.delta + 1 }

end Written

/-- Puts a number into an ascending list, unless it is there. -/
def insertPoint (point : Nat) : List Nat → List Nat
  | [] => [point]
  | first :: points =>
    if point < first then point :: first :: points
    else if point = first then first :: points
    else first :: insertPoint point points

/-- A label in ASCII letters. -/
def encode (label : List Char) : List Char :=
  let basic := label.filter (·.toNat < firstPoint)
  let points := (label.map Char.toNat).filter (firstPoint ≤ ·)
  let front := if basic.isEmpty then [] else basic ++ ['-']
  (Written.place basic.length label firstPoint (points.foldr insertPoint [])
    ⟨front, 0, firstBias, basic.length⟩).text

/-! ## Reading -/

/-- Reads a number, whose digits from a place on count so much each, on top of another number. -/
def readNumber? (bias : Nat) : Nat → Nat → Nat → List Char → Option (Nat × List Char)
  | _, _, _, [] => none
  | place, weight, number, char :: code =>
    match digitValue? char with
    | none => none
    | some value =>
      let number := number + value * weight
      let least := threshold bias place
      if value < least then some (number, code)
      else readNumber? bias (place + base) (weight * (base - least)) number code

/-- A number takes at least one character. -/
theorem length_lt_of_readNumber? {bias place weight number result : Nat} {code rest : List Char}
    (read : readNumber? bias place weight number code = some (result, rest)) :
    rest.length < code.length := by
  induction code generalizing place weight number with
  | nil => simp [readNumber?] at read
  | cons char code ih =>
    unfold readNumber? at read
    split at read
    · cases read
    · simp only at read
      split at read
      · cases read
        simp
      · have := ih read
        simp only [List.length_cons]
        omega

/-- Places further characters in a text. The position counts on from the place of the last one. -/
def insertAll? (text : List Char) (point bias position : Nat) (code : List Char) :
    Option (List Char) :=
  if code.isEmpty then some text
  else
    match read : readNumber? bias firstPlace 1 position code with
    | none => none
    | some (number, rest) =>
      let count := text.length + 1
      let point := point + number / count
      if point.isValidChar then
        insertAll? (text.insertIdx (number % count) (Char.ofNat point)) point
          (adapt (number - position) count (position == 0)) (number % count + 1) rest
      else none
termination_by code.length
decreasing_by exact length_lt_of_readNumber? read

/-- The label that ASCII letters stand for. -/
def decode? (code : List Char) : Option (List Char) :=
  let numbers := (code.reverse.takeWhile (· ≠ '-')).reverse
  let basic := code.take (code.length - numbers.length - 1)
  if basic.any (firstPoint ≤ ·.toNat) then none
  else insertAll? basic firstPoint firstBias 0 (if basic.isEmpty then code else numbers)

end WordPairs.Web.Domain.Punycode
