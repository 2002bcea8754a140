import FramesInFlight.Number.Digits
import FramesInFlight.Number.Shortest
import FramesInFlight.Text.Reader
import FramesInFlight.Toml.Value

/-!
# Numbers, truth values and moments of TOML

Everything that is written without quotes or brackets is one word, and a date and a time of day with
a blank between them are one word too.  `scalar` takes the word, `ofWord?` says what it means.
-/

namespace FramesInFlight

namespace Toml

/-! ## Numbers -/

/-- The bounds of an integer: at least `-integerLimit`, and below it. -/
def integerLimit : Int := 9223372036854775808

/-- Decimal digits in groups, without a leading zero. -/
def plainDigits? (word : List Char) : Option (List Char) :=
  match Digits.grouped? 10 word with
  | some ('0' :: _ :: _) => none
  | digits => digits

/-- A sign, if there is one, and the word after it. -/
def signed (word : List Char) : Bool × List Char :=
  match word with
  | '-' :: rest => (true, rest)
  | '+' :: rest => (false, rest)
  | _ => (false, word)

/-- The integer that a word stands for.  Bases other than ten have no sign. -/
def integer? (word : List Char) : Option Int :=
  let read : Option Int :=
    match word with
    | '0' :: 'x' :: digits => (Digits.grouped? 16 digits).map fun ds => (Digits.toNat 16 ds : Int)
    | '0' :: 'o' :: digits => (Digits.grouped? 8 digits).map fun ds => (Digits.toNat 8 ds : Int)
    | '0' :: 'b' :: digits => (Digits.grouped? 2 digits).map fun ds => (Digits.toNat 2 ds : Int)
    | _ =>
      let (negative, digits) := signed word
      (plainDigits? digits).map fun ds =>
        if negative then -(Digits.toNat 10 ds : Int) else (Digits.toNat 10 ds : Int)
  read.filter fun n => -integerLimit ≤ n && n < integerLimit

/-- Whether the double nearest to a decimal is infinite.  The least such decimal has 309 digits
before its point. -/
def isTooLarge (d : Decimal) : Bool :=
  let limit := 18014398509481983 <<< 970
  let places := (Decimal.digitCount d.digits : Int) + d.exponent
  if d.digits = 0 || places < 309 then false
  else if 309 < places then true
  else
    decide (limit * Decimal.tenTo (-d.exponent).toNat ≤ d.digits * Decimal.tenTo d.exponent.toNat)

/-- The exponent that ends a number: nothing, or a mark and an integer that may begin with zeros. -/
def exponent? (word : List Char) : Option Int :=
  match word with
  | [] => some 0
  | c :: rest =>
    if c = 'e' || c = 'E' then
      let (negative, digits) := signed rest
      (Digits.grouped? 10 digits).map fun ds =>
        if negative then -(Digits.toNat 10 ds : Int) else (Digits.toNat 10 ds : Int)
    else none

/-- The decimal that a word without a sign stands for: digits, then a fraction, an exponent, or
both. -/
def decimal? (word : List Char) : Option Decimal :=
  let test (c : Char) : Bool := c.isDigit || c = '_'
  let (whole, rest) := Reader.run test word
  match plainDigits? whole, rest with
  | none, _ | _, [] => none
  | some whole, '.' :: rest =>
    let (fraction, rest) := Reader.run test rest
    match Digits.grouped? 10 fraction, exponent? rest with
    | some fraction, some exponent =>
      some ⟨Digits.toNat 10 (whole ++ fraction), exponent - fraction.length⟩
    | _, _ => none
  | some whole, rest => (exponent? rest).map fun exponent => ⟨Digits.toNat 10 whole, exponent⟩

/-- Whether a word is a number with a fraction.  A positive one too large to be finite is none. -/
def isReal (word : List Char) : Bool :=
  let (negative, magnitude) := signed word
  if magnitude = ['i', 'n', 'f'] || magnitude = ['n', 'a', 'n'] then true
  else
    match decimal? magnitude with
    | none => false
    | some d => negative || !isTooLarge d

/-! ## Moments -/

/-- The text after a number of `width` digits between `low` and `high`, and that number. -/
def bounded (width low high : Nat) : Reader Nat := fun text =>
  let digits := text.take width
  let n := Digits.toNat 10 digits
  if digits.length = width && digits.all Char.isDigit && low ≤ n && n ≤ high then
    some (n, text.drop width)
  else none

/-- Days of a month. -/
def daysIn (year month : Nat) : Nat :=
  if month = 2 then
    if year % 4 = 0 && (year % 100 ≠ 0 || year % 400 = 0) then 29 else 28
  else if month = 4 || month = 6 || month = 9 || month = 11 then 30
  else 31

/-- The text after a date. -/
def afterDate (text : List Char) : Option (List Char) := do
  let (year, text) ← bounded 4 0 9999 text
  let text ← Reader.after ['-'] text
  let (month, text) ← bounded 2 1 12 text
  let text ← Reader.after ['-'] text
  let (_, text) ← bounded 2 1 (daysIn year month) text
  return text

/-- The text after a time of day.  A second may be a leap second, and may have a fraction. -/
def afterTime (text : List Char) : Option (List Char) := do
  let (_, text) ← bounded 2 0 23 text
  let text ← Reader.after [':'] text
  let (_, text) ← bounded 2 0 59 text
  let text ← Reader.after [':'] text
  let (_, text) ← bounded 2 0 60 text
  match text with
  | '.' :: rest =>
    let (fraction, rest) := Reader.run Char.isDigit rest
    if fraction.isEmpty then none else some rest
  | _ => some text

/-- Whether a text is nothing, or the distance of a clock from the standard one. -/
def isOffset (text : List Char) : Bool :=
  match text with
  | [] => true
  | c :: rest =>
    if c = '+' || c = '-' then
      let rest := do
        let (_, rest) ← bounded 2 0 23 rest
        let rest ← Reader.after [':'] rest
        let (_, rest) ← bounded 2 0 59 rest
        return rest
      rest = some []
    else (c = 'Z' || c = 'z') && rest.isEmpty

/-- Whether a word is a date, a time of day, or both with or without an offset. -/
def isMoment (word : List Char) : Bool :=
  match afterDate word with
  | none => afterTime word = some []
  | some [] => true
  | some (c :: rest) =>
    (c = 'T' || c = 't' || c = ' ') &&
      match afterTime rest with
      | none => false
      | some offset => isOffset offset

/-! ## Words -/

/-- Characters of words. -/
def isWordChar (c : Char) : Bool :=
  c.isAlphanum || c = '_' || c = '+' || c = '-' || c = '.' || c = ':'

/-- Takes a word.  A date followed by a blank and a digit goes on with the time of day. -/
def word (text : List Char) : List Char × List Char :=
  let (first, rest) := Reader.run isWordChar text
  match rest with
  | ' ' :: c :: more =>
    if c.isDigit && afterDate first = some [] then
      let (second, rest) := Reader.run isWordChar (c :: more)
      (first ++ ' ' :: second, rest)
    else (first, rest)
  | _ => (first, rest)

/-- What a word stands for. -/
def ofWord? (word : List Char) : Option Value :=
  if word = ['t', 'r', 'u', 'e'] then some (.boolean true)
  else if word = ['f', 'a', 'l', 's', 'e'] then some (.boolean false)
  else
    match integer? word with
    | some n => some (.integer n)
    | none =>
      if isReal word then some .real else if isMoment word then some .moment else none

/-- Reads a value written as a word. -/
def scalar : Reader Value := fun text =>
  let (first, rest) := word text
  (ofWord? first).map fun value => (value, rest)

end Toml

end FramesInFlight
