import FramesInFlight.Number.Digits
import FramesInFlight.Text.Reader

/-!
# Tokens of RON

Blanks and comments, identifiers, numbers and quoted text.
-/

namespace FramesInFlight

namespace Ron

/-! ## Blanks and comments -/

/-- What a text is in the middle of. -/
inductive Gap where
  | blank
  /-- A comment up to the end of the line. -/
  | lineComment
  /-- A comment between marks, inside this many others. -/
  | blockComment (outer : Nat)

/-- Drop blanks and comments.  A comment that never ends leaves a slash, which no reader takes. -/
def skipGap : Gap → List Char → List Char
  | .blank, '/' :: '/' :: rest => skipGap .lineComment rest
  | .blank, '/' :: '*' :: rest => skipGap (.blockComment 0) rest
  | .blank, c :: rest =>
    if c = ' ' || c = '\n' || c = '\t' || c = '\r' then skipGap .blank rest else c :: rest
  | .blank, [] => []
  | .lineComment, '\n' :: rest => skipGap .blank rest
  | .lineComment, _ :: rest => skipGap .lineComment rest
  | .lineComment, [] => []
  | .blockComment outer, '/' :: '*' :: rest => skipGap (.blockComment (outer + 1)) rest
  | .blockComment 0, '*' :: '/' :: rest => skipGap .blank rest
  | .blockComment (outer + 1), '*' :: '/' :: rest => skipGap (.blockComment outer) rest
  | .blockComment outer, _ :: rest => skipGap (.blockComment outer) rest
  | .blockComment _, [] => ['/']

/-- Drop blanks and comments. -/
def skip (text : List Char) : List Char := skipGap .blank text

/-! ## Identifiers -/

/-- Characters that identifiers begin with. -/
def isIdentifierStart (c : Char) : Bool := c.isAlpha || c = '_'

/-- Characters of identifiers. -/
def isIdentifierChar (c : Char) : Bool := c.isAlphanum || c = '_'

/-- Characters of identifiers written after the raw mark. -/
def isRawChar (c : Char) : Bool := isIdentifierChar c || c = '.' || c = '+' || c = '-'

/-- Reads an identifier.  One that goes on with a raw character has to have the raw mark, unless it
begins with the letter of that mark; that letter right before quoted text is no identifier. -/
def identifier : Reader String := fun text =>
  let (name, rest) := Reader.run isIdentifierChar text
  match text with
  | 'r' :: '#' :: c :: more =>
    if isRawChar c then
      let (name, rest) := Reader.run isRawChar (c :: more)
      some (String.ofList name, rest)
    else none
  | ['r', '#'] | 'r' :: '"' :: _ | ['r'] => none
  | 'r' :: _ => some (String.ofList name, rest)
  | c :: _ =>
    if isIdentifierStart c && !(rest.head?.any isRawChar) then some (String.ofList name, rest)
    else none
  | [] => none

/-- The text after a word that no identifier goes on with. -/
def afterWord (word text : List Char) : Option (List Char) :=
  (Reader.after word text).filter fun rest => !(rest.head?.any isIdentifierChar)

/-! ## Numbers -/

/-- Characters of integers in any base. -/
def isIntegerChar (c : Char) : Bool := (Digits.value? c).isSome || c = '_'

/-- Characters of numbers with a fraction. -/
def isRealChar (c : Char) : Bool :=
  c.isDigit || c = '.' || c = 'e' || c = 'E' || c = '+' || c = '-' || c = '_'

/-- Add up digits to a number of at most `limit`, which already is `n`.  Underscores do not count. -/
def addUp? (base limit n : Nat) : List Char → Option Nat
  | [] => some n
  | c :: rest =>
    if c = '_' then addUp? base limit n rest
    else
      match Digits.ofBase? base c with
      | none => none
      | some digit =>
        if limit < n * base + digit then none else addUp? base limit (n * base + digit) rest

/-- Base of an integer, and the text after the mark of the base. -/
def base (text : List Char) : Nat × List Char :=
  match text with
  | '0' :: 'x' :: rest => (16, rest)
  | '0' :: 'o' :: rest => (8, rest)
  | '0' :: 'b' :: rest => (2, rest)
  | _ => (10, text)

/-- Reads an integer without a sign, of at most `limit`. -/
def unsigned (limit : Nat) : Reader Nat := fun text =>
  let (base, text) := base text
  let (digits, rest) := Reader.run isIntegerChar text
  if digits.isEmpty || digits.head? = some '_' then none
  else (addUp? base limit 0 digits).map fun n => (n, rest)

/-- The largest count. -/
def countLimit : Nat := 18446744073709551615

/-- The largest number with a sign. -/
def integerLimit : Nat := 9223372036854775807

/-- Reads a 64-bit count. -/
def count : Reader UInt64 := fun text =>
  (unsigned countLimit text).map fun (n, rest) => (UInt64.ofNat n, rest)

/-- Whether a word is a decimal number, with or without a fraction and an exponent. -/
def isDecimal (word : List Char) : Bool :=
  let unsign (word : List Char) : List Char :=
    match word with
    | '+' :: rest | '-' :: rest => rest
    | _ => word
  let (whole, rest) := Reader.run Char.isDigit (unsign word)
  let (fraction, rest) :=
    match rest with
    | '.' :: rest => Reader.run Char.isDigit rest
    | _ => ([], rest)
  (!whole.isEmpty || !fraction.isEmpty) &&
    match rest with
    | [] => true
    | c :: rest =>
      (c = 'e' || c = 'E') && !(unsign rest).isEmpty && (unsign rest).all Char.isDigit

/-- The words for numbers that are not finite. -/
def unboundedWords : List (List Char) :=
  ["inf", "+inf", "-inf", "NaN", "+NaN", "-NaN"].map String.toList

/-- Reads a number with a fraction. -/
def real : Reader Unit := fun text =>
  match unboundedWords.findSome? fun word => afterWord word text with
  | some rest => some ((), rest)
  | none =>
    let (word, rest) := Reader.run isRealChar text
    if isDecimal word then some ((), rest) else none

/-- Reads a number of any kind.  It has a fraction if more characters of such numbers follow the
sign than characters of integers, and it is tried as one with a fraction if it is no integer. -/
def number : Reader Unit := fun text =>
  let (limit, magnitude) :=
    match text with
    | '-' :: rest => (integerLimit + 1, rest)
    | '+' :: rest => (integerLimit, rest)
    | _ => (countLimit, text)
  let integral :=
    decide ((magnitude.takeWhile isRealChar).length ≤ (magnitude.takeWhile isIntegerChar).length)
  match if integral then unsigned limit magnitude else none with
  | some (_, rest) => some ((), rest)
  | none => real text

/-! ## Quoted text -/

/-- Reads up to six hexadecimal digits and the brace that closes them. -/
def bracedCodePoint : Reader (List Char) := fun text =>
  let (digits, rest) := Reader.run (fun c => (Digits.value? c).isSome) text
  match rest with
  | '\x7d' :: rest =>
    if digits.isEmpty || 6 < digits.length then none
    else (Digits.toChar? digits).map fun c => ([c], rest)
  | _ => none

/-- Reads what follows a backslash. -/
def escape : Reader (List Char) := fun text =>
  match text with
  | '\'' :: rest => some (['\''], rest)
  | '"' :: rest => some (['"'], rest)
  | '\\' :: rest => some (['\\'], rest)
  | 'n' :: rest => some (['\n'], rest)
  | 'r' :: rest => some (['\r'], rest)
  | 't' :: rest => some (['\t'], rest)
  | '0' :: rest => some (['\x00'], rest)
  | 'x' :: a :: b :: rest => (Digits.toChar? [a, b]).map fun c => ([c], rest)
  | 'u' :: '\x7b' :: rest => bracedCodePoint rest
  | _ => none

/-- Reads a character, escaped or not. -/
def character : Reader (List Char) := fun text =>
  match text with
  | '\\' :: rest => escape rest
  | c :: rest => some ([c], rest)
  | [] => none

/-- The text after the first occurrence of a word. -/
def afterFirst (word : List Char) : List Char → Option (List Char)
  | [] => none
  | c :: rest => (Reader.after word (c :: rest)).or (afterFirst word rest)

/-- Reads text in double quotes, or raw text after its letter: between double quotes that are
surrounded by equally many hash signs. -/
def quotedText : Reader Unit := fun text =>
  match text with
  | '"' :: rest => (Reader.quoted '"' character rest).map fun (_, rest) => ((), rest)
  | 'r' :: rest => do
    let (hashes, rest) := Reader.run (· = '#') rest
    let rest ← Reader.after ['"'] rest
    let rest ← afterFirst ('"' :: hashes) rest
    return ((), rest)
  | _ => none

/-- Reads a single character in single quotes. -/
def quotedChar : Reader Unit := fun text => do
  let rest ← Reader.after ['\''] text
  if rest.head? = some '\'' then none
  else
    let (_, rest) ← character rest
    let rest ← Reader.after ['\''] rest
    return ((), rest)

end Ron

end FramesInFlight
