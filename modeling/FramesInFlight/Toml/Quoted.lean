import FramesInFlight.Number.Digits
import FramesInFlight.Text.Reader

/-!
# Quoted text of TOML

Text between double quotes knows escapes, text between single quotes does not, and either may be
tripled, which lets it run over lines.
-/

namespace FramesInFlight

namespace Toml

/-- Drop blanks. -/
def blank (text : List Char) : List Char := text.dropWhile fun c => c = ' ' || c = '\t'

/-- The text after the end of a line. -/
def newline? : List Char → Option (List Char)
  | '\n' :: rest => some rest
  | '\r' :: '\n' :: rest => some rest
  | _ => none

/-- Characters that may stand for themselves in text and comments. -/
def isPlain (c : Char) : Bool := c = '\t' || (32 ≤ c.toNat && c.toNat ≠ 127)

/-- Drop blanks and ends of lines. -/
def blankLines : List Char → List Char
  | '\r' :: '\n' :: rest => blankLines rest
  | c :: rest => if c = ' ' || c = '\t' || c = '\n' then blankLines rest else c :: rest
  | [] => []

/-- The character with a given number of hexadecimal digits. -/
def codePoint (width : Nat) : Reader (List Char) := fun text =>
  if (text.take width).length = width then
    (Digits.toChar? (text.take width)).map fun c => ([c], text.drop width)
  else none

/-- Reads what follows a backslash. -/
def escape : Reader (List Char) := fun text =>
  match text with
  | 'b' :: rest => some (['\x08'], rest)
  | 't' :: rest => some (['\t'], rest)
  | 'n' :: rest => some (['\n'], rest)
  | 'f' :: rest => some (['\x0c'], rest)
  | 'r' :: rest => some (['\r'], rest)
  | '"' :: rest => some (['"'], rest)
  | '\\' :: rest => some (['\\'], rest)
  | 'u' :: rest => codePoint 4 rest
  | 'U' :: rest => codePoint 8 rest
  | _ => none

/-- Reads a character that stands for itself. -/
def plain : Reader (List Char) := fun text =>
  match text with
  | c :: rest => if isPlain c then some ([c], rest) else none
  | [] => none

/-- Reads a character that stands for itself or is escaped. -/
def escapable : Reader (List Char) := fun text =>
  match text with
  | '\\' :: rest => escape rest
  | _ => plain text

/-- Reads a character of a text over lines, or the end of a line. -/
def overLines : Reader (List Char) := fun text =>
  match newline? text with
  | some rest => some (['\n'], rest)
  | none => plain text

/-- Reads a character of a text over lines that knows escapes.  A backslash at the end of a line
stands for nothing, and so do the blanks and empty lines after it. -/
def overLinesEscapable : Reader (List Char) := fun text =>
  match text with
  | '\\' :: rest =>
    match newline? (blank rest) with
    | some rest => some ([], blankLines rest)
    | none => escape rest
  | _ => overLines text

/-- Reads up to three quotes and past them, at most `units` units.  Fewer than three quotes stand for
themselves, and so do up to two before the last three. -/
def tripledUpTo (quote : Char) (unit : Reader (List Char)) : Nat → Reader (List Char)
  | 0, _ => none
  | _ + 1, [] => none
  | units + 1, c :: tail =>
    let quotes := ((c :: tail).takeWhile (· = quote)).length
    if 3 ≤ quotes then
      let extra := min (quotes - 3) 2
      some (List.replicate extra quote, (c :: tail).drop (extra + 3))
    else do
      let (read, rest) ← if c = quote then some ([c], tail) else unit (c :: tail)
      let (more, rest) ← tripledUpTo quote unit units rest
      return (read ++ more, rest)

/-- Reads up to three quotes and past them. -/
def tripled (quote : Char) (unit : Reader (List Char)) : Reader (List Char) := fun text =>
  tripledUpTo quote unit text.length text

/-- A line's end right after the opening quotes does not count. -/
def firstLine (text : List Char) : List Char := (newline? text).getD text

/-- Reads text in single or double quotes on one line. -/
def quotedLine : Reader (List Char) := fun text =>
  match text with
  | '"' :: rest => Reader.quoted '"' escapable rest
  | '\'' :: rest => Reader.quoted '\'' plain rest
  | _ => none

/-- Reads text in quotes of any kind. -/
def quotedText : Reader (List Char) := fun text =>
  match text with
  | '"' :: '"' :: '"' :: rest => tripled '"' overLinesEscapable (firstLine rest)
  | '\'' :: '\'' :: '\'' :: rest => tripled '\'' overLines (firstLine rest)
  | _ => quotedLine text

end Toml

end FramesInFlight
