import FramesInFlight.Toml.Quoted
import FramesInFlight.Toml.Scalar

/-!
# TOML documents

A document is read line by line: a blank line or a comment, the header of a table or of an element
of an array of tables, or a key with its value, which may itself run over lines.  `entries?` gives
the table that the document stands for.
-/

namespace FramesInFlight

namespace Toml

/-! ## Keys and values -/

/-- Characters of keys without quotes. -/
def isKeyChar (c : Char) : Bool := c.isAlphanum || c = '_' || c = '-'

/-- Reads one part of a key. -/
def keyPart : Reader String := fun text =>
  match text with
  | '"' :: _ | '\'' :: _ => (quotedLine text).map fun (name, rest) => (String.ofList name, rest)
  | _ =>
    let (name, rest) := Reader.run isKeyChar text
    if name.isEmpty then none else some (String.ofList name, rest)

/-- Reads a dotted key of at most `parts` parts, and the blanks around them. -/
def key : Nat → Reader (List String)
  | 0 => fun _ => none
  | parts + 1 => fun text => do
    let (name, rest) ← keyPart (blank text)
    match blank rest with
    | '.' :: rest =>
      let (inner, rest) ← key parts rest
      return (name :: inner, rest)
    | rest => return ([name], rest)

/-- Keys have at most this many parts, and values nest at most this deep. -/
def depthLimit : Nat := 79

/-- Drop blanks, ends of lines and comments; `inComment` says whether a comment is under way. -/
def blankOrComment (inComment : Bool) : List Char → List Char
  | [] => []
  | '\r' :: '\n' :: rest => blankOrComment false rest
  | '\n' :: rest => blankOrComment false rest
  | c :: rest =>
    if inComment then if isPlain c then blankOrComment true rest else c :: rest
    else if c = '#' then blankOrComment true rest
    else if c = ' ' || c = '\t' then blankOrComment false rest
    else c :: rest

/-- Arrays run over lines, and may end with a comma. -/
def arrayShape : ListShape := ⟨blankOrComment false, ']', true⟩

/-- Tables between braces stay on one line, and do not end with a comma. -/
def inlineShape : ListShape := ⟨blank, '\x7d', false⟩

/-- Reads a key and its value. -/
def pair (value : Reader Value) : Reader (List String × Value) := fun text => do
  let (path, rest) ← key depthLimit text
  let rest ← Reader.after ['='] rest
  let (v, rest) ← value (blank rest)
  return ((path, v), rest)

/-- Reads a value in which arrays and tables nest at most `depth` deep. -/
def value (depth : Nat) : Reader Value := fun text =>
  match text, depth with
  | '"' :: _, _ | '\'' :: _, _ => (quotedText text).map fun (chars, rest) => (.text chars, rest)
  | '[' :: rest, depth + 1 =>
    (arrayShape.items (value depth) true rest).map fun (items, rest) => (.array items, rest)
  | '\x7b' :: rest, depth + 1 => do
    let (pairs, rest) ← inlineShape.items (pair (value depth)) true rest
    let entries ← ofPairs? pairs
    return (.table .inline entries, rest)
  | _, _ => scalar text

/-! ## Lines -/

/-- The text after the rest of a line that holds nothing more. -/
def lineEnd? (text : List Char) : Option (List Char) :=
  let rest :=
    match blank text with
    | '#' :: rest => rest.dropWhile isPlain
    | rest => rest
  if rest.isEmpty then some [] else newline? rest

/-- A document read up to some line. -/
structure Document where
  entries : Entries := []
  /-- Path of the table that the last header opened. -/
  current : List String := []

/-- Open a table or an element of an array of tables. -/
def Document.enter (doc : Document) (opening : List String → Entries → Option Entries)
    (path : List String) : Option Document :=
  (opening path doc.entries).map fun entries => ⟨entries, path⟩

/-- Add a value to the table that is open. -/
def Document.add (doc : Document) (key : List String) (value : Value) : Option Document :=
  (within? (assign? value key) doc.current doc.entries).map fun entries => { doc with entries }

/-- Reads the header of a table, its opening bracket being read already. -/
def tableHeader (doc : Document) : Reader Document := fun text => do
  let (path, rest) ← key depthLimit text
  let rest ← Reader.after [']'] rest
  let doc ← doc.enter openTable? path
  return (doc, rest)

/-- Reads the header of an element, its opening brackets being read already. -/
def elementHeader (doc : Document) : Reader Document := fun text => do
  let (path, rest) ← key depthLimit text
  let rest ← Reader.after [']', ']'] rest
  let doc ← doc.enter openElement? path
  return (doc, rest)

/-- Reads what a line holds. -/
def content (doc : Document) : Reader Document := fun text =>
  match text with
  | [] | '#' :: _ | '\n' :: _ | '\r' :: _ => some (doc, text)
  | '[' :: '[' :: rest => elementHeader doc rest
  | '[' :: rest => tableHeader doc rest
  | _ => do
    let ((path, v), rest) ← pair (value depthLimit) text
    let doc ← doc.add path v
    return (doc, rest)

/-- Reads a line to its end. -/
def line (doc : Document) : Reader Document := fun text => do
  let (doc, rest) ← content doc (blank text)
  let rest ← lineEnd? rest
  return (doc, rest)

/-- Read lines to the end of the text. -/
def lines (doc : Document) (text : List Char) : Option Document :=
  if text.isEmpty then some doc
  else
    match line doc text with
    | none => none
    | some (doc, rest) => if rest.length < text.length then lines doc rest else none
termination_by text.length

/-- A text without the mark that may stand at its very beginning. -/
def withoutMark (text : List Char) : List Char :=
  match text with
  | '\ufeff' :: rest => rest
  | _ => text

/-- The table that a document stands for. -/
def entries? (text : List Char) : Option Entries :=
  (lines {} (withoutMark text)).map (·.entries)

end Toml

end FramesInFlight
