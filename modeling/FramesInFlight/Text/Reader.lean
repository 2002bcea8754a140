/-!
# Readers

A reader takes what it understands from the front of a text and leaves the rest.  It gives `none`
when the text does not begin with what it reads.

* `Reader.after` takes a fixed word.
* `Reader.quoted` reads up to a closing character, one unit at a time.
* `ListShape.items` reads items between commas, up to a closing character.

A list goes on only while the text gets shorter, which every item sees to by taking at least one
character.
-/

namespace FramesInFlight

/-- What was read, and the text after it. -/
abbrev Reader (α : Type) : Type := List Char → Option (α × List Char)

namespace Reader

/-- The text after a word, if it begins with that word. -/
def after : List Char → List Char → Option (List Char)
  | [], text => some text
  | w :: word, c :: text => if w = c then after word text else none
  | _ :: _, [] => none

/-- The longest run of characters that satisfy a test. -/
def run (test : Char → Bool) (text : List Char) : List Char × List Char :=
  (text.takeWhile test, text.dropWhile test)

/-- Reads up to the character `close` and past it, at most `units` units.  `unit` reads what stands
for one character or for none. -/
def quotedUpTo (close : Char) (unit : Reader (List Char)) : Nat → Reader (List Char)
  | 0, _ => none
  | _ + 1, [] => none
  | units + 1, c :: tail =>
    if c = close then some ([], tail)
    else do
      let (read, rest) ← unit (c :: tail)
      let (more, rest) ← quotedUpTo close unit units rest
      return (read ++ more, rest)

/-- Reads up to the character `close` and past it; a text has no more units than characters. -/
def quoted (close : Char) (unit : Reader (List Char)) : Reader (List Char) := fun text =>
  quotedUpTo close unit text.length text

end Reader

/-- How a list of items is written. -/
structure ListShape where
  /-- Drops what may stand around items. -/
  skip : List Char → List Char
  /-- Ends the list. -/
  close : Char
  /-- Whether a comma may follow the last item. -/
  trailingComma : Bool

/-- Reads the items of a list, its opening character being read already.  `closable` says whether
the list may end here, which it may not after a comma that has to be followed by an item. -/
def ListShape.items {α : Type} (shape : ListShape) (item : Reader α) (closable : Bool)
    (text : List Char) : Option (List α × List Char) :=
  match shape.skip text with
  | [] => none
  | c :: rest =>
    if c = shape.close ∧ closable then some ([], rest)
    else
      match item (c :: rest) with
      | none => none
      | some (first, rest) =>
        match shape.skip rest with
        | [] => none
        | d :: rest =>
          if d = shape.close then some ([first], rest)
          else if d = ',' ∧ rest.length < text.length then
            (shape.items item shape.trailingComma rest).map fun (more, rest) =>
              (first :: more, rest)
          else none
termination_by text.length

end FramesInFlight
