import FramesInFlight.Ron.Token

/-!
# Values of RON

A document is read by what is expected in it: `record` reads named fields in parentheses, each by
the reader of its name.  A field that is not expected may hold any value at all; `anyValue` reads
over it.
-/

namespace FramesInFlight

namespace Ron

/-- Lists end with a given character, or with a comma and that character. -/
def listShape (close : Char) : ListShape := ⟨skip, close, true⟩

/-- Reads a key and a value with a colon between them. -/
def pair {α β : Type} (key : Reader α) (value : α → Reader β) : Reader β := fun text => do
  let (k, rest) ← key text
  let rest ← Reader.after [':'] (skip rest)
  value k (skip rest)

/-! ## Any value -/

/-- Refuses every text. -/
def noValue : Reader Unit := fun _ => none

/-- Whether what stands in parentheses has names. -/
def isNamed (text : List Char) : Bool :=
  match identifier (skip text) with
  | none => false
  | some (_, rest) => (skip rest).head? = some ':'

/-- Reads items up to a closing character. -/
def closing (close : Char) (item : Reader Unit) : Reader Unit := fun text =>
  ((listShape close).items item true text).map fun (_, rest) => ((), rest)

/-- Reads what stands in parentheses, the first one being read already.  If the first item has a
name, all of them have. -/
def group (item : Reader Unit) : Reader Unit := fun text =>
  closing ')' (if isNamed text then pair identifier fun _ => item else item) text

/-- Reads a value that is present.  Parentheses may be left out if `bare` says so. -/
def present (bare : Bool) (inner : Reader Unit) : Reader Unit := fun text => do
  match skip text with
  | '(' :: rest =>
    let (_, rest) ← inner (skip rest)
    let rest :=
      match skip rest with
      | ',' :: rest => skip rest
      | rest => rest
    let rest ← Reader.after [')'] rest
    return ((), rest)
  | rest => if bare then inner rest else none

/-- The words that are values by themselves and take no parentheses. -/
def plainWords : List (List Char) :=
  ["true", "false", "None", "inf", "-inf", "NaN"].map String.toList

/-- Reads any value.  `inner` reads one that is present, `item` those in brackets, if there may be
brackets. -/
def valueWith (bare : Bool) (inner : Reader Unit) (item : Option (Reader Unit)) : Reader Unit :=
  fun text =>
    match plainWords.findSome? fun word => afterWord word text with
    | some rest => some ((), rest)
    | none =>
      match afterWord ['S', 'o', 'm', 'e'] text, Reader.after ['(', ')'] text, identifier text with
      | some rest, _, _ => present bare inner rest
      | _, some rest, _ => some ((), rest)
      | _, _, some (_, rest) =>
        match skip rest with
        | '(' :: rest => item.bind fun item => group item rest
        | rest => some ((), rest)
      | none, none, none =>
        match text with
        | '(' :: rest => item.bind fun item => group item rest
        | '[' :: rest => item.bind fun item => closing ']' item rest
        | '\x7b' :: rest => item.bind fun item => closing '\x7d' (pair item fun _ => item) rest
        | '\'' :: _ => quotedChar text
        | '"' :: _ | 'r' :: _ => quotedText text
        | c :: _ =>
          if c.isDigit || c = '+' || c = '-' || c = '.' then number text else none
        | [] => none

/-- Reads any value.  Brackets take one level, each of their items takes another, and so does a
value that is present. -/
def anyValue (bare : Bool) : Nat → Reader Unit
  | 0 => valueWith bare noValue none
  | 1 => valueWith bare (anyValue bare 0) (some noValue)
  | levels + 2 => valueWith bare (anyValue bare (levels + 1)) (some (anyValue bare levels))

/-! ## Records -/

/-- The text after the name of a record, which may be left out. -/
def afterName? (name : String) (text : List Char) : Option (List Char) :=
  if text.head?.any isIdentifierChar then
    match identifier text with
    | some (found, rest) => if found = name then some rest else none
    | none => none
  else some text

/-- Reads a field: one of those expected, or any value under another name. -/
def field {α : Type} (expected : List (String × Reader α)) (other : Reader Unit) :
    Reader (Option (String × α)) :=
  pair identifier fun name text =>
    match expected.lookup name with
    | some value => (value text).map fun (a, rest) => (some (name, a), rest)
    | none => (other text).map fun (_, rest) => (none, rest)

/-- Reads a record: its name, if it is there, and its fields in parentheses.  A field that is
expected may come at most once. -/
def record {α : Type} (name : String) (expected : List (String × Reader α)) (other : Reader Unit) :
    Reader (List α) := fun text => do
  let rest ← afterName? name text
  let rest ← Reader.after ['('] (skip rest)
  let (fields, rest) ← (listShape ')').items (field expected other) true rest
  let given := fields.filterMap id
  if (given.map (·.1)).Nodup then return (given.map (·.2), rest) else none

/-! ## Documents -/

/-- Words that may be enabled at the beginning of a document.  Only the first changes how a value
that is not expected is read; the others are about values that settings never hold. -/
def extensions : List String := ["implicit_some", "unwrap_newtypes", "unwrap_variant_newtypes"]

/-- Reads an enabled word. -/
def extension : Reader String := fun text =>
  (identifier text).filter fun found => extensions.contains found.1

/-- The text after several words, with gaps after each. -/
def afterAll (words : List (List Char)) (text : List Char) : Option (List Char) :=
  words.foldlM (fun text word => (Reader.after word text).map skip) text

/-- Reads the words that one attribute enables, at least one. -/
def enabled : Reader (List String) := fun text => do
  let rest ← afterAll [['#'], ['!'], ['['], "enable".toList, ['(']] text
  let (first, rest) ← extension rest
  let (words, rest) ←
    match skip rest with
    | ',' :: rest => (listShape ')').items extension true rest
    | ')' :: rest => some ([], rest)
    | _ => none
  let rest ← Reader.after [']'] (skip rest)
  return (first :: words, rest)

/-- Reads attributes as long as there are any, and gives the words they enable. -/
def attributes (text : List Char) : Option (List String × List Char) :=
  match skip text with
  | '#' :: tail =>
    match enabled ('#' :: tail) with
    | none => none
    | some (words, rest) =>
      if rest.length < text.length then
        (attributes rest).map fun (more, rest) => (words ++ more, rest)
      else none
  | rest => some ([], rest)
termination_by text.length

/-- Reads a whole document.  `value` is told whether parentheses around a value that is present may
be left out. -/
def document? {α : Type} (value : Bool → Reader α) (text : List Char) : Option α := do
  let (words, rest) ← attributes text
  let (a, rest) ← value (words.contains "implicit_some") rest
  if (skip rest).isEmpty then some a else none

end Ron

end FramesInFlight
