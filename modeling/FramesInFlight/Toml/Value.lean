import FramesInFlight.Keyed

/-!
# Values and tables of TOML

A document is a table: keys with values, some of which are tables again.  A table remembers how it
came about, because that decides how it may still grow: each table may be defined once, by one
header, or by dotted keys, or in one piece between braces.

* `assign?` adds a value under a dotted key.
* `openTable?` and `openElement?` are what the headers of a table and of an array of tables do.
* `within?` acts on the table that a header opened.
-/

namespace FramesInFlight

namespace Toml

/-- How a table came about. -/
inductive Origin where
  /-- By a header of its own. -/
  | header
  /-- By a header that names something inside it. -/
  | implied
  /-- By a dotted key that names something inside it. -/
  | dotted
  /-- Between braces. -/
  | inline
  deriving DecidableEq, Repr

/-- A value.  Of numbers with a fraction only the kind is kept, and of dates and times. -/
inductive Value where
  | integer (n : Int)
  | real
  | boolean (b : Bool)
  | text (chars : List Char)
  | moment
  | array (items : List Value)
  | table (origin : Origin) (entries : List (String × Value))
  /-- An array of tables opened by headers, seen through its latest element; the elements before it
  cannot change any more. -/
  | tables (latest : List (String × Value))

/-- The contents of a table. -/
abbrev Entries : Type := List (String × Value)

/-- Add a value under a dotted key, making the tables on the way.  The key has to be new.  A table
on the way must have come about by dotted keys, or, unless the value goes right into it, by a header
that implied it or that opened an element of an array. -/
def assign? (value : Value) : List String → Entries → Option Entries
  | [], _ => none
  | [key], entries =>
    match entries.lookup key with
    | some _ => none
    | none => some (entries ++ [(key, value)])
  | key :: inner :: path, entries =>
    let make (old : Option Value) : Option Value :=
      match old with
      | none => (assign? value (inner :: path) []).map (.table .dotted)
      | some (.table .dotted entries) =>
        (assign? value (inner :: path) entries).map (.table .dotted)
      | some (.table .implied entries) =>
        if path.isEmpty then none
        else (assign? value (inner :: path) entries).map (.table .implied)
      | some (.tables entries) =>
        if path.isEmpty then none else (assign? value (inner :: path) entries).map .tables
      | some _ => none
    Keyed.change? key make entries

/-- The table with these dotted keys and their values, in this order. -/
def ofPairs? (pairs : List (List String × Value)) : Option Entries :=
  pairs.foldlM (fun entries (key, value) => assign? value key entries) []

/-- Change what stands at the end of a header's path, making the tables on the way.  A path leads
through the latest element of an array of tables, and never through a table between braces. -/
def reach? (make : Option Value → Option Value) : List String → Entries → Option Entries
  | [], _ => none
  | [key], entries => Keyed.change? key make entries
  | key :: inner :: path, entries =>
    let through (old : Option Value) : Option Value :=
      match old with
      | none => (reach? make (inner :: path) []).map (.table .implied)
      | some (.table .inline _) => none
      | some (.table origin entries) =>
        (reach? make (inner :: path) entries).map (.table origin)
      | some (.tables entries) => (reach? make (inner :: path) entries).map .tables
      | some _ => none
    Keyed.change? key through entries

/-- Define the table at a path.  It may be there already only if a header implied it. -/
def openTable? : List String → Entries → Option Entries :=
  reach? fun
    | none => some (.table .header [])
    | some (.table .implied entries) => some (.table .header entries)
    | some _ => none

/-- Begin an element of the array of tables at a path. -/
def openElement? : List String → Entries → Option Entries :=
  reach? fun
    | none => some (.tables [])
    | some (.tables _) => some (.tables [])
    | some _ => none

/-- Change the contents of the table at a path; the empty path leads to the document itself. -/
def within? (change : Entries → Option Entries) (path : List String) (entries : Entries) :
    Option Entries :=
  if path.isEmpty then change entries
  else
    reach? (fun
      | some (.table origin entries) => (change entries).map (.table origin)
      | some (.tables entries) => (change entries).map .tables
      | _ => none) path entries

end Toml

end FramesInFlight
