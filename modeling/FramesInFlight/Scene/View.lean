/-!
# Views and their bins

What a view draws is sorted into bins.  A bin's number fixes how its content is sorted: negative
bins nearest first, bin zero not at all, positive bins farthest first.
-/

namespace FramesInFlight

/-- Ways to sort the content of a bin. -/
inductive SortOrder where
  /-- Nearest first. -/
  | ascending
  /-- In the order of traversal. -/
  | unsorted
  /-- Farthest first. -/
  | descending
  deriving DecidableEq, Repr

namespace SortOrder

/-- The order of the bin with number `n`. -/
def ofNumber (n : Int) : SortOrder :=
  if n < 0 then ascending else if n = 0 then unsorted else descending

/-- The name of an order. -/
def text : SortOrder → String
  | ascending => "Ascending"
  | unsorted => "NoSort"
  | descending => "Descending"

end SortOrder

/-- A bin of a view. -/
structure Bin where
  number : Int
  order : SortOrder
  deriving DecidableEq, Repr

/-- The bin with number `n`, sorted as its number says. -/
def Bin.ofNumber (n : Int) : Bin := ⟨n, .ofNumber n⟩

/-- A view, as far as scene changes touch it. -/
structure View where
  bins : List Bin := []
  deriving DecidableEq, Repr, Inhabited

namespace View

/-- Whether the view has a bin with number `n`. -/
def hasBin (view : View) (n : Int) : Bool := view.bins.any (·.number == n)

/-- Add the bin with number `n`, unless there is one. -/
def require (view : View) (n : Int) : View :=
  if view.hasBin n then view else { view with bins := view.bins ++ [.ofNumber n] }

/-- Add the bins of `numbers` that are missing, one after the other. -/
def requireAll (view : View) (numbers : List Int) : View := numbers.foldl require view

/-- Those of `numbers` that get a bin, in the order they get it. -/
def missing (view : View) : List Int → List Int
  | [] => []
  | n :: rest => if view.hasBin n then view.missing rest else n :: (view.require n).missing rest

end View

/-- Insert a number into an ascending list without repetition. -/
def insertAscending (n : Int) : List Int → List Int
  | [] => [n]
  | m :: rest =>
    if n < m then n :: m :: rest else if n = m then m :: rest else m :: insertAscending n rest

/-- The numbers of a list, each once, in ascending order. -/
def ascendingSet (numbers : List Int) : List Int := numbers.foldr insertAscending []

end FramesInFlight
