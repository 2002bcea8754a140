/-!
# Keyed lists

Lists of pairs in which a key is meant to occur once, in the order the keys were first put there.
`List.lookup` finds the value under a key.
-/

namespace FramesInFlight

namespace Keyed

variable {α β : Type} [BEq α]

/-- The value under a key replaced, or put at the end. -/
def put (key : α) (value : β) : List (α × β) → List (α × β)
  | [] => [(key, value)]
  | (k, v) :: rest => if k == key then (key, value) :: rest else (k, v) :: put key value rest

/-- The entries under other keys. -/
def remove (key : α) (entries : List (α × β)) : List (α × β) :=
  entries.filter fun entry => entry.1 != key

/-- The value under a key made from the one that was there, if any; a new one goes to the end.
`none` when `make` refuses. -/
def change? (key : α) (make : Option β → Option β) : List (α × β) → Option (List (α × β))
  | [] => (make none).map fun value => [(key, value)]
  | (k, v) :: rest =>
    if k == key then (make (some v)).map fun value => (k, value) :: rest
    else (change? key make rest).map ((k, v) :: ·)

end Keyed

end FramesInFlight
