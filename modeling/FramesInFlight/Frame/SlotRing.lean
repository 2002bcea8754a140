/-!
# The ring of frame slots

A loop with `n` slots uses them in turn.  The ring keeps the slot in use and, for each of the last
`n` frames, the slot that frame used: entry `k` of the history is the slot of `k` frames ago, and is
empty while there was no such frame.
-/

namespace FramesInFlight

/-- The slot in use and the slots used before. -/
structure SlotRing where
  current : Option Nat
  history : List (Option Nat)
  deriving DecidableEq, Repr

namespace SlotRing

/-- A ring of `n` slots before the first frame. -/
def ofSize (n : Nat) : SlotRing := ⟨none, List.replicate n none⟩

/-- Number of slots. -/
def size (ring : SlotRing) : Nat := ring.history.length

/-- The slot of the frame after the current one: the first slot, or the one that follows. -/
def nextSlot (ring : SlotRing) : Nat :=
  match ring.current with
  | none => 0
  | some slot => (slot + 1) % ring.size

/-- Move on by one frame.  The first frame fills the newest entry of the history; every later one
pushes the oldest entry out. -/
def advance (ring : SlotRing) : SlotRing :=
  match ring.current with
  | none => ⟨some ring.nextSlot, some ring.nextSlot :: ring.history.tail⟩
  | some _ => ⟨some ring.nextSlot, some ring.nextSlot :: ring.history.dropLast⟩

/-- The slot used `k` frames ago. -/
def slot? (ring : SlotRing) (k : Nat) : Option Nat := (ring.history[k]?).join

end SlotRing

end FramesInFlight
