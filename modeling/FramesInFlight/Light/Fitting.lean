import FramesInFlight.Light.Basic

/-!
# Which lights fit

A light buffer has room for a counts record and for the records of some lights.  Lights are taken
kind by kind; when those of one kind do not all fit, as many of them as fit are taken and none of a
later kind.
-/

namespace FramesInFlight

/-- Put a value in the place of a kind. -/
def PerKind.set {α : Type} (p : PerKind α) (kind : LightKind) (a : α) : PerKind α :=
  match kind with
  | .ambient => { p with ambient := a }
  | .directional => { p with directional := a }
  | .point => { p with point := a }
  | .spot => { p with spot := a }

/-- The same value for every kind. -/
def PerKind.replicate {α : Type} (a : α) : PerKind α := ⟨a, a, a, a⟩

/-- Lights of some kinds, all together. -/
def PerKind.lightTotal (counts : PerKind Nat) (kinds : List LightKind) : Nat :=
  kinds.foldl (fun total kind => total + counts.get kind) 0

/-- Records that these numbers of lights take, the counts record not included. -/
def PerKind.recordTotal (counts : PerKind Nat) : Nat :=
  LightKind.all.foldl (fun total kind => total + counts.get kind * kind.recordCount) 0

/-- How many lights of each kind are taken and, if some are not, the kind of the first one left out
and the number left out. -/
structure Fitting where
  counts : PerKind Nat
  overflow : Option (LightKind × Nat)
  deriving DecidableEq, Repr

namespace Fitting

/-- Take lights of the kinds listed into `room` records, on top of the `counts` taken. -/
def take (available counts : PerKind Nat) : List LightKind → Nat → Fitting
  | [], _ => ⟨counts, none⟩
  | kind :: later, room =>
    let fit := min (available.get kind) (room / kind.recordCount)
    let counts := counts.set kind fit
    if fit < available.get kind then
      ⟨counts, some (kind, available.get kind - fit + available.lightTotal later)⟩
    else
      take available counts later (room - fit * kind.recordCount)

/-- Take lights into a buffer of `capacity` records, one of which carries the counts. -/
def ofCapacity (capacity : Nat) (available : PerKind Nat) : Fitting :=
  take available (.replicate 0) LightKind.all (capacity - 1)

end Fitting

end FramesInFlight
