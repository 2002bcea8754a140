/-!
# Descriptor sets

Layouts, pools and writes of descriptor sets whose bindings are uniform buffers.
-/

namespace FramesInFlight

/-- Number of the descriptor type of uniform buffers. -/
def uniformBufferType : Nat := 6

/-- One binding of a descriptor set layout; each is a single uniform buffer. -/
structure LayoutBinding where
  binding : Nat
  stages : Nat
  type : Nat := uniformBufferType
  count : Nat := 1
  deriving DecidableEq, Repr

/-- A range of a buffer written to a binding of a descriptor set. -/
structure BufferWrite where
  binding : Nat
  buffer : Nat
  offset : Nat
  range : Nat
  deriving DecidableEq, Repr

/-- What a pool is made for: a number of sets, and buffers for all of them together. -/
structure PoolShape where
  maxSets : Nat
  buffers : Nat
  deriving DecidableEq, Repr

/-- The pool for `maxSets` sets of up to `perSet` buffers each. -/
def PoolShape.ofSets (maxSets perSet : Nat) : PoolShape := ⟨maxSets, maxSets * perSet⟩

/-- A request to bind descriptor sets while recording. -/
structure SetBinding where
  bindPoint : Int
  layout : Nat
  firstSet : Nat
  sets : List Nat
  deriving DecidableEq, Repr

end FramesInFlight
