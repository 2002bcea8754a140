/-!
# Collaborators

Transfer tasks and graphs are made elsewhere and only called by a frame loop.  A collaborator is
known by a name, which others may share, and by a number, which is its own.
-/

namespace FramesInFlight

/-- How a transfer task or a graph is known. -/
structure Collaborator where
  number : Nat
  name : String
  deriving DecidableEq, Repr, Inhabited

end FramesInFlight
