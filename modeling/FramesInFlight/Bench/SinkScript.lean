import FramesInFlight.Light.ViewLights

/-!
# Scripts for the sink of notices

There is one sink for notices, and the first to ask for it keeps it.  A script asks for it again and
again while one is there, and makes a light state after each request: whatever the request comes to,
the notice of the light state still arrives.
-/

namespace FramesInFlight

/-- Ways to ask for the sink. -/
inductive SinkRequest where
  /-- Insist on being the first. -/
  | insist
  /-- Leave the sink to whoever has it. -/
  | yield
  deriving DecidableEq, Repr

/-- Whether a request goes well. -/
def SinkRequest.isGranted (taken : Bool) : SinkRequest → Bool
  | insist => !taken
  | yield => true

namespace SinkScript

/-- Whether each request goes well while the sink is taken. -/
def outcomes (requests : List SinkRequest) : List Bool := requests.map (·.isGranted true)

/-- Notices that arrive: the light state made after the first request has one record, the next one
two, and so on. -/
def notices (requests : List SinkRequest) : List Notice :=
  (List.range' 1 requests.length).flatMap fun records => ViewLights.creationNotices records 1

end SinkScript

end FramesInFlight
