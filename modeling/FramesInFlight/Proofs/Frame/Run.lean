import Mathlib.Data.List.Induction
import Mathlib.Data.List.Infix
import FramesInFlight.Bench.Basic
import FramesInFlight.Proofs.Frame.Phases

/-!
# Runs of a frame loop

What an application can do with a frame loop is an `Operation`.  A run performs operations one after
the other, whatever the earlier ones ended with, in surroundings that may answer every call as they
like.  `FrameLoop.submit` is one operation, and so is each phase of it, since an application may
also run the phases one by one, in any order.

A run leaves a history with a `Turn` for each operation: the loop that the operation found, and what
it asked of others.  The trace of a history has every event of it, in order, together with the turn
it belongs to.

`run_induction` is the one induction over runs: what holds before the first operation and is kept by
each holds of the history and the stage of every run.  Where it needs a loop to start from, that is a
loop as `FrameLoop.create` makes it, of which `FrameLoop.IsNew` says all that the inductions use.
-/

namespace FramesInFlight

variable {σ : Type}

/-! ## Operations -/

/-- What an application adds to a loop. -/
inductive Attachment where
  | graph (graph : Graph)
  | window (window : String)
  | wait (semaphore : Semaphore)
  | signal (semaphore : Semaphore)
  | pager (pager : Nat)

/-- A loop with an attachment added. -/
def FrameLoop.add (loop : FrameLoop) : Attachment → FrameLoop
  | .graph graph => loop.addGraph graph
  | .window window => loop.addWindow window
  | .wait semaphore => loop.addWait semaphore
  | .signal semaphore => loop.addSignal semaphore
  | .pager pager => loop.setPager pager

/-- What an application does with a loop. -/
inductive Operation where
  | advance
  | submit (time : FrameTime)
  | add (attachment : Attachment)
  /-- The first phase alone. -/
  | start
  /-- The graphs alone, into a collection that may have buffers already. -/
  | record (collection : List CommandBuffer) (time : FrameTime)
  /-- The last phases alone, for a collection from anywhere. -/
  | finish (recorded : List CommandBuffer)
  /-- A transfer task run by hand. -/
  | transfer (phase : Phase)
  /-- A transfer task put on a lane. -/
  | attach (phase : Phase) (task : Transfer)
  /-- Whatever else is done to a transfer task by hand. -/
  | editTask (phase : Phase) (edit : Transfer → Transfer)
  /-- Whatever is done to the graphs by hand. -/
  | editGraphs (edit : List Graph → List Graph)

namespace Operation

/-- Operations that run whole frames or add something to the loop: the phases and the transfer tasks
are left to the loop. -/
def isFrame : Operation → Bool
  | advance | submit _ | add _ => true
  | _ => false

/-- The same, or a transfer task is put on a lane: the phases are left to the loop. -/
def isWhole : Operation → Bool
  | attach _ _ => true
  | operation => operation.isFrame

/-- Perform an operation.  What it answers does not matter to the ones after it. -/
def perform (env : Surroundings σ) (stage : Stage σ) : Operation → Stage σ
  | advance => stage.advance
  | submit time => (FrameLoop.submit env time stage).2
  | add attachment => { stage with loop := stage.loop.add attachment }
  | start => (FrameLoop.start env stage).2
  | record collection time => (FrameLoop.record env time { stage with recorded := collection }).2
  | finish recorded => (FrameLoop.finish env recorded stage).2
  | transfer phase => (FrameLoop.transfer env phase stage).2
  | attach phase task => { stage with loop := stage.loop.attach phase task }
  | editTask phase edit => { stage with loop := stage.loop.mapTask phase edit }
  | editGraphs edit => { stage with loop := { stage.loop with graphs := edit stage.loop.graphs } }

end Operation

/-- Most operations change the lanes and the fences of a loop, and nothing else. -/
theorem Operation.perform_frame (env : Surroundings σ) (stage : Stage σ) (operation : Operation) :
    operation = .advance ∨ (∃ attachment, operation = .add attachment) ∨
      (∃ edit, operation = .editGraphs edit) ∨
      ∃ early late fences, (operation.perform env stage).loop =
        { stage.loop with early := early, late := late, fences := fences } := by
  cases operation with
  | advance => exact Or.inl rfl
  | add attachment => exact Or.inr (Or.inl ⟨attachment, rfl⟩)
  | editGraphs edit => exact Or.inr (Or.inr (Or.inl ⟨edit, rfl⟩))
  | submit time =>
    obtain ⟨_, _, hsubmit⟩ := FrameLoop.submit_goes env time stage
    exact Or.inr (Or.inr (Or.inr hsubmit.frame))
  | start =>
    obtain ⟨_, _, hstart⟩ := FrameLoop.start_goes env stage
    exact Or.inr (Or.inr (Or.inr hstart.frame))
  | record collection time =>
    obtain ⟨_, _, _, _, _, hloop, _⟩ :=
      FrameLoop.recordGraphs_goes env time stage.loop.pager stage.loop.graphs
        { stage with recorded := collection }
    exact Or.inr (Or.inr (Or.inr ⟨_, _, _, hloop⟩))
  | finish recorded =>
    obtain ⟨_, _, hfinish⟩ := FrameLoop.finish_goes env recorded stage
    exact Or.inr (Or.inr (Or.inr hfinish.frame))
  | transfer phase =>
    obtain ⟨_, _, htransfer⟩ := FrameLoop.transfer_goes env phase stage
    obtain ⟨_, _, hloop⟩ := htransfer.frame
    exact Or.inr (Or.inr (Or.inr ⟨_, _, _, hloop⟩))
  | attach phase task =>
    cases phase <;> exact Or.inr (Or.inr (Or.inr ⟨_, _, _, rfl⟩))
  | editTask phase edit =>
    cases phase <;> exact Or.inr (Or.inr (Or.inr ⟨_, _, _, rfl⟩))

/-! ## Events by what they say -/

namespace Event

/-- The fence that a wait, a reset or a batch is about. -/
def fence? : Event → Option Nat
  | fenceWaited _ fence _ _ => some fence
  | fenceReset _ fence _ => some fence
  | submitted _ _ _ fence _ => some fence
  | _ => none

/-- A fence is waited for. -/
def isWait : Event → Bool
  | fenceWaited .. => true
  | _ => false

/-- A fence was waited for, and what it guards is done. -/
def isFinishedWait : Event → Bool
  | fenceWaited _ _ _ (.ok _) => true
  | _ => false

/-- A fence was reset. -/
def isFinishedReset : Event → Bool
  | fenceReset _ _ (.ok _) => true
  | _ => false

/-- A batch is handed to the queue. -/
def isHanded : Event → Bool
  | submitted .. => true
  | _ => false

/-- A batch was handed to the queue, and the queue accepted it. -/
def isAccepted : Event → Bool
  | submitted _ _ _ _ (.ok _) => true
  | _ => false

/-- A semaphore is given to a transfer task. -/
def isGiven : Event → Bool
  | waitGiven .. => true
  | _ => false

/-- The transfer task that was run and what it answered. -/
def transfer? : Event → Option (Collaborator × Except Failure TransferReport)
  | transferred task answer => some (task, answer)
  | _ => none

/-- What a graph recorded. -/
def recordedBuffers : Event → List CommandBuffer
  | recorded _ _ _ (.ok buffers) => buffers
  | _ => []

/-- An event that is about no fence says nothing of waits, resets or batches. -/
theorem of_fence?_eq_none {event : Event} (hnone : event.fence? = none) :
    event.isWait = false ∧ event.isFinishedReset = false ∧ event.isHanded = false ∧
      event.isAccepted = false := by
  cases event <;> first | exact ⟨rfl, rfl, rfl, rfl⟩ | cases hnone

theorem eq_submitted_of_isAccepted {event : Event} (haccepted : event.isAccepted = true) :
    ∃ provider queue batch fence, event = .submitted provider queue batch fence (.ok ()) := by
  cases event with
  | submitted _ _ _ _ answer =>
    cases answer with
    | error _ => cases haccepted
    | ok _ => exact ⟨_, _, _, _, rfl⟩
  | _ => cases haccepted

theorem isHanded_of_isAccepted {event : Event} (haccepted : event.isAccepted = true) :
    event.isHanded = true := by
  obtain ⟨_, _, _, _, rfl⟩ := eq_submitted_of_isAccepted haccepted
  rfl

end Event

/-! ## Histories -/

/-- One operation of a run: the loop it found and what it asked of others. -/
structure Turn where
  operation : Operation
  loop : FrameLoop
  events : List Event

namespace Turn

/-- The slot in use. -/
def slot (turn : Turn) : Option Nat := turn.loop.slot? 0

/-- The snapshot of what was recorded that a batch of this turn is made from: the collection that
was finished or, in a whole frame, what the graphs recorded in this turn. -/
def collected (turn : Turn) : List CommandBuffer :=
  match turn.operation with
  | .finish recorded => recorded
  | _ => turn.events.flatMap Event.recordedBuffers

end Turn

namespace Stage

/-- The turn that an operation takes. -/
def turn (env : Surroundings σ) (stage : Stage σ) (operation : Operation) : Turn where
  operation := operation
  loop := stage.loop
  events := (operation.perform env stage).world.events.drop stage.world.events.length

/-- The stage after some operations. -/
def run (env : Surroundings σ) (stage : Stage σ) (operations : List Operation) : Stage σ :=
  operations.foldl (Operation.perform env) stage

/-- The turns that some operations take. -/
def history (env : Surroundings σ) (stage : Stage σ) : List Operation → List Turn
  | [] => []
  | operation :: later =>
    stage.turn env operation :: history env (operation.perform env stage) later

/-- The events of a turn are those that its operation added. -/
theorem turn_events (env : Surroundings σ) (stage : Stage σ) (operation : Operation)
    {events : List Event}
    (hevents : (operation.perform env stage).world.events = stage.world.events ++ events) :
    (stage.turn env operation).events = events := by
  rw [turn, hevents, List.drop_left]

theorem run_concat (env : Surroundings σ) (stage : Stage σ) (operations : List Operation)
    (last : Operation) :
    stage.run env (operations ++ [last]) = last.perform env (stage.run env operations) := by
  rw [run, List.foldl_append]
  rfl

theorem history_concat (env : Surroundings σ) (stage : Stage σ) (operations : List Operation)
    (last : Operation) :
    stage.history env (operations ++ [last]) =
      stage.history env operations ++ [(stage.run env operations).turn env last] := by
  induction operations generalizing stage with
  | nil => rfl
  | cons operation later ih =>
    rw [List.cons_append, history, ih, history]
    rfl

/-- A history has a turn for each operation. -/
theorem history_operations (env : Surroundings σ) (stage : Stage σ) (operations : List Operation) :
    (stage.history env operations).map (·.operation) = operations := by
  induction operations generalizing stage with
  | nil => rfl
  | cons operation later ih =>
    rw [history, List.map_cons, ih]
    rfl

/-- What holds at first and is kept by each operation holds after every run.  The history grows at
its end, so the induction takes the last operation away first. -/
theorem run_induction {env : Surroundings σ} {first : Stage σ} {operations : List Operation}
    {motive : List Turn → Stage σ → Prop} (nil : motive [] first)
    (step : ∀ turns stage operation, operation ∈ operations → motive turns stage →
      motive (turns ++ [stage.turn env operation]) (operation.perform env stage)) :
    motive (first.history env operations) (first.run env operations) := by
  induction operations using List.reverseRecOn with
  | nil => exact nil
  | append_singleton operations last ih =>
    rw [run_concat, history_concat]
    refine step _ _ last (by simp) (ih fun turns stage operation hmem => ?_)
    exact step turns stage operation (List.mem_append_left _ hmem)

end Stage

/-! ## Traces -/

/-- An event and the turn it belongs to. -/
structure Entry where
  turn : Turn
  event : Event

namespace Entry

/-- The slot in use. -/
def slot (entry : Entry) : Option Nat := entry.turn.slot

end Entry

/-- The events of a turn, each with the turn. -/
def Turn.entries (turn : Turn) : List Entry := turn.events.map (Entry.mk turn)

/-- The events of a history, each with its turn. -/
def trace (turns : List Turn) : List Entry := turns.flatMap Turn.entries

theorem trace_concat (turns : List Turn) (turn : Turn) :
    trace (turns ++ [turn]) = trace turns ++ turn.events.map (Entry.mk turn) := by
  simp [trace, Turn.entries]

/-! ## New loops -/

/-- A loop as it was made: no frame yet, nothing attached, and fences that hold nothing. -/
structure FrameLoop.IsNew (loop : FrameLoop) (slots : Nat) : Prop where
  positive : 0 < slots
  ring : loop.ring = .ofSize slots
  fences : loop.fences.length = slots
  free : ∀ fence ∈ loop.fences, fence.buffers = [] ∧ fence.semaphores = []
  signals : loop.signals = []

theorem FrameLoop.makeFences_new (device : Device σ) {made fences : List Fence} {n : Nat}
    {world : World σ} (hmade : ∀ fence ∈ made, fence.buffers = [] ∧ fence.semaphores = [])
    (hfences : (makeFences device made n world).1 = .ok fences) :
    fences.length = made.length + n ∧
      ∀ fence ∈ fences, fence.buffers = [] ∧ fence.semaphores = [] := by
  induction n generalizing made world with
  | zero =>
    cases hfences
    exact ⟨rfl, hmade⟩
  | succ n ih =>
    rw [makeFences] at hfences
    rcases hcreate : device.createFence world.state with ⟨status | handle, state⟩
    · simp [Device.fence, World.ask, hcreate, Except.map] at hfences
    · simp only [Device.fence, World.ask, hcreate, Except.map] at hfences
      have hmore := ih (fun fence hmem => ?_) hfences
      · rw [List.length_append, List.length_singleton] at hmore
        exact ⟨by omega, hmore.2⟩
      · rcases List.mem_append.mp hmem with hmem | hmem
        · exact hmade fence hmem
        · rw [List.mem_singleton] at hmem
          subst hmem
          exact ⟨rfl, rfl⟩

/-- Creating a loop, when nothing fails, makes a new one with as many slots as the settings say. -/
theorem FrameLoop.create_new (device : Device σ) {queue : Nat} {settings : FrameSettings}
    {world : World σ} {loop : FrameLoop}
    (hmade : (create device queue settings world).1 = .ok loop) :
    loop.IsNew settings.numBuffers.toNat := by
  unfold create at hmade
  split at hmade
  · cases hmade
  rename_i hvalid
  have hpositive : 0 < settings.numBuffers.toNat := by
    by_contra hzero
    have hnone : settings.numBuffers = 0 := UInt64.toNat_inj.mp (by simpa using hzero)
    simp [FrameSettings.validate, hnone] at hvalid
  dsimp only at hmade
  split at hmade
  · cases hmade
  rename_i fences _ hfences
  split at hmade
  · cases hmade
  split at hmade
  · cases hmade
  cases hmade
  have hnew := makeFences_new device (by simp) (congrArg Prod.fst hfences)
  exact ⟨hpositive, rfl, by simpa using hnew.1, hnew.2, rfl⟩

/-- The new loop with two slots that a bench makes. -/
def Bench.newLoop : FrameLoop where
  ring := .ofSize 2
  fences := [{ handle := 1 }, { handle := 2 }]
  queue := 7
  early := { consumed := ⟨1000, .transfer, .bench⟩ }
  late := { consumed := ⟨1001, .transfer, .bench⟩ }
  timeout := 18446744073709551615
  idleSleep := 16

theorem Bench.newLoop_made :
    (FrameLoop.create (device .bench) 7 (.ofSlots 2) { state := {} }).1 = .ok newLoop := rfl

end FramesInFlight
