import FramesInFlight.Frame.Protocol

/-!
# How the phases of a frame can go

`FrameLoop.submit` chains the phases of a frame, and any call to the surroundings can end it.  This
module says once, for each phase, in which ways it can go.  A way gives the answer, the loop that is
left and the events, that is, what was asked of others and what they answered.  Later modules cite
these relations and never unfold a phase.

* `Started`, `Transferred`, `Recorded`, `Finished` and `Submitted` are the relations, one
  constructor for each way to go.  A constructor also keeps the call of the surroundings that gave
  the answer.
* `start_goes`, `transfer_goes`, `recordGraphs_goes`, `finish_goes` and `submit_goes` say that each
  phase goes one of these ways, from any stage.
* `Started.mem` and its like say what kinds of events a phase can have, and `Started.frame` and its
  like say what it can change of a loop.

The relations speak of loops and events only.  The state of the surroundings and the notices are
left out, since no phase reads a notice and nothing is known of the state.
-/

namespace FramesInFlight

variable {σ α β : Type}

/-! ## Running pieces -/

/-- A stage after the surroundings moved on to `state` and `event` was noted. -/
def Stage.noting (stage : Stage σ) (state : σ) (event : Event) : Stage σ :=
  { stage with world := { stage.world with state := state }.emit event }

@[simp] theorem Stage.noting_loop (stage : Stage σ) (state : σ) (event : Event) :
    (stage.noting state event).loop = stage.loop := rfl

@[simp] theorem Stage.noting_recorded (stage : Stage σ) (state : σ) (event : Event) :
    (stage.noting state event).recorded = stage.recorded := rfl

@[simp] theorem Stage.noting_events (stage : Stage σ) (state : σ) (event : Event) :
    (stage.noting state event).world.events = stage.world.events ++ [event] := rfl

namespace Frame

/-- A piece run from `stage` ends with an answer and a stage of which `post` holds. -/
def Ends (piece : Frame σ α) (stage : Stage σ) (post : Except Failure α → Stage σ → Prop) : Prop :=
  post (piece stage).1 (piece stage).2

/-- A piece goes as `Course` says: from any stage it notes some events after those already there,
and `Course` relates the loop at the start, the answer, the loop that is left and these events. -/
def Goes (piece : Frame σ α)
    (Course : FrameLoop → Except Failure α → FrameLoop → List Event → Prop) : Prop :=
  ∀ stage, piece.Ends stage fun answer stage' =>
    ∃ events, stage'.world.events = stage.world.events ++ events ∧
      Course stage.loop answer stage'.loop events

section Rules

variable {stage : Stage σ} {post : Except Failure α → Stage σ → Prop}

theorem ends_pure {a : α} : (pure a : Frame σ α).Ends stage post ↔ post (.ok a) stage := Iff.rfl

theorem ends_fail {failure : Failure} :
    (fail failure : Frame σ α).Ends stage post ↔ post (.error failure) stage := Iff.rfl

theorem ends_stage {post : Except Failure (Stage σ) → Stage σ → Prop} :
    Frame.stage.Ends stage post ↔ post (.ok stage) stage := Iff.rfl

theorem ends_change {f : Stage σ → Stage σ} {post : Except Failure Unit → Stage σ → Prop} :
    (change f).Ends stage post ↔ post (.ok ()) (f stage) := Iff.rfl

theorem ends_notice {notice : Notice} {post : Except Failure Unit → Stage σ → Prop} :
    (Frame.notice notice).Ends stage post ↔
      post (.ok ()) { stage with world := stage.world.notice notice } := Iff.rfl

/-- Asking ends with what the surroundings answer, and notes the answer as an event. -/
theorem ends_ask {act : σ → Except Failure α × σ} {event : Except Failure α → Event} :
    (ask fun world => world.ask act event).Ends stage post ↔
      (∀ a state, act stage.world.state = (.ok a, state) →
        post (.ok a) (stage.noting state (event (.ok a)))) ∧
      ∀ failure state, act stage.world.state = (.error failure, state) →
        post (.error failure) (stage.noting state (event (.error failure))) := by
  unfold Ends
  rcases hact : act stage.world.state with ⟨failure | a, state⟩
  · simp [ask, World.ask, hact, Stage.noting]
  · simp [ask, World.ask, hact, Stage.noting]

theorem ends_wait (device : Device σ) (fence : Fence) (timeout : Nat)
    {post : Except Failure Unit → Stage σ → Prop} :
    (ask (device.wait fence timeout)).Ends stage post ↔
      (∀ a state, device.waitFence fence.handle timeout stage.world.state = (.ok a, state) →
        post (.ok a) (stage.noting state
          (.fenceWaited fence.provider fence.handle timeout (.ok a)))) ∧
      ∀ failure state,
        device.waitFence fence.handle timeout stage.world.state = (.error failure, state) →
        post (.error failure) (stage.noting state
          (.fenceWaited fence.provider fence.handle timeout (.error failure))) := ends_ask

theorem ends_reset (device : Device σ) (fence : Fence)
    {post : Except Failure Unit → Stage σ → Prop} :
    (ask (device.reset fence)).Ends stage post ↔
      (∀ a state, device.resetFence fence.handle stage.world.state = (.ok a, state) →
        post (.ok a) (stage.noting state (.fenceReset fence.provider fence.handle (.ok a)))) ∧
      ∀ failure state, device.resetFence fence.handle stage.world.state = (.error failure, state) →
        post (.error failure) (stage.noting state
          (.fenceReset fence.provider fence.handle (.error failure))) := ends_ask

theorem ends_enqueue (device : Device σ) (queue : Nat) (batch : Batch) (fence : Nat)
    {post : Except Failure Unit → Stage σ → Prop} :
    (ask (device.enqueue queue batch fence)).Ends stage post ↔
      (∀ a state, device.submit batch fence stage.world.state = (.ok a, state) →
        post (.ok a) (stage.noting state
          (.submitted device.provider queue batch fence (.ok a)))) ∧
      ∀ failure state, device.submit batch fence stage.world.state = (.error failure, state) →
        post (.error failure) (stage.noting state
          (.submitted device.provider queue batch fence (.error failure))) := ends_ask

/-- The second of two pieces runs from where the first one ends, unless that failed. -/
theorem ends_bind {piece : Frame σ β} {next : β → Frame σ α} :
    (piece >>= next).Ends stage post ↔
      piece.Ends stage fun answer stage' =>
        match answer with
        | .ok b => (next b).Ends stage' post
        | .error failure => post (.error failure) stage' := by
  change post (Frame.bind piece next stage).1 (Frame.bind piece next stage).2 ↔ _
  unfold Ends Frame.bind
  rcases piece stage with ⟨_ | b, stage'⟩
  · exact Iff.rfl
  · exact Iff.rfl

theorem Ends.mono {piece : Frame σ α} {post' : Except Failure α → Stage σ → Prop}
    (hpiece : piece.Ends stage post)
    (himp : ∀ answer stage', post answer stage' → post' answer stage') :
    piece.Ends stage post' := himp _ _ hpiece

end Rules

end Frame

/-! ## Lanes and tasks -/

/-- A lane with the copy of the previous frame forgotten. -/
def Lane.cleared (lane : Lane) : Lane :=
  { lane with task := lane.task.map fun task => { task with completed := none } }

theorem Lane.cleared_cleared (lane : Lane) : lane.cleared.cleared = lane.cleared := by
  simp [cleared, Option.map_map, Function.comp_def]

/-- A task after one more semaphore was given to it. -/
def Transfer.given (semaphore : Semaphore) (task : Transfer) : Transfer :=
  { task with waits := task.waits ++ [semaphore] }

/-- A task after a copy that published `published`. -/
def Transfer.publishing (published : Option Semaphore) (task : Transfer) : Transfer :=
  { task with completed := published }

namespace FrameLoop

/-- A loop with the copies of the previous frame forgotten. -/
def cleared (loop : FrameLoop) : FrameLoop :=
  { loop with early := loop.early.cleared, late := loop.late.cleared }

/-- What forgetting them asks of the tasks. -/
def clearEvents (loop : FrameLoop) : List Event :=
  loop.early.task.toList.map (fun task => .transferCleared task.toCollaborator) ++
    loop.late.task.toList.map (fun task => .transferCleared task.toCollaborator)

/-- A loop after the task of a phase was told that its copy is consumed, if there is a copy. -/
def tellConsumed (loop : FrameLoop) (phase : Phase) : FrameLoop :=
  match (loop.lane phase).signal with
  | none => loop
  | some consumed => loop.mapTask phase (Transfer.given consumed)

/-- What telling it asks of the task. -/
def consumedEvents (loop : FrameLoop) (phase : Phase) : List Event :=
  match (loop.lane phase).signal with
  | none => []
  | some consumed =>
    (loop.lane phase).task.toList.map fun task => .waitGiven task.toCollaborator consumed

/-- A loop after the queue accepted a batch made of `recorded`. -/
def afterAccepted (loop : FrameLoop) (slot : Nat) (recorded : List CommandBuffer) : FrameLoop :=
  ((loop.mapFence slot (·.hold recorded loop.signals)).tellConsumed .early).tellConsumed .late

theorem cleared_cleared (loop : FrameLoop) : loop.cleared.cleared = loop.cleared := by
  simp [cleared, Lane.cleared_cleared]

theorem cleared_lane (loop : FrameLoop) (phase : Phase) :
    loop.cleared.lane phase = (loop.lane phase).cleared := by cases phase <;> rfl

/-- Clearing forgets what a copy published. -/
theorem cleared_publishing (loop : FrameLoop) (phase : Phase) (published : Option Semaphore) :
    (loop.mapTask phase (Transfer.publishing published)).cleared = loop.cleared := by
  cases phase <;>
    simp [cleared, mapTask, Lane.cleared, Transfer.publishing, Option.map_map, Function.comp_def]

theorem mapTask_of_absent {loop : FrameLoop} {phase : Phase} (f : Transfer → Transfer)
    (habsent : (loop.lane phase).task = none) : loop.mapTask phase f = loop := by
  obtain ⟨_, _, _, ⟨_, _⟩, ⟨_, _⟩⟩ := loop
  cases phase <;> simp_all [mapTask, lane]

end FrameLoop

namespace Stage

theorem onTask_loop (stage : Stage σ) (phase : Phase) (f : Transfer → Transfer)
    (event : Collaborator → Event) :
    (stage.onTask phase f event).loop = stage.loop.mapTask phase f := by
  unfold onTask
  split
  · rename_i habsent
    rw [FrameLoop.mapTask_of_absent f habsent]
  · rfl

theorem onTask_events (stage : Stage σ) (phase : Phase) (f : Transfer → Transfer)
    (event : Collaborator → Event) :
    (stage.onTask phase f event).world.events =
      stage.world.events ++
        (stage.loop.lane phase).task.toList.map fun task => event task.toCollaborator := by
  unfold onTask
  split
  · rename_i habsent
    simp [habsent]
  · rename_i task htask
    simp [htask, World.emit]

theorem clearCompleted_loop (stage : Stage σ) :
    stage.clearCompleted.loop = stage.loop.cleared := by
  unfold clearCompleted
  rw [onTask_loop, onTask_loop]
  rfl

theorem clearCompleted_events (stage : Stage σ) :
    stage.clearCompleted.world.events = stage.world.events ++ stage.loop.clearEvents := by
  unfold clearCompleted
  rw [onTask_events, onTask_events, onTask_loop, List.append_assoc]
  rfl

theorem giveConsumed_loop (stage : Stage σ) (phase : Phase) :
    (stage.giveConsumed phase).loop = stage.loop.tellConsumed phase := by
  unfold giveConsumed FrameLoop.tellConsumed
  rcases (stage.loop.lane phase).signal with _ | consumed
  · rfl
  · exact onTask_loop ..

theorem giveConsumed_events (stage : Stage σ) (phase : Phase) :
    (stage.giveConsumed phase).world.events =
      stage.world.events ++ stage.loop.consumedEvents phase := by
  unfold giveConsumed FrameLoop.consumedEvents
  rcases (stage.loop.lane phase).signal with _ | consumed
  · exact (List.append_nil _).symm
  · exact onTask_events ..

/-- An advance changes the ring of a loop. -/
theorem advance_loop (stage : Stage σ) :
    stage.advance.loop = { stage.loop with ring := stage.loop.ring.advance } := by
  unfold advance
  rw [onTask_loop, onTask_loop]
  simp [FrameLoop.mapTask]

/-- An advance only tells the tasks of it. -/
theorem advance_events (stage : Stage σ) :
    ∃ events, stage.advance.world.events = stage.world.events ++ events ∧
      ∀ event ∈ events, ∃ task, event = .transferAdvanced task := by
  unfold advance
  rw [onTask_events, onTask_events, List.append_assoc]
  refine ⟨_, rfl, fun event hmem => ?_⟩
  simp only [List.mem_append, List.mem_map] at hmem
  rcases hmem with ⟨_, _, rfl⟩ | ⟨_, _, rfl⟩
  · exact ⟨_, rfl⟩
  · exact ⟨_, rfl⟩

/-- Resting changes the state of the surroundings and nothing else. -/
theorem rest_loop (env : Surroundings σ) (stage : Stage σ) :
    (stage.rest env).loop = stage.loop := by
  unfold rest
  split <;> rfl

theorem rest_events (env : Surroundings σ) (stage : Stage σ) :
    (stage.rest env).world.events = stage.world.events := by
  unfold rest
  split <;> rfl

end Stage

/-! ## The ways to go -/

section Ways

variable (env : Surroundings σ)

/-- The ways a start can go. -/
inductive Started (loop : FrameLoop) : Except Failure Unit → FrameLoop → List Event → Prop
  /-- There was no advance yet. -/
  | noFrame (hcurrent : loop.current? = none) :
      Started loop (.error .noCurrentFrame) loop.cleared loop.clearEvents
  /-- The slot's fence guards no batch. -/
  | free {slot : Nat} {fence : Fence} (hcurrent : loop.current? = some (slot, fence))
      (hfree : fence.isHolding = false) : Started loop (.ok ()) loop.cleared loop.clearEvents
  | waitFailed {slot : Nat} {fence : Fence} {failure : Failure} {state : σ}
      (hcurrent : loop.current? = some (slot, fence)) (hholding : fence.isHolding = true)
      (hwait : (env.waitFence fence.handle loop.timeout state).1 = .error failure) :
      Started loop (.error failure) loop.cleared
        (loop.clearEvents ++
          [.fenceWaited fence.provider fence.handle loop.timeout (.error failure)])
  | resetFailed {slot : Nat} {fence : Fence} {failure : Failure} {state : σ}
      (hcurrent : loop.current? = some (slot, fence)) (hholding : fence.isHolding = true)
      (hreset : (env.resetFence fence.handle state).1 = .error failure) :
      Started loop (.error failure) loop.cleared
        (loop.clearEvents ++
          [.fenceWaited fence.provider fence.handle loop.timeout (.ok ()),
            .fenceReset fence.provider fence.handle (.error failure)])
  /-- The slot's previous batch is done, and what it held is released. -/
  | reclaimed {slot : Nat} {fence : Fence} (hcurrent : loop.current? = some (slot, fence))
      (hholding : fence.isHolding = true) :
      Started loop (.ok ()) (loop.cleared.mapFence slot Fence.release)
        (loop.clearEvents ++
          [.fenceWaited fence.provider fence.handle loop.timeout (.ok ()),
            .fenceReset fence.provider fence.handle (.ok ())])

/-- The ways the transfer of a phase can go. -/
inductive Transferred (phase : Phase) (loop : FrameLoop) :
    Except Failure Unit → FrameLoop → List Event → Prop
  | absent (habsent : (loop.lane phase).task = none) : Transferred phase loop (.ok ()) loop []
  | failed {task : Transfer} {failure : Failure} {state : σ}
      (hpresent : (loop.lane phase).task = some task)
      (htransfer : (env.transfer task.toCollaborator state).1 = .error failure) :
      Transferred phase loop (.error failure) loop
        [.transferred task.toCollaborator (.error failure)]
  | done {task : Transfer} {report : TransferReport} {state : σ}
      (hpresent : (loop.lane phase).task = some task)
      (htransfer : (env.transfer task.toCollaborator state).1 = .ok report) :
      Transferred phase loop (.ok ())
        (loop.mapTask phase (Transfer.publishing report.published))
        [.transferred task.toCollaborator (.ok report)]

/-- The ways the recording of some graphs can go.  The answer has what they recorded. -/
inductive Recorded (time : FrameTime) (pager : Option Nat) :
    List Graph → Except Failure (List CommandBuffer) → List Event → Prop
  | nil : Recorded time pager [] (.ok []) []
  | failed {graph : Graph} {later : List Graph} {failure : Failure} {state : σ}
      (hrecord : (env.record graph.toCollaborator time pager state).1 = .error failure) :
      Recorded time pager (graph :: later) (.error failure)
        [.recorded graph.toCollaborator time pager (.error failure)]
  | cons {graph : Graph} {later : List Graph} {recording : Recording} {state : σ}
      {answer : Except Failure (List CommandBuffer)} {events : List Event}
      (hrecord : (env.record graph.toCollaborator time pager state).1 = .ok recording)
      (hlater : Recorded time pager later answer events) :
      Recorded time pager (graph :: later) (answer.map (recording.buffers ++ ·))
        (.recorded graph.toCollaborator time pager (.ok recording.buffers) :: events)

/-- The ways a finish can go. -/
inductive Finished (recorded : List CommandBuffer) (loop : FrameLoop) :
    Except Failure FrameOutcome → FrameLoop → List Event → Prop
  | lateFailed {failure : Failure} {loop' : FrameLoop} {events : List Event}
      (hlate : Transferred env .late loop (.error failure) loop' events) :
      Finished recorded loop (.error failure) loop' events
  /-- Nothing was recorded. -/
  | idle {loop' : FrameLoop} {events : List Event}
      (hlate : Transferred env .late loop (.ok ()) loop' events) (hempty : recorded = []) :
      Finished recorded loop (.ok .idle) loop' events
  /-- There was no advance yet. -/
  | noFrame {loop' : FrameLoop} {events : List Event}
      (hlate : Transferred env .late loop (.ok ()) loop' events) (hrecorded : recorded ≠ [])
      (hcurrent : loop'.current? = none) :
      Finished recorded loop (.error .noCurrentFrame) loop' events
  | rejected {loop' : FrameLoop} {events : List Event} {slot : Nat} {fence : Fence}
      {failure : Failure} {seen state : σ} {batch : Batch}
      (hlate : Transferred env .late loop (.ok ()) loop' events) (hrecorded : recorded ≠ [])
      (hcurrent : loop'.current? = some (slot, fence))
      (hbatch : batch = loop'.batch (loop'.windows.filterMap (env.image · seen)) recorded)
      (hsubmit : (env.submit batch fence.handle state).1 = .error failure) :
      Finished recorded loop (.error failure) loop'
        (events ++ [.submitted env.provider loop'.queue batch fence.handle (.error failure)])
  | accepted {loop' : FrameLoop} {events : List Event} {slot : Nat} {fence : Fence}
      {seen : σ} {batch : Batch}
      (hlate : Transferred env .late loop (.ok ()) loop' events) (hrecorded : recorded ≠ [])
      (hcurrent : loop'.current? = some (slot, fence))
      (hbatch : batch = loop'.batch (loop'.windows.filterMap (env.image · seen)) recorded) :
      Finished recorded loop (.ok .submitted) (loop'.afterAccepted slot recorded)
        (events ++ [.submitted env.provider loop'.queue batch fence.handle (.ok ())] ++
          (loop'.consumedEvents .early ++ loop'.consumedEvents .late))

/-- The ways a whole frame can go: it ends in the first phase that fails, or it finishes. -/
inductive Submitted (time : FrameTime) (loop : FrameLoop) :
    Except Failure FrameOutcome → FrameLoop → List Event → Prop
  | notStarted {failure : Failure} {loop₁ : FrameLoop} {started : List Event}
      (hstart : Started env loop (.error failure) loop₁ started) :
      Submitted time loop (.error failure) loop₁ started
  | notCopied {failure : Failure} {loop₁ loop₂ : FrameLoop} {started copied : List Event}
      (hstart : Started env loop (.ok ()) loop₁ started)
      (hearly : Transferred env .early loop₁ (.error failure) loop₂ copied) :
      Submitted time loop (.error failure) loop₂ (started ++ copied)
  | notRecorded {failure : Failure} {loop₁ loop₂ : FrameLoop} {started copied filled : List Event}
      (hstart : Started env loop (.ok ()) loop₁ started)
      (hearly : Transferred env .early loop₁ (.ok ()) loop₂ copied)
      (hrecord : Recorded env time loop₂.pager loop₂.graphs (.error failure) filled) :
      Submitted time loop (.error failure) loop₂ (started ++ copied ++ filled)
  | finished {answer : Except Failure FrameOutcome} {loop₁ loop₂ loop₃ : FrameLoop}
      {started copied filled closed : List Event} {recorded : List CommandBuffer}
      (hstart : Started env loop (.ok ()) loop₁ started)
      (hearly : Transferred env .early loop₁ (.ok ()) loop₂ copied)
      (hrecord : Recorded env time loop₂.pager loop₂.graphs (.ok recorded) filled)
      (hfinish : Finished env recorded loop₂ answer loop₃ closed) :
      Submitted time loop answer loop₃ (started ++ copied ++ filled ++ closed)

end Ways

/-! ## Every phase goes one of these ways -/

namespace FrameLoop

theorem cleared_current? (loop : FrameLoop) : loop.cleared.current? = loop.current? := rfl

theorem start_goes (env : Surroundings σ) : (start env).Goes (Started env) := by
  intro stage
  simp only [start, Frame.ends_bind, Frame.ends_change, Frame.ends_stage]
  have hloop := stage.clearCompleted_loop
  have hevents := stage.clearCompleted_events
  generalize stage.clearCompleted = cleared at hloop hevents ⊢
  have hcurrent : cleared.loop.current? = stage.loop.current? := by
    rw [hloop, cleared_current?]
  have htimeout : cleared.loop.timeout = stage.loop.timeout := by
    rw [hloop]
    rfl
  rw [hcurrent]
  split
  · rename_i hnone
    rw [Frame.ends_fail, hloop]
    exact ⟨_, hevents, .noFrame hnone⟩
  · rename_i slot fence hsome
    split
    · rename_i hholding
      simp only [Frame.ends_bind, Frame.ends_notice, Frame.ends_wait, Frame.ends_reset,
        Frame.ends_change, htimeout]
      refine ⟨fun _ waited hwait => ⟨fun _ reset hreset => ?_, fun failure reset hreset => ?_⟩,
        fun failure waited hwait => ?_⟩
      · refine ⟨_, ?_, by
          rw [Stage.noting_loop, Stage.noting_loop, hloop]
          exact .reclaimed hsome hholding⟩
        simp [World.notice, hevents]
      · refine ⟨_, ?_, by
          rw [Stage.noting_loop, Stage.noting_loop, hloop]
          exact .resetFailed hsome hholding (congrArg Prod.fst hreset)⟩
        simp [World.notice, hevents]
      · refine ⟨_, ?_, by
          rw [Stage.noting_loop, hloop]
          exact .waitFailed hsome hholding (congrArg Prod.fst hwait)⟩
        simp [World.notice, hevents]
    · rename_i hfree
      rw [Frame.ends_pure, hloop]
      exact ⟨_, hevents, .free hsome (by simpa using hfree)⟩

theorem transfer_goes (env : Surroundings σ) (phase : Phase) :
    (transfer env phase).Goes (Transferred env phase) := by
  intro stage
  simp only [transfer, Frame.ends_bind, Frame.ends_stage]
  split
  · rename_i habsent
    rw [Frame.ends_pure]
    exact ⟨[], (List.append_nil _).symm, .absent habsent⟩
  · rename_i task hpresent
    simp only [Frame.ends_bind, Frame.ends_ask, Frame.ends_change]
    refine ⟨fun report state htransfer => ?_, fun failure state htransfer => ?_⟩
    · exact ⟨_, rfl, .done hpresent (congrArg Prod.fst htransfer)⟩
    · exact ⟨_, rfl, .failed hpresent (congrArg Prod.fst htransfer)⟩

/-- Recording leaves the loop alone; when it goes through, what was recorded follows what there was.
The induction is on the graphs, each of which may end it. -/
theorem recordGraphs_goes (env : Surroundings σ) (time : FrameTime) (pager : Option Nat)
    (graphs : List Graph) (stage : Stage σ) :
    (recordGraphs env time pager graphs).Ends stage fun answer stage' =>
      ∃ filled events, stage'.world.events = stage.world.events ++ events ∧
        Recorded env time pager graphs filled events ∧ answer = filled.map (fun _ => ()) ∧
        stage'.loop = stage.loop ∧
        ∀ buffers, filled = .ok buffers → stage'.recorded = stage.recorded ++ buffers := by
  induction graphs generalizing stage with
  | nil =>
    rw [recordGraphs, Frame.ends_pure]
    exact ⟨.ok [], [], (List.append_nil _).symm, .nil, rfl, rfl, by simp⟩
  | cons graph later ih =>
    simp only [recordGraphs, Frame.ends_bind, Frame.ends_ask, Frame.ends_change]
    refine ⟨fun recording state hrecord => ?_, fun failure state hrecord => ?_⟩
    · refine (ih _).mono ?_
      rintro answer stage' ⟨filled, events, hevents, hlater, hanswer, hloop, hbuffers⟩
      refine ⟨_, _, ?_, .cons (congrArg Prod.fst hrecord) hlater, ?_, hloop, ?_⟩
      · exact hevents.trans (List.append_assoc _ [_] _)
      · rw [hanswer]
        cases filled <;> rfl
      · intro buffers hfilled
        cases filled with
        | error _ => cases hfilled
        | ok more =>
          cases hfilled
          simp [hbuffers more rfl]
    · exact ⟨_, _, rfl, .failed (congrArg Prod.fst hrecord), rfl, rfl, by simp⟩

theorem afterAccepted_events (loop : FrameLoop) (slot : Nat) (recorded : List CommandBuffer) :
    (loop.mapFence slot (·.hold recorded loop.signals)).consumedEvents .early ++
        ((loop.mapFence slot (·.hold recorded loop.signals)).tellConsumed .early).consumedEvents
          .late =
      loop.consumedEvents .early ++ loop.consumedEvents .late := by
  unfold tellConsumed
  split
  · rfl
  · rfl

theorem finish_goes (env : Surroundings σ) (recorded : List CommandBuffer) :
    (finish env recorded).Goes (Finished env recorded) := by
  intro stage
  rw [finish, Frame.ends_bind]
  refine (transfer_goes env .late stage).mono ?_
  rintro (failure | ⟨⟩) stage' ⟨events, hevents, hlate⟩
  · exact ⟨events, hevents, .lateFailed hlate⟩
  simp only [Frame.ends_bind, Frame.ends_stage]
  split
  · rename_i hempty
    simp only [Frame.ends_bind, Frame.ends_notice, Frame.ends_change, Frame.ends_pure]
    refine ⟨events, ?_, ?_⟩
    · rw [Stage.rest_events]
      exact hevents
    · rw [Stage.rest_loop]
      exact .idle hlate (by simpa using hempty)
  · rename_i hempty
    have hrecorded : recorded ≠ [] := by simpa using hempty
    split
    · rename_i hnone
      exact ⟨events, hevents, .noFrame hlate hrecorded hnone⟩
    · rename_i slot fence hsome
      generalize hbatch : stage'.loop.batch _ recorded = batch
      simp only [Frame.ends_bind, Frame.ends_notice, Frame.ends_enqueue, Frame.ends_change,
        Frame.ends_pure]
      refine ⟨fun _ state hsubmit => ?_, fun failure state hsubmit => ?_⟩
      · rw [Stage.giveConsumed_loop, Stage.giveConsumed_loop, Stage.giveConsumed_events,
          Stage.giveConsumed_events, Stage.giveConsumed_loop, List.append_assoc]
        refine ⟨_, ?_, .accepted hlate hrecorded hsome hbatch.symm⟩
        refine (congrArg (_ ++ ·) (afterAccepted_events stage'.loop slot recorded)).trans ?_
        simp [World.notice, hevents]
      · refine ⟨_, ?_, .rejected hlate hrecorded hsome hbatch.symm (congrArg Prod.fst hsubmit)⟩
        simp [World.notice, hevents]

/-- A frame goes one of the ways of `Submitted`, whatever was recorded before. -/
theorem submit_goes (env : Surroundings σ) (time : FrameTime) :
    (submit env time).Goes (Submitted env time) := by
  intro stage
  rw [submit, Frame.ends_bind]
  refine (start_goes env stage).mono ?_
  rintro (failure | ⟨⟩) stage₁ ⟨started, hstarted, hstart⟩
  · exact ⟨started, hstarted, .notStarted hstart⟩
  dsimp only
  rw [Frame.ends_bind]
  refine (transfer_goes env .early stage₁).mono ?_
  rintro (failure | ⟨⟩) stage₂ ⟨copied, hcopied, hearly⟩
  · refine ⟨started ++ copied, ?_, .notCopied hstart hearly⟩
    rw [hcopied, hstarted, List.append_assoc]
  dsimp only
  simp only [Frame.ends_bind, Frame.ends_change, record, Frame.ends_stage]
  refine (recordGraphs_goes env time _ _ _).mono ?_
  rintro answer stage₃ ⟨filled, events, hevents, hrecord, hanswer, hloop, hbuffers⟩
  rcases filled with failure | recorded
  · subst hanswer
    refine ⟨started ++ copied ++ events, ?_, ?_⟩
    · rw [hevents, hcopied, hstarted]
      simp
    · rw [hloop]
      exact .notRecorded hstart hearly hrecord
  · subst hanswer
    have hall : stage₃.recorded = recorded := by simpa using hbuffers recorded rfl
    simp only [Except.map]
    rw [hall]
    refine (finish_goes env recorded stage₃).mono ?_
    rintro answer stage₄ ⟨closed, hclosed, hfinish⟩
    refine ⟨started ++ copied ++ events ++ closed, ?_, ?_⟩
    · rw [hclosed, hevents, hcopied, hstarted]
      simp
    · exact .finished hstart hearly hrecord (hloop ▸ hfinish)

end FrameLoop

/-! ## What the phases ask -/

section Events

variable {env : Surroundings σ} {loop loop' : FrameLoop} {events : List Event} {event : Event}

theorem FrameLoop.mem_clearEvents (hmem : event ∈ loop.clearEvents) :
    ∃ task, event = .transferCleared task := by
  simp only [clearEvents, List.mem_append, List.mem_map] at hmem
  rcases hmem with ⟨_, _, rfl⟩ | ⟨_, _, rfl⟩
  · exact ⟨_, rfl⟩
  · exact ⟨_, rfl⟩

theorem FrameLoop.mem_consumedEvents {phase : Phase} (hmem : event ∈ loop.consumedEvents phase) :
    ∃ task consumed, event = .waitGiven task consumed := by
  unfold consumedEvents at hmem
  split at hmem
  · cases hmem
  · obtain ⟨_, _, rfl⟩ := List.mem_map.mp hmem
    exact ⟨_, _, rfl⟩

theorem Started.mem {answer : Except Failure Unit} (h : Started env loop answer loop' events)
    (hmem : event ∈ events) :
    (∃ task, event = .transferCleared task) ∨
      (∃ provider fence timeout answer, event = .fenceWaited provider fence timeout answer) ∨
      ∃ provider fence answer, event = .fenceReset provider fence answer := by
  cases h with
  | noFrame _ | free _ _ => exact Or.inl (FrameLoop.mem_clearEvents hmem)
  | waitFailed _ _ _ =>
    rcases List.mem_append.mp hmem with hmem | hmem
    · exact Or.inl (FrameLoop.mem_clearEvents hmem)
    · exact Or.inr (Or.inl ⟨_, _, _, _, List.mem_singleton.mp hmem⟩)
  | resetFailed _ _ _ | reclaimed _ _ =>
    rcases List.mem_append.mp hmem with hmem | hmem
    · exact Or.inl (FrameLoop.mem_clearEvents hmem)
    · rcases List.mem_cons.mp hmem with hmem | hmem
      · exact Or.inr (Or.inl ⟨_, _, _, _, hmem⟩)
      · exact Or.inr (Or.inr ⟨_, _, _, List.mem_singleton.mp hmem⟩)

theorem Transferred.mem {phase : Phase} {answer : Except Failure Unit}
    (h : Transferred env phase loop answer loop' events) (hmem : event ∈ events) :
    ∃ task answer, event = .transferred task answer := by
  cases h with
  | absent _ => cases hmem
  | failed _ _ | done _ _ => exact ⟨_, _, List.mem_singleton.mp hmem⟩

theorem Recorded.mem {time : FrameTime} {pager : Option Nat} {graphs : List Graph}
    {answer : Except Failure (List CommandBuffer)}
    (h : Recorded env time pager graphs answer events) (hmem : event ∈ events) :
    ∃ graph answer, event = .recorded graph time pager answer := by
  induction h with
  | nil => cases hmem
  | failed _ => exact ⟨_, _, List.mem_singleton.mp hmem⟩
  | cons _ _ ih =>
    rcases List.mem_cons.mp hmem with hmem | hmem
    · exact ⟨_, _, hmem⟩
    · exact ih hmem

end Events

/-! ## What the phases leave alone -/

section Frames

variable {env : Surroundings σ} {loop loop' : FrameLoop} {events : List Event}

/-- A start changes the lanes and the fences of a loop. -/
theorem Started.frame {answer : Except Failure Unit} (h : Started env loop answer loop' events) :
    ∃ early late fences, loop' = { loop with early := early, late := late, fences := fences } := by
  cases h <;> exact ⟨_, _, _, rfl⟩

/-- A transfer changes the lanes of a loop. -/
theorem Transferred.frame {phase : Phase} {answer : Except Failure Unit}
    (h : Transferred env phase loop answer loop' events) :
    ∃ early late, loop' = { loop with early := early, late := late } := by
  cases h with
  | absent _ => exact ⟨_, _, rfl⟩
  | failed _ _ => exact ⟨_, _, rfl⟩
  | done _ _ => cases phase <;> exact ⟨_, _, rfl⟩

/-- A transfer leaves the current frame alone. -/
theorem Transferred.current? {phase : Phase} {answer : Except Failure Unit}
    (h : Transferred env phase loop answer loop' events) : loop'.current? = loop.current? := by
  obtain ⟨_, _, rfl⟩ := h.frame
  rfl

/-- Apart from the current copy, a transfer leaves a loop as it is. -/
theorem Transferred.cleared {phase : Phase} {answer : Except Failure Unit}
    (h : Transferred env phase loop answer loop' events) : loop'.cleared = loop.cleared := by
  cases h with
  | absent _ => rfl
  | failed _ _ => rfl
  | done _ _ => exact loop.cleared_publishing phase _

theorem FrameLoop.tellConsumed_frame (loop : FrameLoop) (phase : Phase) :
    ∃ early late, loop.tellConsumed phase = { loop with early := early, late := late } := by
  unfold tellConsumed
  split
  · exact ⟨_, _, rfl⟩
  · cases phase <;> exact ⟨_, _, rfl⟩

theorem Finished.frame {recorded : List CommandBuffer} {answer : Except Failure FrameOutcome}
    (h : Finished env recorded loop answer loop' events) :
    ∃ early late fences, loop' = { loop with early := early, late := late, fences := fences } := by
  cases h with
  | lateFailed hlate | idle hlate _ | noFrame hlate _ _ | rejected hlate _ _ _ _ =>
    obtain ⟨_, _, rfl⟩ := hlate.frame
    exact ⟨_, _, _, rfl⟩
  | @accepted copied _ slot _ _ _ hlate _ _ _ =>
    obtain ⟨_, _, hcopied⟩ := hlate.frame
    obtain ⟨_, _, hearly⟩ :=
      (copied.mapFence slot (·.hold recorded copied.signals)).tellConsumed_frame .early
    obtain ⟨_, _, hboth⟩ := ((copied.mapFence slot
      (·.hold recorded copied.signals)).tellConsumed .early).tellConsumed_frame .late
    rw [FrameLoop.afterAccepted, hboth, hearly, hcopied]
    exact ⟨_, _, _, rfl⟩

theorem Submitted.frame {time : FrameTime} {answer : Except Failure FrameOutcome}
    (h : Submitted env time loop answer loop' events) :
    ∃ early late fences, loop' = { loop with early := early, late := late, fences := fences } := by
  cases h with
  | notStarted hstart => exact hstart.frame
  | notCopied hstart hearly | notRecorded hstart hearly _ =>
    obtain ⟨_, _, rfl⟩ := hearly.frame
    obtain ⟨_, _, _, rfl⟩ := hstart.frame
    exact ⟨_, _, _, rfl⟩
  | finished hstart hearly _ hfinish =>
    obtain ⟨_, _, _, rfl⟩ := hfinish.frame
    obtain ⟨_, _, rfl⟩ := hearly.frame
    obtain ⟨_, _, _, rfl⟩ := hstart.frame
    exact ⟨_, _, _, rfl⟩

end Frames

end FramesInFlight
