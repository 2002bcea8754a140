import FramesInFlight.Proofs.Frame.Run

/-!
# Loops that frames do not tell apart

A loop carries more than its frames read.  The slot counts of graphs and the data assigned to
transfer tasks are for the collaborators alone, and the pager is only handed on to the graphs.

* `Stage.bare` is a stage without all that.
* `Stage.Like` says that two stages are the same without it, and that graphs record the same with
  the one pager as with the other.
* `Frame.Match` is about a piece run from each of two like stages: it answers the same and leaves
  like stages behind.  Every phase does.
* `Stage.Like.history_events` is the result: from like stages, whatever is done with the loops asks
  the same of others.

Edits by hand are left out, since they may look at anything.
-/

namespace FramesInFlight

variable {σ α β : Type}

/-! ## What frames read -/

/-- A task without the data assigned to it. -/
def Transfer.bare (task : Transfer) : Transfer := { task with assigned := [] }

/-- A graph without its slot count. -/
def Graph.bare (graph : Graph) : Graph := { graph with maxSlot := 0 }

/-- A lane whose task has no data. -/
def Lane.bare (lane : Lane) : Lane := { lane with task := lane.task.map Transfer.bare }

/-- A loop without slot counts, assigned data and a pager. -/
def FrameLoop.bare (loop : FrameLoop) : FrameLoop :=
  { loop with
    early := loop.early.bare, late := loop.late.bare, graphs := loop.graphs.map Graph.bare
    pager := none }

/-- An event without the pager that a graph was given. -/
def Event.bare : Event → Event
  | recorded graph time _ answer => recorded graph time none answer
  | event => event

/-- A world whose events are bare. -/
def World.bare (world : World σ) : World σ := { world with events := world.events.map Event.bare }

/-- A stage without all that. -/
def Stage.bare (stage : Stage σ) : Stage σ :=
  { stage with loop := stage.loop.bare, world := stage.world.bare }

theorem FrameLoop.bare_lane (loop : FrameLoop) (phase : Phase) :
    loop.bare.lane phase = (loop.lane phase).bare := by
  cases phase <;> rfl

theorem Lane.bare_completed (lane : Lane) : lane.bare.completed = lane.completed := by
  rcases lane with ⟨_ | _, _⟩ <;> rfl

theorem Lane.bare_signal (lane : Lane) : lane.bare.signal = lane.signal := by
  rw [signal, signal, bare_completed]
  rfl

theorem FrameLoop.bare_batch (loop : FrameLoop) (images : List Semaphore)
    (recorded : List CommandBuffer) :
    loop.bare.batch images recorded = loop.batch images recorded := by
  simp only [batch, bare, Lane.bare_completed, Lane.bare_signal]

/-- Changing a task, apart from its data, changes the bare loop alike. -/
theorem FrameLoop.mapTask_bare (loop : FrameLoop) (phase : Phase) {f : Transfer → Transfer}
    (hf : ∀ task, (f task).bare = f task.bare) :
    (loop.mapTask phase f).bare = loop.bare.mapTask phase f := by
  cases phase <;> simp [mapTask, bare, Lane.bare, Option.map_map, Function.comp_def, hf]

theorem FrameLoop.mapTask_pager (loop : FrameLoop) (phase : Phase) (f : Transfer → Transfer) :
    (loop.mapTask phase f).pager = loop.pager := by
  cases phase <;> rfl

theorem Stage.onTask_bare (stage : Stage σ) (phase : Phase) {f : Transfer → Transfer}
    {event : Collaborator → Event} (hf : ∀ task, (f task).bare = f task.bare)
    (hevent : ∀ task, (event task).bare = event task) :
    (stage.onTask phase f event).bare = stage.bare.onTask phase f event := by
  have htask : (stage.bare.loop.lane phase).task = (stage.loop.lane phase).task.map Transfer.bare :=
    congrArg Lane.task (stage.loop.bare_lane phase)
  unfold onTask
  rw [htask]
  cases (stage.loop.lane phase).task with
  | none => rfl
  | some task =>
    simp only [Option.map_some, bare, FrameLoop.mapTask_bare _ _ hf, World.bare, World.emit,
      List.map_append, List.map_cons, List.map_nil, hevent]
    rfl

theorem Stage.noting_bare (stage : Stage σ) (state : σ) (event : Event) :
    (stage.noting state event).bare = stage.bare.noting state event.bare := by
  simp [noting, bare, World.bare, World.emit]

/-! ## Like stages -/

/-- Two stages that frames do not tell apart. -/
structure Stage.Like (env : Surroundings σ) (stage stage' : Stage σ) : Prop where
  bare : stage.bare = stage'.bare
  /-- Graphs record the same with either pager. -/
  record : ∀ graph time,
    env.record graph time stage.loop.pager = env.record graph time stage'.loop.pager

namespace Stage.Like

variable {env : Surroundings σ} {stage stage' : Stage σ}

/-! ### What like stages share -/

theorem loop (h : stage.Like env stage') : stage.loop.bare = stage'.loop.bare :=
  congrArg Stage.loop h.bare

theorem state (h : stage.Like env stage') : stage.world.state = stage'.world.state :=
  congrArg (·.world.state) h.bare

theorem events (h : stage.Like env stage') :
    stage.world.events.map Event.bare = stage'.world.events.map Event.bare :=
  congrArg (·.world.events) h.bare

theorem recorded (h : stage.Like env stage') : stage.recorded = stage'.recorded :=
  (congrArg Stage.recorded h.bare :)

/-- What a loop has in common with the bare loop, like stages share. -/
theorem read (h : stage.Like env stage') (f : FrameLoop → α)
    (hbare : ∀ loop : FrameLoop, f loop.bare = f loop) : f stage.loop = f stage'.loop := by
  rw [← hbare, h.loop, hbare]

theorem current (h : stage.Like env stage') : stage.loop.current? = stage'.loop.current? :=
  h.read FrameLoop.current? fun _ => rfl

theorem timeout (h : stage.Like env stage') : stage.loop.timeout = stage'.loop.timeout :=
  h.read FrameLoop.timeout fun _ => rfl

theorem queue (h : stage.Like env stage') : stage.loop.queue = stage'.loop.queue :=
  h.read FrameLoop.queue fun _ => rfl

theorem windows (h : stage.Like env stage') : stage.loop.windows = stage'.loop.windows :=
  h.read FrameLoop.windows fun _ => rfl

theorem signals (h : stage.Like env stage') : stage.loop.signals = stage'.loop.signals :=
  h.read FrameLoop.signals fun _ => rfl

theorem batch (h : stage.Like env stage') (images : List Semaphore)
    (recorded : List CommandBuffer) :
    stage.loop.batch images recorded = stage'.loop.batch images recorded :=
  h.read (·.batch images recorded) fun loop => loop.bare_batch images recorded

theorem signal (h : stage.Like env stage') (phase : Phase) :
    (stage.loop.lane phase).signal = (stage'.loop.lane phase).signal :=
  h.read (fun loop => (loop.lane phase).signal) fun loop => by
    rw [FrameLoop.bare_lane, Lane.bare_signal]

/-- The tasks of a phase are known alike. -/
theorem collaborator (h : stage.Like env stage') (phase : Phase) :
    (stage.loop.lane phase).task.map (·.toCollaborator) =
      (stage'.loop.lane phase).task.map (·.toCollaborator) :=
  h.read (fun loop => (loop.lane phase).task.map (·.toCollaborator)) fun loop => by
    rw [FrameLoop.bare_lane, Lane.bare, Option.map_map]
    rfl

/-! ### Changes that keep stages alike -/

/-- A change that has no use for what is left out keeps like stages alike. -/
theorem change (h : stage.Like env stage') (f : Stage σ → Stage σ)
    (hbare : ∀ stage, (f stage).bare = f stage.bare)
    (hpager : ∀ stage, (f stage).loop.pager = stage.loop.pager) :
    (f stage).Like env (f stage') where
  bare := by rw [hbare, hbare, h.bare]
  record := by
    rw [hpager, hpager]
    exact h.record

theorem onTask (h : stage.Like env stage') (phase : Phase) (f : Transfer → Transfer)
    (event : Collaborator → Event) (hf : ∀ task, (f task).bare = f task.bare)
    (hevent : ∀ task, (event task).bare = event task) :
    (stage.onTask phase f event).Like env (stage'.onTask phase f event) :=
  h.change (·.onTask phase f event) (fun stage => stage.onTask_bare phase hf hevent)
    fun stage => by rw [Stage.onTask_loop, FrameLoop.mapTask_pager]

theorem mapTask (h : stage.Like env stage') (phase : Phase) (f : Transfer → Transfer)
    (hf : ∀ task, (f task).bare = f task.bare) :
    Stage.Like env { stage with loop := stage.loop.mapTask phase f }
      { stage' with loop := stage'.loop.mapTask phase f } :=
  h.change (fun stage => { stage with loop := stage.loop.mapTask phase f })
    (fun stage => congrArg (Stage.mk · _ _) (stage.loop.mapTask_bare phase hf))
    (fun stage => stage.loop.mapTask_pager phase f)

theorem mapFence (h : stage.Like env stage') (slot : Nat) (f : Fence → Fence) :
    Stage.Like env { stage with loop := stage.loop.mapFence slot f }
      { stage' with loop := stage'.loop.mapFence slot f } :=
  h.change (fun stage => { stage with loop := stage.loop.mapFence slot f }) (fun _ => rfl)
    fun _ => rfl

/-- What is recorded is collected after some buffers, and no longer after what was there. -/
theorem collect (h : stage.Like env stage') (buffers : List CommandBuffer) :
    Stage.Like env { stage with recorded := buffers } { stage' with recorded := buffers } :=
  h.change (fun stage => { stage with recorded := buffers }) (fun _ => rfl) fun _ => rfl

theorem advance (h : stage.Like env stage') : stage.advance.Like env stage'.advance := by
  have hmoved := h.change
    (fun stage =>
      { stage with
        loop := { stage.loop with ring := stage.loop.ring.advance }
        world := stage.world.notice (.advanced stage.loop.ring.nextSlot) })
    (fun _ => rfl) (fun _ => rfl)
  have hearly := hmoved.onTask .early id .transferAdvanced (fun _ => rfl) (fun _ => rfl)
  exact hearly.onTask .late id .transferAdvanced (fun _ => rfl) (fun _ => rfl)

theorem clearCompleted (h : stage.Like env stage') :
    stage.clearCompleted.Like env stage'.clearCompleted := by
  have hearly := h.onTask .early (fun task => { task with completed := none }) .transferCleared
    (fun _ => rfl) (fun _ => rfl)
  exact hearly.onTask .late (fun task => { task with completed := none }) .transferCleared
    (fun _ => rfl) (fun _ => rfl)

theorem giveConsumed (h : stage.Like env stage') (phase : Phase) :
    (stage.giveConsumed phase).Like env (stage'.giveConsumed phase) := by
  unfold Stage.giveConsumed
  rw [h.signal phase]
  cases (stage'.loop.lane phase).signal with
  | none => exact h
  | some consumed =>
    exact h.onTask phase (fun task => { task with waits := task.waits ++ [consumed] })
      (.waitGiven · consumed) (fun _ => rfl) (fun _ => rfl)

theorem rest (h : stage.Like env stage') : (stage.rest env).Like env (stage'.rest env) := by
  refine h.change (·.rest env) (fun stage => ?_) fun stage => ?_
  · change Stage.bare (if stage.loop.idleSleep = 0 then _ else _) =
      if stage.loop.idleSleep = 0 then _ else _
    split <;> rfl
  · unfold Stage.rest
    split <;> rfl

theorem noting (h : stage.Like env stage') (state : σ) {event event' : Event}
    (hevent : event.bare = event'.bare) :
    (stage.noting state event).Like env (stage'.noting state event') where
  bare := by rw [Stage.noting_bare, Stage.noting_bare, h.bare, hevent]
  record := h.record

end Stage.Like

/-! ## Pieces run from like stages -/

namespace Frame

variable {env : Surroundings σ} {stage stage' : Stage σ}

/-- Two pieces, each run from a stage of its own, answer the same and leave like stages. -/
def Match (env : Surroundings σ) (piece piece' : Frame σ α) (stage stage' : Stage σ) : Prop :=
  (piece stage).1 = (piece' stage').1 ∧ (piece stage).2.Like env (piece' stage').2

theorem match_pure (h : stage.Like env stage') (a : α) :
    Match env (pure a) (pure a) stage stage' := ⟨rfl, h⟩

theorem match_fail (h : stage.Like env stage') (failure : Failure) :
    Match env (fail failure : Frame σ α) (fail failure) stage stage' := ⟨rfl, h⟩

theorem match_change {f f' : Stage σ → Stage σ} (h : (f stage).Like env (f' stage')) :
    Match env (change f) (change f') stage stage' := ⟨rfl, h⟩

theorem match_notice (h : stage.Like env stage') (notice : Notice) :
    Match env (Frame.notice notice) (Frame.notice notice) stage stage' :=
  match_change (h.change (fun stage => { stage with world := stage.world.notice notice })
    (fun _ => rfl) fun _ => rfl)

theorem match_stage {next next' : Stage σ → Frame σ α} :
    Match env (Frame.stage >>= next) (Frame.stage >>= next') stage stage' ↔
      Match env (next stage) (next' stage') stage stage' := Iff.rfl

theorem Match.bind {piece piece' : Frame σ β} {next next' : β → Frame σ α}
    (hpiece : Match env piece piece' stage stage')
    (hnext : ∀ b stage stage', stage.Like env stage' →
      Match env (next b) (next' b) stage stage') :
    Match env (piece >>= next) (piece' >>= next') stage stage' := by
  change Match env (Frame.bind piece next) (Frame.bind piece' next') stage stage'
  unfold Match Frame.bind at *
  generalize piece stage = ended, piece' stage' = ended' at hpiece ⊢
  obtain ⟨answer, left⟩ := ended
  obtain ⟨answer', left'⟩ := ended'
  obtain ⟨rfl, hlike⟩ := hpiece
  cases answer with
  | error failure => exact ⟨rfl, hlike⟩
  | ok b => exact hnext b left left' hlike

/-- Asking the same of like worlds gets the same answer. -/
theorem match_ask (h : stage.Like env stage') {act : σ → Except Failure α × σ}
    {event event' : Except Failure α → Event}
    (hevent : ∀ answer, (event answer).bare = (event' answer).bare) :
    Match env (ask (World.ask · act event)) (ask (World.ask · act event')) stage stage' := by
  simp only [Match, ask, World.ask, h.state]
  exact ⟨trivial, h.noting _ (hevent _)⟩

end Frame

/-! ## Phases -/

namespace FrameLoop

variable {env : Surroundings σ} {stage stage' : Stage σ}

theorem transfer_match (h : stage.Like env stage') (phase : Phase) :
    Frame.Match env (transfer env phase) (transfer env phase) stage stage' := by
  have hknown := h.collaborator phase
  rw [transfer, Frame.match_stage]
  cases htask : (stage.loop.lane phase).task with
  | none =>
    rw [htask, Option.map_none, eq_comm, Option.map_eq_none_iff] at hknown
    rw [hknown]
    exact Frame.match_pure h ()
  | some task =>
    rw [htask, Option.map_some, eq_comm, Option.map_eq_some_iff] at hknown
    obtain ⟨task', htask', hsame⟩ := hknown
    rw [htask']
    dsimp only
    rw [hsame]
    refine (Frame.match_ask h fun _ => rfl).bind fun report stage stage' h => ?_
    exact Frame.match_change (h.mapTask phase _ fun _ => rfl)

theorem start_match (h : stage.Like env stage') :
    Frame.Match env (start env) (start env) stage stage' := by
  refine (Frame.match_change h.clearCompleted).bind fun _ stage stage' h => ?_
  rw [Frame.match_stage, h.current, h.timeout]
  rcases stage'.loop.current? with _ | ⟨slot, fence⟩
  · exact Frame.match_fail h .noCurrentFrame
  dsimp only
  split
  · refine (Frame.match_notice h _).bind fun _ _ _ h => ?_
    refine (Frame.match_ask h fun _ => rfl).bind fun _ _ _ h => ?_
    refine (Frame.match_ask h fun _ => rfl).bind fun _ _ _ h => ?_
    exact Frame.match_change (h.mapFence slot Fence.release)
  · exact Frame.match_pure h ()

/-- Graphs record the same with pagers that they do not tell apart. -/
theorem recordGraphs_match (time : FrameTime) {pager pager' : Option Nat}
    (hrecord : ∀ graph time, env.record graph time pager = env.record graph time pager')
    {graphs graphs' : List Graph} (hgraphs : graphs.map Graph.bare = graphs'.map Graph.bare)
    (h : stage.Like env stage') :
    Frame.Match env (recordGraphs env time pager graphs) (recordGraphs env time pager' graphs')
      stage stage' := by
  induction graphs generalizing graphs' stage stage' with
  | nil =>
    obtain rfl : graphs' = [] := by simpa using hgraphs.symm
    exact Frame.match_pure h ()
  | cons graph later ih =>
    obtain ⟨graph', later', rfl, hgraph, hlater⟩ := List.map_eq_cons_iff.mp hgraphs.symm
    have hknown : graph'.toCollaborator = graph.toCollaborator :=
      (congrArg Graph.toCollaborator hgraph :)
    rw [recordGraphs, recordGraphs, hknown, hrecord]
    -- The two events differ in the pager, so they are the same only when bare.
    refine Frame.Match.bind (Frame.match_ask h ?_) fun recording stage stage' h => ?_
    · exact fun _ => rfl
    refine (Frame.match_change ?_).bind fun _ _ _ h => ih hlater.symm h
    exact h.change
      (fun stage =>
        { stage with
          recorded := stage.recorded ++ recording.buffers
          world := stage.world.report recording.notices })
      (fun _ => rfl) (fun _ => rfl)

theorem record_match (h : stage.Like env stage') (time : FrameTime) :
    Frame.Match env (record env time) (record env time) stage stage' := by
  rw [record, Frame.match_stage]
  exact recordGraphs_match time h.record (congrArg FrameLoop.graphs h.loop :) h

theorem finish_match (h : stage.Like env stage') (recorded : List CommandBuffer) :
    Frame.Match env (finish env recorded) (finish env recorded) stage stage' := by
  refine (transfer_match h .late).bind fun _ stage stage' h => ?_
  rw [Frame.match_stage]
  split
  · refine (Frame.match_notice h _).bind fun _ _ _ h => ?_
    refine (Frame.match_change h.rest).bind fun _ _ _ h => ?_
    exact Frame.match_pure h FrameOutcome.idle
  rw [h.current]
  rcases stage'.loop.current? with _ | ⟨slot, fence⟩
  · exact Frame.match_fail h .noCurrentFrame
  dsimp only
  rw [h.batch, h.windows, h.state, h.queue, h.signals]
  refine (Frame.match_notice h _).bind fun _ _ _ h => ?_
  refine (Frame.match_ask h fun _ => rfl).bind fun _ _ _ h => ?_
  refine (Frame.match_change ?_).bind fun _ _ _ h => Frame.match_pure h FrameOutcome.submitted
  exact ((h.mapFence slot _).giveConsumed .early).giveConsumed .late

theorem submit_match (h : stage.Like env stage') (time : FrameTime) :
    Frame.Match env (submit env time) (submit env time) stage stage' := by
  refine (start_match h).bind fun _ _ _ h => ?_
  refine (transfer_match h .early).bind fun _ _ _ h => ?_
  refine (Frame.match_change (h.collect [])).bind fun _ _ _ h => ?_
  refine (record_match h time).bind fun _ stage stage' h => ?_
  rw [Frame.match_stage, h.recorded]
  exact finish_match h _

end FrameLoop

/-! ## Runs -/

/-- Operations by which an application changes tasks and graphs by hand. -/
def Operation.isEdit : Operation → Bool
  | editTask .. | editGraphs _ => true
  | _ => false

namespace Stage.Like

variable {env : Surroundings σ} {stage stage' : Stage σ}

theorem attach (h : stage.Like env stage') (phase : Phase) (task : Transfer) :
    Stage.Like env { stage with loop := stage.loop.attach phase task }
      { stage' with loop := stage'.loop.attach phase task } where
  bare := by
    have hattached := congrArg
      (fun stage : Stage σ => { stage with loop := stage.loop.attach phase task.bare }) h.bare
    cases phase <;> exact hattached
  record := by cases phase <;> exact h.record

theorem add (h : stage.Like env stage') (attachment : Attachment) :
    Stage.Like env { stage with loop := stage.loop.add attachment }
      { stage' with loop := stage'.loop.add attachment } := by
  cases attachment with
  | graph graph =>
    refine ⟨?_, h.record⟩
    have hadded := congrArg
      (fun stage : Stage σ => { stage with loop := stage.loop.addGraph graph.bare }) h.bare
    simpa [Stage.bare, FrameLoop.bare, FrameLoop.add, FrameLoop.addGraph] using hadded
  | window window =>
    exact h.change (fun stage => { stage with loop := stage.loop.addWindow window })
      (fun _ => rfl) fun _ => rfl
  | wait semaphore =>
    exact h.change (fun stage => { stage with loop := stage.loop.addWait semaphore })
      (fun _ => rfl) fun _ => rfl
  | signal semaphore =>
    exact h.change (fun stage => { stage with loop := stage.loop.addSignal semaphore })
      (fun _ => rfl) fun _ => rfl
  | pager pager => exact ⟨h.bare, fun _ _ => rfl⟩

/-- Whatever is done with the loops, they stay alike. -/
theorem perform (h : stage.Like env stage') {operation : Operation}
    (hedit : operation.isEdit = false) :
    (operation.perform env stage).Like env (operation.perform env stage') := by
  cases operation with
  | advance => exact h.advance
  | submit time => exact (FrameLoop.submit_match h time).2
  | add attachment => exact h.add attachment
  | start => exact (FrameLoop.start_match h).2
  | record collection time => exact (FrameLoop.record_match (h.collect collection) time).2
  | finish recorded => exact (FrameLoop.finish_match h recorded).2
  | transfer phase => exact (FrameLoop.transfer_match h phase).2
  | attach phase task => exact h.attach phase task
  | editTask _ _ | editGraphs _ => cases hedit

theorem turn_events (h : stage.Like env stage') {operation : Operation}
    (hedit : operation.isEdit = false) :
    (stage.turn env operation).events.map Event.bare =
      (stage'.turn env operation).events.map Event.bare := by
  have hlength : stage.world.events.length = stage'.world.events.length := by
    simpa using congrArg List.length h.events
  simp only [Stage.turn, List.map_drop, hlength, (h.perform hedit).events]

/-- From like stages, whatever is done with the loops asks the same of others, turn by turn, apart
from the pager that graphs are given. -/
theorem history_events (h : stage.Like env stage') {operations : List Operation}
    (hedit : ∀ operation ∈ operations, operation.isEdit = false) :
    (stage.history env operations).map (·.events.map Event.bare) =
      (stage'.history env operations).map (·.events.map Event.bare) := by
  induction operations generalizing stage stage' with
  | nil => rfl
  | cons operation later ih =>
    rw [List.forall_mem_cons] at hedit
    rw [Stage.history, Stage.history, List.map_cons, List.map_cons, h.turn_events hedit.1,
      ih (h.perform hedit.1) hedit.2]

end Stage.Like

end FramesInFlight
