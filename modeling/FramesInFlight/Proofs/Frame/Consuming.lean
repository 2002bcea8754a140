import FramesInFlight.Proofs.Frame.Order

/-!
# Which copies are consumed

A transfer task that published a semaphore waits for the semaphore of its lane before it reuses its
memory, so every copy should have a batch that waits for it and signals that it was consumed.

* `Turn.Consumes` says that a turn has such a batch, and that the task has what the batch signals.
* `Turn.Loses` says that a turn has no batch and leaves the task without a semaphore.
* `copies_are_consumed_unless_idle` tells which of the two a frame does that ends well.  It is the
  first one just when the graphs recorded something.
* `idle_frame_loses_its_copy` is a frame of the other kind.  The early task runs before anything is
  known of the graphs, and an idle frame returns before it looks at what was published.
-/

namespace FramesInFlight

variable {σ : Type}

namespace Turn

/-- A batch that was accepted in this turn waits for a copy of a phase and signals that the copy is
consumed.  The task of the phase is given that semaphore afterwards, and has it in the loop that is
left. -/
structure Consumes (turn : Turn) (loop' : FrameLoop) (phase : Phase) (copied : Semaphore) :
    Prop where
  batch : ∃ before provider queue batch fence after,
    turn.events = before ++ .submitted provider queue batch fence (.ok ()) :: after ∧
      copied ∈ batch.waits ∧ (turn.loop.lane phase).consumed.handle ∈ batch.signals ∧
      ∃ task ∈ (turn.loop.lane phase).task,
        .waitGiven task.toCollaborator (turn.loop.lane phase).consumed ∈ after
  task : ∃ task ∈ (turn.loop.lane phase).task, ∃ task' ∈ (loop'.lane phase).task,
    task'.toCollaborator = task.toCollaborator ∧
      task'.waits = task.waits ++ [(turn.loop.lane phase).consumed]

/-- No batch is handed over in this turn, and apart from the current copy the lane of a phase is
left as it was. -/
structure Loses (turn : Turn) (loop' : FrameLoop) (phase : Phase) : Prop where
  quiet : ∀ event ∈ turn.events, event.isHanded = false ∧ event.isGiven = false
  lane : (loop'.lane phase).cleared = (turn.loop.lane phase).cleared

theorem Loses.not_consumes {turn : Turn} {loop' : FrameLoop} {phase : Phase} {copied : Semaphore}
    (hloses : turn.Loses loop' phase) : ¬ turn.Consumes loop' phase copied := by
  rintro ⟨⟨before, provider, queue, batch, fence, after, hevents, _⟩, _⟩
  have hmem : Event.submitted provider queue batch fence (.ok ()) ∈ turn.events :=
    hevents ▸ List.mem_append_right before List.mem_cons_self
  cases (hloses.quiet _ hmem).1

/-- Only a task publishes something. -/
theorem exists_task {turn : Turn} {phase : Phase} {copied : Semaphore}
    (htasks : turn.RunsItsTasks) (hpublished : turn.published phase = some copied) :
    ∃ task, (turn.loop.lane phase).task = some task := by
  rw [← Option.ne_none_iff_exists']
  intro habsent
  cases phase with
  | early =>
    have hearly : turn.loop.early.task = none := habsent
    simp [published, hearly, firstPublished] at hpublished
  | late =>
    have hlate : turn.loop.late.task = none := habsent
    -- Without a late task, no transfers come after the early one.
    have hlength := htasks.length_le
    simp only [hlate, Option.toList_none, List.append_nil, List.length_map] at hlength
    simp [published, List.drop_of_length_le hlength, firstPublished] at hpublished

end Turn

/-- A lane whose task was given the semaphore of the lane once. -/
theorem Lane.exists_given {lane lane' : Lane} {task : Transfer} (htask : lane.task = some task)
    (hgiven : lane'.cleared = (lane.handed 1).cleared) :
    ∃ task' ∈ lane'.task, task'.toCollaborator = task.toCollaborator ∧
      task'.waits = task.waits ++ [lane.consumed] := by
  have hsame := congrArg Lane.task hgiven
  simp only [cleared, handed, htask, Option.map_some, Option.map_eq_some_iff] at hsame
  obtain ⟨task', htask', hequal⟩ := hsame
  injection hequal with hwho _ hwaits _
  exact ⟨task', htask', hwho, by simpa using hwaits⟩

section Frames

variable {env : Surroundings σ} {turn : Turn} {time : FrameTime} {loop' : FrameLoop}
  {outcome : FrameOutcome} {phase : Phase} {copied : Semaphore}

/-- A frame that ends well is submitted just when the graphs recorded something. -/
theorem Submitted.outcome_eq_submitted_iff {loop : FrameLoop} {events : List Event}
    (h : Submitted env time loop (.ok outcome) loop' events) :
    outcome = .submitted ↔ events.flatMap Event.recordedBuffers ≠ [] := by
  have hconclusion := h.concluded.conclusion_eq
  rw [FrameLoop.conclusion] at hconclusion
  split at hconclusion
  · cases hconclusion
  · cases hconclusion
    cases events.flatMap Event.recordedBuffers <;> simp

/-- A frame that ends well is idle and has no batch, or it is submitted and has an accepted one. -/
theorem Submitted.idle_or_submitted {loop : FrameLoop} {events : List Event}
    (h : Submitted env time loop (.ok outcome) loop' events) :
    (outcome = .idle ∧ ∀ event ∈ events, event.isHanded = false ∧ event.isGiven = false) ∨
      (outcome = .submitted ∧ ∃ event ∈ events, event.isAccepted = true) := by
  cases h with
  | finished hstart hearly hrecord hfinish =>
    cases hfinish with
    | idle hlate _ =>
      have hcopied := List.forall_mem_append.mpr ⟨hstart.quiet, hearly.quiet⟩
      have hfilled := List.forall_mem_append.mpr ⟨hcopied, hrecord.quiet⟩
      exact .inl ⟨rfl, List.forall_mem_append.mpr ⟨hfilled, hlate.quiet⟩⟩
    | @accepted late _ _ fence _ batch _ _ _ _ =>
      refine .inr ⟨rfl, .submitted env.provider late.queue batch fence.handle (.ok ()), ?_, rfl⟩
      exact List.mem_append_right _ (List.mem_append_left _ (List.mem_append_right _
        List.mem_cons_self))

/-- An accepted batch consumes what was published in its turn. -/
theorem Turn.Course.consumes (hcourse : turn.Course env loop') (htasks : turn.RunsItsTasks)
    (hpublished : turn.published phase = some copied)
    (haccepted : ∃ event ∈ turn.events, event.isAccepted = true) :
    turn.Consumes loop' phase copied := by
  obtain ⟨event, hmem, haccepted⟩ := haccepted
  have hhanded := Event.isHanded_of_isAccepted haccepted
  cases hcourse with
  | unhanded hquiet _ => cases (hquiet event hmem).1.symm.trans hhanded
  | rejected hevents hquiet _ _ =>
    rw [hevents] at hmem
    rcases List.mem_append.mp hmem with hmem | hmem
    · cases (hquiet event hmem).1.symm.trans hhanded
    · rw [List.mem_singleton.mp hmem] at haccepted
      cases haccepted
  | accepted hevents _ hbatch hlanes =>
    obtain ⟨task, htask⟩ := Turn.exists_task htasks hpublished
    have hsignalled : turn.signalled phase = some (turn.loop.lane phase).consumed := by
      rw [signalled, hpublished, Option.map_some]
    have hgiven : .waitGiven task.toCollaborator (turn.loop.lane phase).consumed ∈
        turn.handover phase := by
      simp [handover, hsignalled, htask]
    rw [List.append_assoc, List.singleton_append] at hevents
    refine ⟨⟨_, _, _, _, _, _, hevents, ?_, ?_, task, htask, ?_⟩, task, htask, ?_⟩
    · rw [hbatch.waits]
      cases phase <;> simp [hpublished]
    · rw [hbatch.signals]
      cases phase <;> simp [hsignalled]
    · cases phase with
      | early => exact List.mem_append_left _ hgiven
      | late => exact List.mem_append_right _ hgiven
    · refine Lane.exists_given htask ((hlanes phase).trans ?_)
      rw [hsignalled]
      rfl

/-- Without a batch, whatever was published in a turn is lost. -/
theorem Turn.Course.loses (hcourse : turn.Course env loop') (phase : Phase)
    (hquiet : ∀ event ∈ turn.events, event.isHanded = false ∧ event.isGiven = false) :
    turn.Loses loop' phase := by
  have hnone : turn.handsOver phase = false := by
    rw [handsOver, Event.any_isAccepted_of_quiet hquiet, Bool.false_and]
  have hlane := hcourse.lanes phase
  rw [hnone, if_neg Bool.false_ne_true, Lane.handed_zero] at hlane
  exact ⟨hquiet, hlane⟩

end Frames

/-- Take any loop and a frame that ends well, in which a transfer published something.  The copy is
consumed when the frame was submitted, that is, when the graphs recorded something.  Otherwise the
frame was idle, and the copy is lost. -/
theorem copies_are_consumed_unless_idle (env : Surroundings σ) (stage : Stage σ) (time : FrameTime)
    {outcome : FrameOutcome} {phase : Phase} {copied : Semaphore}
    (hok : (FrameLoop.submit env time stage).1 = .ok outcome)
    (hpublished : (stage.turn env (.submit time)).published phase = some copied) :
    (outcome = .submitted ↔ (stage.turn env (.submit time)).collected ≠ []) ∧
    (outcome = .submitted → (stage.turn env (.submit time)).Consumes
      (FrameLoop.submit env time stage).2.loop phase copied) ∧
    (outcome = .idle → (stage.turn env (.submit time)).Loses
      (FrameLoop.submit env time stage).2.loop phase) := by
  obtain ⟨hcourse, htasks⟩ :=
    Operation.course env stage (rfl : (Operation.submit time).isFrame = true)
  obtain ⟨events, hevents, hsubmit⟩ := FrameLoop.submit_goes env time stage
  rw [← Stage.turn_events env stage (.submit time) hevents, hok] at hsubmit
  refine ⟨hsubmit.outcome_eq_submitted_iff, fun houtcome => ?_, fun houtcome => ?_⟩
  · obtain ⟨hidle, _⟩ | ⟨_, haccepted⟩ := hsubmit.idle_or_submitted
    · cases houtcome.symm.trans hidle
    · exact hcourse.consumes htasks hpublished haccepted
  · obtain ⟨_, hquiet⟩ | ⟨hsubmitted, _⟩ := hsubmit.idle_or_submitted
    · exact hcourse.loses phase hquiet
    · cases houtcome.symm.trans hsubmitted

/-- The first frame of the bench whose queue accepts one batch: what the early task published is
consumed. -/
theorem first_copy_is_consumed :
    (FrameLoop.submit (Bench.surroundings .bench) (.first 0) chainedStage.advance).1 =
      .ok .submitted ∧
    (chainedStage.advance.turn (Bench.surroundings .bench) (.submit (.first 0))).published .early =
      some ⟨100, .transfer, .bench⟩ ∧
    (chainedStage.advance.turn (Bench.surroundings .bench) (.submit (.first 0))).Consumes
      (FrameLoop.submit (Bench.surroundings .bench) (.first 0) chainedStage.advance).2.loop .early
      ⟨100, .transfer, .bench⟩ :=
  ⟨rfl, rfl, (copies_are_consumed_unless_idle (Bench.surroundings .bench) chainedStage.advance
    (.first 0) rfl rfl).2.1 rfl⟩

/-- A loop with an early task that publishes a semaphore, and no graphs. -/
def graphlessStage : Stage Bench where
  loop := Bench.newLoop.attach .early { number := 0, name := "early" }
  world := { state :=
    { transfers := [(⟨0, "early"⟩, { produces := some ⟨100, .transfer, .bench⟩ })] } }

/-- Its first frame ends well, but nothing consumes what the early task published. -/
theorem idle_frame_loses_its_copy :
    (FrameLoop.submit (Bench.surroundings .bench) (.first 0) graphlessStage.advance).1 =
      .ok .idle ∧
    (graphlessStage.advance.turn (Bench.surroundings .bench) (.submit (.first 0))).published
      .early = some ⟨100, .transfer, .bench⟩ ∧
    ¬ (graphlessStage.advance.turn (Bench.surroundings .bench) (.submit (.first 0))).Consumes
      (FrameLoop.submit (Bench.surroundings .bench) (.first 0) graphlessStage.advance).2.loop .early
      ⟨100, .transfer, .bench⟩ := by
  refine ⟨rfl, rfl, Turn.Loses.not_consumes ?_⟩
  exact ⟨by decide +kernel, rfl⟩

end FramesInFlight
