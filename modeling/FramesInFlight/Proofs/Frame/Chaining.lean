import FramesInFlight.Proofs.Frame.Run

/-!
# Chaining of transfers and batches

A batch waits for what the transfers of its frame copied, and signals to each of them that it has
consumed the copy.  The semaphore for that is one per transfer task, shared by all slots, so a wait
or a signal without its counterpart would block the device for good.

* `Turn.published` is what the transfers of a turn published, read off the events of that turn.
* `Turn.Chains` says that a batch has just these semaphores and their counterparts.
* `Turn.Course` says what a turn may do: hand over no batch, have one rejected, or have one accepted
  and after that give each transfer task the semaphore that the batch signals for it.
* `Submitted.course` is about one frame.  It rests on `Readied`, what a loop looks like when its
  batch is made.
* `transfers_are_chained` is the result for every run of whole frames.
-/

namespace FramesInFlight

variable {σ : Type}

/-! ## Lanes that were given their semaphore -/

namespace Lane

/-- A lane whose task was given the semaphore of the lane some times. -/
def handed (lane : Lane) (times : Nat) : Lane :=
  { lane with task := lane.task.map fun task =>
      { task with waits := task.waits ++ List.replicate times lane.consumed } }

theorem handed_zero (lane : Lane) : lane.handed 0 = lane := by
  simp [handed]

theorem handed_handed (lane : Lane) (times more : Nat) :
    (lane.handed times).handed more = lane.handed (times + more) := by
  simp [handed, Option.map_map, Function.comp_def]

theorem cleared_handed (lane : Lane) (times : Nat) :
    (lane.handed times).cleared = lane.cleared.handed times := by
  simp [handed, cleared, Option.map_map, Function.comp_def]

/-- Clearing leaves alone who the task is. -/
theorem cleared_collaborators (lane : Lane) :
    lane.cleared.task.toList.map (·.toCollaborator) = lane.task.toList.map (·.toCollaborator) := by
  cases htask : lane.task <;> simp [cleared, htask]

/-- Lanes that agree apart from the current copy have the same task. -/
theorem collaborators_of_cleared {lane lane' : Lane} (hsame : lane'.cleared = lane.cleared) :
    lane'.task.toList.map (·.toCollaborator) = lane.task.toList.map (·.toCollaborator) := by
  rw [← lane'.cleared_collaborators, hsame, lane.cleared_collaborators]

theorem handed_collaborators (lane : Lane) (times : Nat) :
    (lane.handed times).task.toList.map (·.toCollaborator) =
      lane.task.toList.map (·.toCollaborator) := by
  cases htask : lane.task <;> simp [handed, htask]

end Lane

/-! ## What a turn published -/

/-- What the first of some transfers published. -/
def firstPublished : List (Collaborator × Except Failure TransferReport) → Option Semaphore
  | (_, .ok report) :: _ => report.published
  | _ => none

namespace Turn

/-- The transfer tasks that were run, with what they answered. -/
def transfers (turn : Turn) : List (Collaborator × Except Failure TransferReport) :=
  turn.events.filterMap Event.transfer?

/-- What the transfer of a phase published in this turn.  The early task, if there is one, is run
first. -/
def published (turn : Turn) : Phase → Option Semaphore
  | .early => firstPublished (turn.transfers.take turn.loop.early.task.toList.length)
  | .late => firstPublished (turn.transfers.drop turn.loop.early.task.toList.length)

/-- What a batch of this turn signals for a phase. -/
def signalled (turn : Turn) (phase : Phase) : Option Semaphore :=
  (turn.published phase).map fun _ => (turn.loop.lane phase).consumed

/-- The event by which the task of a phase is given what a batch signals for it. -/
def handover (turn : Turn) (phase : Phase) : List Event :=
  match turn.signalled phase with
  | none => []
  | some consumed =>
    (turn.loop.lane phase).task.toList.map fun task => .waitGiven task.toCollaborator consumed

/-- Whether a batch of this turn that signals something for a phase was accepted. -/
def handsOver (turn : Turn) (phase : Phase) : Bool :=
  turn.events.any Event.isAccepted && (turn.signalled phase).isSome

/-- A batch waits for what was published in this turn, early before late, for the images and for the
application's semaphores.  It signals the consumption of just what it waits for, and the
application's semaphores. -/
structure Chains (turn : Turn) (images : List Semaphore) (batch : Batch) : Prop where
  waits : batch.waits =
    (turn.published .early).toList ++ (turn.published .late).toList ++ images ++ turn.loop.waits
  signals : batch.signals =
    ((turn.signalled .early).toList ++ (turn.signalled .late).toList ++ turn.loop.signals).map
      (·.handle)

/-- What a turn that leaves `loop'` behind may do: nothing about batches, or one batch that is
rejected, or one batch that is accepted and the handovers after it.  Only then, and for the phases
for which the batch signals something, the lanes keep more than they had. -/
inductive Course (env : Surroundings σ) (turn : Turn) (loop' : FrameLoop) : Prop
  | unhanded (hquiet : ∀ event ∈ turn.events, event.isHanded = false ∧ event.isGiven = false)
      (hlanes : ∀ phase, (loop'.lane phase).cleared = (turn.loop.lane phase).cleared)
  | rejected {before : List Event} {provider : Provider} {queue fence : Nat} {batch : Batch}
      {failure : Failure} {seen : σ}
      (hevents : turn.events = before ++ [.submitted provider queue batch fence (.error failure)])
      (hquiet : ∀ event ∈ before, event.isHanded = false ∧ event.isGiven = false)
      (hbatch : turn.Chains (turn.loop.windows.filterMap (env.image · seen)) batch)
      (hlanes : ∀ phase, (loop'.lane phase).cleared = (turn.loop.lane phase).cleared)
  | accepted {before : List Event} {provider : Provider} {queue fence : Nat} {batch : Batch}
      {seen : σ}
      (hevents : turn.events = before ++ [.submitted provider queue batch fence (.ok ())] ++
        (turn.handover .early ++ turn.handover .late))
      (hquiet : ∀ event ∈ before, event.isHanded = false ∧ event.isGiven = false)
      (hbatch : turn.Chains (turn.loop.windows.filterMap (env.image · seen)) batch)
      (hlanes : ∀ phase, (loop'.lane phase).cleared =
        ((turn.loop.lane phase).handed (turn.signalled phase).toList.length).cleared)

/-- The transfer tasks that were run are those of the loop, in order, as far as the turn came. -/
def RunsItsTasks (turn : Turn) : Prop :=
  turn.transfers.map (·.1) <+:
    (turn.loop.early.task.toList ++ turn.loop.late.task.toList).map (·.toCollaborator)

end Turn

/-! ## Lanes after each phase -/

section Lanes

variable {env : Surroundings σ} {loop loop' : FrameLoop} {events : List Event} {phase : Phase}

theorem Started.lane {answer : Except Failure Unit} (h : Started env loop answer loop' events)
    (phase : Phase) : loop'.lane phase = (loop.lane phase).cleared := by
  cases h <;> cases phase <;> rfl

theorem Transferred.lane_cleared {answer : Except Failure Unit}
    (h : Transferred env phase loop answer loop' events) (other : Phase) :
    (loop'.lane other).cleared = (loop.lane other).cleared := by
  rw [← FrameLoop.cleared_lane, h.cleared, FrameLoop.cleared_lane]

theorem Transferred.lane_other {answer : Except Failure Unit}
    (h : Transferred env phase loop answer loop' events) {other : Phase} (hother : other ≠ phase) :
    loop'.lane other = loop.lane other := by
  cases h with
  | absent _ => rfl
  | failed _ _ => rfl
  | done _ _ =>
    cases phase <;> cases other <;> first | rfl | exact absurd rfl hother

/-- After a transfer that went through, its lane has what was published. -/
theorem Transferred.completed (h : Transferred env phase loop (.ok ()) loop' events) :
    (loop'.lane phase).completed = firstPublished (events.filterMap Event.transfer?) := by
  cases h with
  | absent habsent =>
    rw [Lane.completed, habsent]
    rfl
  | done hpresent _ =>
    cases phase <;>
      simp_all [FrameLoop.lane, FrameLoop.mapTask, Lane.completed, Transfer.publishing,
        firstPublished, Event.transfer?]

/-- The task of the phase is run, if there is one. -/
theorem Transferred.collaborators {answer : Except Failure Unit}
    (h : Transferred env phase loop answer loop' events) :
    (events.filterMap Event.transfer?).map (·.1) =
      (loop.lane phase).task.toList.map (·.toCollaborator) := by
  cases h with
  | absent habsent =>
    rw [habsent]
    rfl
  | failed hpresent _ | done hpresent _ =>
    rw [hpresent]
    rfl

theorem Lane.signal_eq_some {lane : Lane} {consumed : Semaphore}
    (hsignal : lane.signal = some consumed) : consumed = lane.consumed := by
  obtain ⟨_, _, hconsumed⟩ := Option.map_eq_some_iff.mp hsignal
  exact hconsumed.symm

/-- Telling a task that its copy is consumed gives it the semaphore of its lane once. -/
theorem FrameLoop.tellConsumed_lane (loop : FrameLoop) (phase : Phase) :
    (loop.tellConsumed phase).lane phase =
      (loop.lane phase).handed (loop.lane phase).signal.toList.length := by
  unfold tellConsumed
  split
  · rename_i hnone
    rw [hnone]
    exact (Lane.handed_zero _).symm
  · rename_i consumed hsome
    rw [hsome, Lane.signal_eq_some hsome]
    cases phase <;> rfl

theorem FrameLoop.tellConsumed_lane_other (loop : FrameLoop) {phase other : Phase}
    (hother : other ≠ phase) : (loop.tellConsumed phase).lane other = loop.lane other := by
  unfold tellConsumed
  split
  · rfl
  · cases phase <;> cases other <;> first | rfl | exact absurd rfl hother

/-- An accepted batch gives the task of each phase the semaphore once, if the batch signals it. -/
theorem FrameLoop.afterAccepted_lane (loop : FrameLoop) (slot : Nat)
    (recorded : List CommandBuffer) (phase : Phase) :
    (loop.afterAccepted slot recorded).lane phase =
      (loop.lane phase).handed (loop.lane phase).signal.toList.length := by
  unfold afterAccepted
  cases phase with
  | early =>
    rw [tellConsumed_lane_other _ (by decide), tellConsumed_lane]
    rfl
  | late =>
    rw [tellConsumed_lane, tellConsumed_lane_other _ (by decide)]
    rfl

end Lanes

/-! ## Events without batches and handovers -/

section Quiet

variable {env : Surroundings σ} {loop loop' : FrameLoop} {events : List Event}

/-- Where nothing is handed over, nothing is accepted. -/
theorem Event.any_isAccepted_of_quiet
    (hquiet : ∀ event ∈ events, event.isHanded = false ∧ event.isGiven = false) :
    events.any Event.isAccepted = false := by
  rw [List.any_eq_false]
  intro event hmem haccepted
  cases (hquiet event hmem).1.symm.trans (Event.isHanded_of_isAccepted haccepted)

theorem Started.quiet {answer : Except Failure Unit} (h : Started env loop answer loop' events) :
    ∀ event ∈ events, event.isHanded = false ∧ event.isGiven = false := by
  intro event hmem
  rcases h.mem hmem with ⟨_, rfl⟩ | ⟨_, _, _, _, rfl⟩ | ⟨_, _, _, rfl⟩
  · exact ⟨rfl, rfl⟩
  · exact ⟨rfl, rfl⟩
  · exact ⟨rfl, rfl⟩

theorem Started.transfers {answer : Except Failure Unit}
    (h : Started env loop answer loop' events) : events.filterMap Event.transfer? = [] := by
  rw [List.filterMap_eq_nil_iff]
  intro event hmem
  rcases h.mem hmem with ⟨_, rfl⟩ | ⟨_, _, _, _, rfl⟩ | ⟨_, _, _, rfl⟩
  · rfl
  · rfl
  · rfl

theorem Transferred.quiet {phase : Phase} {answer : Except Failure Unit}
    (h : Transferred env phase loop answer loop' events) :
    ∀ event ∈ events, event.isHanded = false ∧ event.isGiven = false := by
  intro event hmem
  obtain ⟨_, _, rfl⟩ := h.mem hmem
  exact ⟨rfl, rfl⟩

theorem Recorded.quiet {time : FrameTime} {pager : Option Nat} {graphs : List Graph}
    {answer : Except Failure (List CommandBuffer)}
    (h : Recorded env time pager graphs answer events) :
    ∀ event ∈ events, event.isHanded = false ∧ event.isGiven = false := by
  intro event hmem
  obtain ⟨_, _, rfl⟩ := h.mem hmem
  exact ⟨rfl, rfl⟩

theorem Recorded.transfers {time : FrameTime} {pager : Option Nat} {graphs : List Graph}
    {answer : Except Failure (List CommandBuffer)}
    (h : Recorded env time pager graphs answer events) :
    events.filterMap Event.transfer? = [] := by
  rw [List.filterMap_eq_nil_iff]
  intro event hmem
  obtain ⟨_, _, rfl⟩ := h.mem hmem
  rfl

theorem consumedEvents_transfers (loop : FrameLoop) (phase : Phase) :
    (loop.consumedEvents phase).filterMap Event.transfer? = [] := by
  rw [List.filterMap_eq_nil_iff]
  intro event hmem
  obtain ⟨_, _, rfl⟩ := FrameLoop.mem_consumedEvents hmem
  rfl

end Quiet

/-! ## One frame -/

/-- A loop whose batch can be made in a turn: both transfers have gone through, and their lanes have
what they published. -/
structure Readied (turn : Turn) (loop : FrameLoop) : Prop where
  completed : ∀ phase, (loop.lane phase).completed = turn.published phase
  cleared : ∀ phase, (loop.lane phase).cleared = (turn.loop.lane phase).cleared
  frame : ∃ early late fences,
    loop = { turn.loop with early := early, late := late, fences := fences }

namespace Readied

variable {env : Surroundings σ} {turn : Turn} {loop loop₁ loop₂ : FrameLoop}
  {started copied closed : List Event}

/-- Every task that there is has run by then, so what the lanes have is what the transfers of this
frame published. -/
theorem of_events {time : FrameTime} {pager : Option Nat} {graphs : List Graph}
    {recorded : List CommandBuffer} {filled rest : List Event}
    (hstart : Started env turn.loop (.ok ()) loop₁ started)
    (hearly : Transferred env .early loop₁ (.ok ()) loop₂ copied)
    (hrecord : Recorded env time pager graphs (.ok recorded) filled)
    (hlate : Transferred env .late loop₂ (.ok ()) loop closed)
    (hevents : turn.events = started ++ copied ++ filled ++ (closed ++ rest))
    (hrest : rest.filterMap Event.transfer? = []) : Readied turn loop := by
  have htransfers : turn.transfers =
      copied.filterMap Event.transfer? ++ closed.filterMap Event.transfer? := by
    rw [Turn.transfers, hevents]
    simp only [List.filterMap_append, hstart.transfers, hrecord.transfers, hrest, List.nil_append,
      List.append_nil]
  have hcount : turn.loop.early.task.toList.length = (copied.filterMap Event.transfer?).length := by
    have hsame := congrArg List.length hearly.collaborators
    rw [hstart.lane .early, Lane.cleared_collaborators, List.length_map, List.length_map] at hsame
    exact hsame.symm
  refine ⟨fun phase => ?_, fun phase => ?_, ?_⟩
  · cases phase with
    | early =>
      rw [Turn.published, htransfers, hcount, List.take_left, ← hearly.completed,
        hlate.lane_other (by decide)]
    | late => rw [Turn.published, htransfers, hcount, List.drop_left, ← hlate.completed]
  · rw [hlate.lane_cleared, hearly.lane_cleared, hstart.lane, Lane.cleared_cleared]
  · obtain ⟨_, _, rfl⟩ := hlate.frame
    obtain ⟨_, _, rfl⟩ := hearly.frame
    obtain ⟨_, _, _, rfl⟩ := hstart.frame
    exact ⟨_, _, _, rfl⟩

theorem consumed (hready : Readied turn loop) (phase : Phase) :
    (loop.lane phase).consumed = (turn.loop.lane phase).consumed := by
  have hsame := congrArg Lane.consumed (hready.cleared phase)
  exact hsame

theorem signal (hready : Readied turn loop) (phase : Phase) :
    (loop.lane phase).signal = turn.signalled phase := by
  rw [Lane.signal, Turn.signalled, hready.completed, hready.consumed]

theorem consumedEvents (hready : Readied turn loop) (phase : Phase) :
    loop.consumedEvents phase = turn.handover phase := by
  have hwho := Lane.collaborators_of_cleared (hready.cleared phase)
  rw [FrameLoop.consumedEvents, Turn.handover, hready.signal]
  cases turn.signalled phase with
  | none => rfl
  | some consumed =>
    have hboth := congrArg (List.map fun who => Event.waitGiven who consumed) hwho
    rwa [List.map_map, List.map_map] at hboth

theorem windows (hready : Readied turn loop) : loop.windows = turn.loop.windows := by
  obtain ⟨_, _, _, rfl⟩ := hready.frame
  rfl

/-- A batch made of such a loop is chained to the transfers of the turn. -/
theorem batch_chains (hready : Readied turn loop) (images : List Semaphore)
    (recorded : List CommandBuffer) : turn.Chains images (loop.batch images recorded) := by
  have hwaits : loop.waits = turn.loop.waits := by
    obtain ⟨_, _, _, rfl⟩ := hready.frame
    rfl
  have hsignals : loop.signals = turn.loop.signals := by
    obtain ⟨_, _, _, rfl⟩ := hready.frame
    rfl
  constructor
  · rw [FrameLoop.batch, hwaits, ← hready.completed .early, ← hready.completed .late]
    rfl
  · rw [FrameLoop.batch, hsignals, ← hready.signal .early, ← hready.signal .late]
    rfl

end Readied

section Frames

variable {env : Surroundings σ} {turn : Turn} {time : FrameTime} {loop' : FrameLoop}
  {answer : Except Failure FrameOutcome}

/-- What a frame does about batches and lanes. -/
theorem Submitted.course (h : Submitted env time turn.loop answer loop' turn.events) :
    turn.Course env loop' := by
  generalize hall : turn.events = events at h
  cases h with
  | notStarted hstart =>
    refine .unhanded (hall ▸ hstart.quiet) fun phase => ?_
    rw [hstart.lane, Lane.cleared_cleared]
  | notCopied hstart hearly =>
    have hboth := List.forall_mem_append.mpr ⟨hstart.quiet, hearly.quiet⟩
    refine .unhanded (hall ▸ hboth) fun phase => ?_
    rw [hearly.lane_cleared, hstart.lane, Lane.cleared_cleared]
  | notRecorded hstart hearly hrecord =>
    have hboth := List.forall_mem_append.mpr ⟨hstart.quiet, hearly.quiet⟩
    refine .unhanded (hall ▸ List.forall_mem_append.mpr ⟨hboth, hrecord.quiet⟩) fun phase => ?_
    rw [hearly.lane_cleared, hstart.lane, Lane.cleared_cleared]
  | @finished _ _ _ _ started copies filled _ _ hstart hearly hrecord hfinish =>
    have hbefore : ∀ event ∈ started ++ copies ++ filled,
        event.isHanded = false ∧ event.isGiven = false :=
      List.forall_mem_append.mpr
        ⟨List.forall_mem_append.mpr ⟨hstart.quiet, hearly.quiet⟩, hrecord.quiet⟩
    cases hfinish with
    | lateFailed hlate | idle hlate _ | noFrame hlate _ _ =>
      refine .unhanded (hall ▸ List.forall_mem_append.mpr ⟨hbefore, hlate.quiet⟩) fun phase => ?_
      rw [hlate.lane_cleared, hearly.lane_cleared, hstart.lane, Lane.cleared_cleared]
    | @rejected _ closed _ _ _ seen _ _ hlate _ _ hbatch _ =>
      have hready := Readied.of_events hstart hearly hrecord hlate hall rfl
      rw [hready.windows] at hbatch
      rw [← List.append_assoc] at hall
      exact .rejected hall (List.forall_mem_append.mpr ⟨hbefore, hlate.quiet⟩)
        (hbatch ▸ hready.batch_chains _ _) hready.cleared
    | @accepted copied closed slot fence seen batch hlate _ _ hbatch =>
      have htold : ([Event.submitted env.provider copied.queue batch fence.handle (.ok ())] ++
          (copied.consumedEvents .early ++ copied.consumedEvents .late)).filterMap
            Event.transfer? = [] := by
        rw [List.filterMap_append, List.filterMap_append, consumedEvents_transfers,
          consumedEvents_transfers]
        rfl
      rw [List.append_assoc closed] at hall
      have hready := Readied.of_events hstart hearly hrecord hlate hall htold
      rw [hready.windows] at hbatch
      rw [hready.consumedEvents, hready.consumedEvents, ← List.append_assoc, ← List.append_assoc]
        at hall
      refine .accepted hall (List.forall_mem_append.mpr ⟨hbefore, hlate.quiet⟩)
        (hbatch ▸ hready.batch_chains _ _) fun phase => ?_
      rw [FrameLoop.afterAccepted_lane, hready.signal, Lane.cleared_handed, hready.cleared,
        Lane.cleared_handed]

/-- A finish runs the late task, if there is one. -/
theorem Finished.collaborators {loop : FrameLoop} {recorded : List CommandBuffer}
    {events : List Event} (h : Finished env recorded loop answer loop' events) :
    (events.filterMap Event.transfer?).map (·.1) =
      loop.late.task.toList.map (·.toCollaborator) := by
  cases h with
  | lateFailed hlate | idle hlate _ | noFrame hlate _ _ => exact hlate.collaborators
  | rejected hlate _ _ _ _ =>
    rw [List.filterMap_append, List.map_append, hlate.collaborators]
    exact List.append_nil _
  | accepted hlate _ _ _ =>
    rw [List.filterMap_append, List.filterMap_append, List.filterMap_append,
      consumedEvents_transfers, consumedEvents_transfers, List.map_append, List.map_append,
      hlate.collaborators]
    simp [Event.transfer?, FrameLoop.lane]

/-- The transfer tasks that a frame runs are its own. -/
theorem Submitted.runsItsTasks (h : Submitted env time turn.loop answer loop' turn.events) :
    turn.RunsItsTasks := by
  unfold Turn.RunsItsTasks Turn.transfers
  rw [List.map_append]
  -- A start leaves the collaborators as they are.
  have hwho : ∀ {loop₁ loop₂ : FrameLoop} {started copied : List Event}
      {answer : Except Failure Unit}, Started env turn.loop (.ok ()) loop₁ started →
      Transferred env .early loop₁ answer loop₂ copied →
      (copied.filterMap Event.transfer?).map (·.1) =
        turn.loop.early.task.toList.map (·.toCollaborator) := by
    intro loop₁ loop₂ started copied answer hstart hearly
    rw [hearly.collaborators, hstart.lane, Lane.cleared_collaborators]
    rfl
  generalize turn.events = events at h
  cases h with
  | notStarted hstart =>
    rw [hstart.transfers]
    exact List.nil_prefix
  | notCopied hstart hearly =>
    rw [List.filterMap_append, hstart.transfers, List.nil_append, hwho hstart hearly]
    exact List.prefix_append _ _
  | notRecorded hstart hearly hrecord =>
    rw [List.filterMap_append, List.filterMap_append, hstart.transfers, hrecord.transfers,
      List.nil_append, List.append_nil, hwho hstart hearly]
    exact List.prefix_append _ _
  | @finished _ loop₁ loop₂ _ _ _ _ _ _ hstart hearly hrecord hfinish =>
    have hlate : loop₂.late.task.toList.map (·.toCollaborator) =
        turn.loop.late.task.toList.map (·.toCollaborator) := by
      have hlane := (hearly.lane_other (by decide)).trans (hstart.lane .late)
      rw [← turn.loop.late.cleared_collaborators]
      exact congrArg (fun lane => lane.task.toList.map (·.toCollaborator)) hlane
    rw [List.filterMap_append, List.filterMap_append, List.filterMap_append, hstart.transfers,
      hrecord.transfers, List.nil_append, List.append_nil, List.map_append, hwho hstart hearly,
      hfinish.collaborators, hlate]

/-- What a turn keeps on a lane, counted by the accepted batch of its events. -/
theorem Turn.Course.lanes (hcourse : turn.Course env loop') (phase : Phase) :
    (loop'.lane phase).cleared =
      ((turn.loop.lane phase).handed (if turn.handsOver phase then 1 else 0)).cleared := by
  cases hcourse with
  | unhanded hnone hlanes =>
    rw [handsOver, Event.any_isAccepted_of_quiet hnone, hlanes, Bool.false_and,
      if_neg (by decide), Lane.handed_zero]
  | rejected hevents hnone _ hlanes =>
    rw [handsOver, hevents, List.any_append, Event.any_isAccepted_of_quiet hnone, hlanes]
    simp [Event.isAccepted, Lane.handed_zero]
  | accepted hevents _ _ hlanes =>
    rw [handsOver, hevents, hlanes]
    cases turn.signalled phase <;> simp [Event.isAccepted]

end Frames

/-! ## Runs -/

/-- A turn that runs no transfer. -/
theorem Turn.runsItsTasks_of_none {turn : Turn}
    (hnone : ∀ event ∈ turn.events, event.transfer? = none) : turn.RunsItsTasks := by
  rw [RunsItsTasks, transfers, List.filterMap_eq_nil_iff.mpr hnone]
  exact List.nil_prefix

/-- Every operation on whole frames takes one of the courses, from any stage. -/
theorem Operation.course (env : Surroundings σ) (stage : Stage σ) {operation : Operation}
    (hframe : operation.isFrame = true) :
    (stage.turn env operation).Course env (operation.perform env stage).loop ∧
      (stage.turn env operation).RunsItsTasks := by
  cases operation with
  | advance =>
    obtain ⟨events, hevents, hadvanced⟩ := stage.advance_events
    rw [← Stage.turn_events env stage .advance hevents] at hadvanced
    refine ⟨.unhanded (fun event hmem => ?_) fun phase => ?_,
      Turn.runsItsTasks_of_none fun event hmem => ?_⟩
    · obtain ⟨_, rfl⟩ := hadvanced event hmem
      exact ⟨rfl, rfl⟩
    · rw [perform, stage.advance_loop]
      cases phase <;> rfl
    · obtain ⟨_, rfl⟩ := hadvanced event hmem
      rfl
  | submit time =>
    obtain ⟨events, hevents, hsubmit⟩ := FrameLoop.submit_goes env time stage
    have hturn := Stage.turn_events env stage (.submit time) hevents
    rw [← hturn] at hsubmit
    exact ⟨hsubmit.course, hsubmit.runsItsTasks⟩
  | add attachment =>
    have hnone : (stage.turn env (.add attachment)).events = [] :=
      Stage.turn_events env stage (.add attachment) (List.append_nil _).symm
    refine ⟨.unhanded (by simp [hnone]) fun phase => ?_,
      Turn.runsItsTasks_of_none (by simp [hnone])⟩
    cases attachment <;> cases phase <;> rfl
  | _ => cases hframe

/-- In every run of whole frames, whatever the surroundings answer to each call: a turn hands over
at most one batch, which waits for what the transfers of that turn published and signals their
consumption; when it was accepted, and only then, the tasks whose copies it consumes are given the
semaphore it signals.  So at every point of a run, apart from the current copy, each lane is as at
first with its semaphore given once for each accepted batch that signals it. -/
theorem transfers_are_chained (env : Surroundings σ) (first : Stage σ)
    (operations : List Operation) (hframes : ∀ operation ∈ operations, operation.isFrame = true) :
    (∀ before operation, before ++ [operation] <+: operations →
      ((first.run env before).turn env operation).Course env
        (first.run env (before ++ [operation])).loop ∧
      ((first.run env before).turn env operation).RunsItsTasks) ∧
    ∀ phase, ((first.run env operations).loop.lane phase).cleared =
      ((first.loop.lane phase).handed
        ((first.history env operations).countP (·.handsOver phase))).cleared := by
  refine ⟨fun before operation hcut => ?_, fun phase => ?_⟩
  · rw [Stage.run_concat]
    have hmem : operation ∈ operations := hcut.subset (List.mem_append_right _ List.mem_cons_self)
    exact Operation.course env (first.run env before) (hframes operation hmem)
  · refine Stage.run_induction (motive := fun turns stage => (stage.loop.lane phase).cleared =
      ((first.loop.lane phase).handed (turns.countP (·.handsOver phase))).cleared) ?_ ?_
    · rw [List.countP_nil, Lane.handed_zero]
    · intro turns stage operation hmem hlane
      have hcourse := (Operation.course env stage (hframes operation hmem)).1
      rw [hcourse.lanes, Lane.cleared_handed]
      change (stage.loop.lane phase).cleared.handed _ = _
      rw [hlane, ← Lane.cleared_handed, Lane.handed_handed, List.countP_append,
        List.countP_singleton]

/-- A bench whose early transfer publishes a semaphore and whose queue accepts one batch only. -/
def onceAcceptingBench : Bench where
  transfers := [(⟨0, "early"⟩, { produces := some ⟨100, .transfer, .bench⟩ }), (⟨1, "late"⟩, {})]
  graphs := [(⟨0, "scene"⟩, { buffers := [⟨10, .primary⟩] })]
  faults := [(.submit, ⟨.deviceLost, 1⟩)]

/-- The loop of that bench, with both tasks and the graph. -/
def chainedStage : Stage Bench where
  loop := ((Bench.newLoop.attach .early { number := 0, name := "early" }).attach .late
    { number := 1, name := "late" }).addGraph { number := 0, name := "scene" }
  world := { state := onceAcceptingBench }

/-- Two frames are run; the batch of the second one is rejected. -/
def twoFrames : List Operation := [.advance, .submit (.first 0), .advance, .submit (.first 1)]

/-- The early task is given its semaphore once, for the accepted batch, and the late task never. -/
theorem two_frames_are_chained :
    (∀ phase, ((chainedStage.run (Bench.surroundings .bench) twoFrames).loop.lane phase).cleared =
      ((chainedStage.loop.lane phase).handed ((chainedStage.history (Bench.surroundings .bench)
        twoFrames).countP (·.handsOver phase))).cleared) ∧
    (chainedStage.history (Bench.surroundings .bench) twoFrames).countP (·.handsOver .early) = 1 ∧
    (chainedStage.history (Bench.surroundings .bench) twoFrames).countP (·.handsOver .late) = 0 :=
  ⟨(transfers_are_chained (Bench.surroundings .bench) chainedStage twoFrames (by decide)).2,
    by decide +kernel, by decide +kernel⟩

end FramesInFlight
