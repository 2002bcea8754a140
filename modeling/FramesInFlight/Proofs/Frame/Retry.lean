import FramesInFlight.Proofs.Frame.Slots

/-!
# Retrying a failed frame

A frame that fails may be run again on the same slot.  What the failed attempts did is not undone:
the fence may have been reset already, and a transfer may have published a semaphore.  None of it
can be seen in what the last attempt does.

* `FrameLoop.settled` is what a start makes of a loop when it goes through: the copies of earlier
  frames are forgotten and the fence of the slot in use holds nothing.
* `Submitted.settled_of_error` says that a frame that fails, in whatever phase, leaves a loop that
  settles to the same loop as before.
* `Script.perform` is what a frame that goes through does to a settled loop, and
  `Submitted.performed` says that frames do that.
* `Submitted.ok_of_faultless` says that a frame does go through when no call fails.
* `retry_is_transparent` puts these together.
-/

namespace FramesInFlight

variable {σ τ : Type}

/-! ## Settled loops -/

namespace FrameLoop

/-- A loop after a start that went through. -/
def settled (loop : FrameLoop) : FrameLoop :=
  match loop.slot? 0 with
  | none => loop.cleared
  | some slot => loop.cleared.mapFence slot Fence.release

theorem settled_of_slot {loop : FrameLoop} {slot : Nat} (hslot : loop.slot? 0 = some slot) :
    loop.settled = loop.cleared.mapFence slot Fence.release := by
  rw [settled, hslot]

/-- Loops that are cleared to the same loop settle to the same loop. -/
theorem settled_congr {loop loop' : FrameLoop} (hcleared : loop'.cleared = loop.cleared) :
    loop'.settled = loop.settled := by
  have hslot : loop'.slot? 0 = loop.slot? 0 := by
    have hring : loop'.cleared.ring = loop.cleared.ring := by rw [hcleared]
    exact congrArg (SlotRing.slot? · 0) hring
  rw [settled, settled, hslot, hcleared]

theorem settled_cleared (loop : FrameLoop) : loop.cleared.settled = loop.settled :=
  settled_congr loop.cleared_cleared

/-- Releasing the fence of the slot in use twice is as good as once. -/
theorem settled_release {loop : FrameLoop} {slot : Nat} (hslot : loop.slot? 0 = some slot) :
    (loop.mapFence slot Fence.release).settled = loop.settled := by
  have hslot' : (loop.mapFence slot Fence.release).slot? 0 = some slot := hslot
  rw [settled_of_slot hslot', settled_of_slot hslot]
  unfold mapFence cleared
  rw [List.modify_modify_eq]
  rfl

/-- A loop whose slot's fence holds nothing is settled once it is cleared. -/
theorem settled_of_free {loop : FrameLoop} {slot : Nat} {fence : Fence}
    (hcurrent : loop.current? = some (slot, fence)) (hfree : fence.isHolding = false) :
    loop.settled = loop.cleared := by
  obtain ⟨hslot, hfence⟩ := current?_eq_some.mp hcurrent
  have hsame : loop.fences.modify slot Fence.release = loop.fences := by
    apply List.ext_getElem?
    intro other
    rw [List.getElem?_modify]
    by_cases hother : slot = other
    · subst hother
      have hnothing : fence.release = fence := by
        simp only [Fence.isHolding, Bool.or_eq_false_iff, Bool.not_eq_false',
          List.isEmpty_iff] at hfree
        rw [Fence.release, ← hfree.1, ← hfree.2]
      simp [hfence, hnothing]
    · simp [hother]
  rw [settled_of_slot hslot]
  unfold mapFence cleared
  rw [hsame]

/-- A settled loop has a current frame if and only if the loop has one. -/
theorem settled_current? (loop : FrameLoop) :
    loop.settled.current? = none ↔ loop.current? = none := by
  cases hslot : loop.slot? 0 with
  | none =>
    have hslot' : loop.cleared.slot? 0 = none := hslot
    rw [settled, hslot, current?, current?, hslot, hslot']
    exact Iff.rfl
  | some slot =>
    have hslot' : (loop.cleared.mapFence slot Fence.release).slot? 0 = some slot := hslot
    rw [settled_of_slot hslot, current?, current?, hslot', hslot]
    simp [mapFence, cleared]

end FrameLoop

/-! ## What a failed frame leaves behind -/

section Settling

variable {env : Surroundings σ} {loop loop' : FrameLoop} {events : List Event}

theorem Started.settled {answer : Except Failure Unit} (h : Started env loop answer loop' events) :
    loop'.settled = loop.settled := by
  cases h with
  | noFrame _ | free _ _ | waitFailed _ _ _ | resetFailed _ _ _ => exact loop.settled_cleared
  | reclaimed hcurrent _ =>
    obtain ⟨hslot, _⟩ := FrameLoop.current?_eq_some.mp hcurrent
    have hslot' : loop.cleared.slot? 0 = some _ := hslot
    exact (FrameLoop.settled_release hslot').trans loop.settled_cleared

/-- A start that goes through settles the loop. -/
theorem Started.eq_settled (h : Started env loop (.ok ()) loop' events) : loop' = loop.settled := by
  cases h with
  | free hcurrent hfree => exact (FrameLoop.settled_of_free hcurrent hfree).symm
  | reclaimed hcurrent _ =>
    obtain ⟨hslot, _⟩ := FrameLoop.current?_eq_some.mp hcurrent
    exact (FrameLoop.settled_of_slot hslot).symm

theorem Transferred.settled {phase : Phase} {answer : Except Failure Unit}
    (h : Transferred env phase loop answer loop' events) : loop'.settled = loop.settled :=
  FrameLoop.settled_congr h.cleared

theorem Finished.settled_of_error {recorded : List CommandBuffer} {failure : Failure}
    (h : Finished env recorded loop (.error failure) loop' events) :
    loop'.settled = loop.settled := by
  cases h with
  | lateFailed hlate | noFrame hlate _ _ | rejected hlate _ _ _ _ => exact hlate.settled

/-- A frame that fails leaves a loop that settles to the same loop as before. -/
theorem Submitted.settled_of_error {time : FrameTime} {failure : Failure}
    (h : Submitted env time loop (.error failure) loop' events) :
    loop'.settled = loop.settled := by
  cases h with
  | notStarted hstart => exact hstart.settled
  | notCopied hstart hearly => exact hearly.settled.trans hstart.settled
  | notRecorded hstart hearly _ => exact hearly.settled.trans hstart.settled
  | finished hstart hearly _ hfinish =>
    exact (hfinish.settled_of_error.trans hearly.settled).trans hstart.settled

end Settling

/-- Some frames, one after the other, each of which failed in surroundings of its own. -/
inductive FailedFrames (first : Stage σ) : Stage σ → Prop
  | none : FailedFrames first first
  | more {last : Stage σ} {env : Surroundings σ} {time : FrameTime} {failure : Failure}
      (hearlier : FailedFrames first last)
      (hfailed : (FrameLoop.submit env time last).1 = .error failure) :
      FailedFrames first (FrameLoop.submit env time last).2

/-- However many frames failed, the loop settles to the same loop as before all of them. -/
theorem FailedFrames.settled {first last : Stage σ} (h : FailedFrames first last) :
    last.loop.settled = first.loop.settled := by
  induction h with
  | none => rfl
  | @more last env time failure _ hfailed ih =>
    obtain ⟨_, _, hsubmit⟩ := FrameLoop.submit_goes env time last
    rw [hfailed] at hsubmit
    exact hsubmit.settled_of_error.trans ih

/-! ## Frames that go through -/

/-- What the collaborators do when they do not fail. -/
structure Script where
  /-- The semaphore that a transfer publishes, if any. -/
  published : Collaborator → Option Semaphore
  /-- What a graph records. -/
  buffers : Collaborator → List CommandBuffer
  /-- The semaphore of a window's image. -/
  image : String → Option Semaphore

/-- The collaborators do what a script says, in every call that they do not fail. -/
structure Surroundings.Follows (env : Surroundings σ) (script : Script) : Prop where
  transfer : ∀ task state report, (env.transfer task state).1 = .ok report →
    report.published = script.published task
  record : ∀ graph time pager state recording,
    (env.record graph time pager state).1 = .ok recording → recording.buffers = script.buffers graph
  image : ∀ window state, env.image window state = script.image window

/-- No call that a frame makes fails. -/
structure Surroundings.Faultless (env : Surroundings σ) : Prop where
  wait : ∀ fence timeout state, (env.waitFence fence timeout state).1 = .ok ()
  reset : ∀ fence state, (env.resetFence fence state).1 = .ok ()
  submit : ∀ batch fence state, (env.submit batch fence state).1 = .ok ()
  transfer : ∀ task state, ∃ report, (env.transfer task state).1 = .ok report
  record : ∀ graph time pager state, ∃ recording,
    (env.record graph time pager state).1 = .ok recording

namespace Script

/-- A loop after the transfer of a phase. -/
def copy (script : Script) (phase : Phase) (loop : FrameLoop) : FrameLoop :=
  match (loop.lane phase).task with
  | none => loop
  | some task =>
    loop.mapTask phase (Transfer.publishing (script.published task.toCollaborator))

/-- What all the graphs of a loop record. -/
def recorded (script : Script) (loop : FrameLoop) : List CommandBuffer :=
  loop.graphs.flatMap fun graph => script.buffers graph.toCollaborator

/-- What a finish does after the late transfer: the answer, the loop that is left and the batch that
is handed over, if there is one. -/
def finish (script : Script) (provider : Provider) (recorded : List CommandBuffer)
    (loop : FrameLoop) : Except Failure FrameOutcome × FrameLoop × List Event :=
  if recorded = [] then (.ok .idle, loop, [])
  else
    match loop.current? with
    | none => (.error .noCurrentFrame, loop, [])
    | some (slot, fence) =>
      let batch := loop.batch (loop.windows.filterMap script.image) recorded
      (.ok .submitted, loop.afterAccepted slot recorded,
        [.submitted provider loop.queue batch fence.handle (.ok ())])

/-- What a frame does to a settled loop. -/
def perform (script : Script) (provider : Provider) (loop : FrameLoop) :
    Except Failure FrameOutcome × FrameLoop × List Event :=
  let copied := script.copy .early loop
  script.finish provider (script.recorded copied) (script.copy .late copied)

end Script

section Performing

variable {env : Surroundings σ} {script : Script} {loop loop' : FrameLoop} {events : List Event}

theorem Transferred.performed (hfollows : env.Follows script) {phase : Phase}
    (h : Transferred env phase loop (.ok ()) loop' events) : loop' = script.copy phase loop := by
  unfold Script.copy
  cases h with
  | absent habsent => rw [habsent]
  | done hpresent htransfer => rw [hpresent, hfollows.transfer _ _ _ htransfer]

theorem Recorded.performed (hfollows : env.Follows script) {time : FrameTime}
    {pager : Option Nat} {graphs : List Graph} {answer : Except Failure (List CommandBuffer)}
    (h : Recorded env time pager graphs answer events) {recorded : List CommandBuffer}
    (hanswer : answer = .ok recorded) :
    recorded = graphs.flatMap fun graph => script.buffers graph.toCollaborator := by
  induction h generalizing recorded with
  | nil =>
    cases hanswer
    rfl
  | failed _ => cases hanswer
  | @cons _ _ _ _ answer _ hrecord _ ih =>
    cases answer with
    | error _ => cases hanswer
    | ok more =>
      cases hanswer
      rw [ih rfl, List.flatMap_cons, hfollows.record _ _ _ _ _ hrecord]

/-- No batch is among events that are about no fence. -/
theorem filter_isHanded_of_others (hothers : ∀ event ∈ events, event.fence? = none) :
    events.filter Event.isHanded = [] := by
  rw [List.filter_eq_nil_iff]
  intro event hmem hhanded
  obtain ⟨_, _, hnot, _⟩ := Event.of_fence?_eq_none (hothers event hmem)
  cases hnot.symm.trans hhanded

theorem Started.filter_isHanded {answer : Except Failure Unit}
    (h : Started env loop answer loop' events) : events.filter Event.isHanded = [] := by
  rw [List.filter_eq_nil_iff]
  intro event hmem
  rcases h.mem hmem with ⟨_, rfl⟩ | ⟨_, _, _, _, rfl⟩ | ⟨_, _, _, rfl⟩
  · exact Bool.false_ne_true
  · exact Bool.false_ne_true
  · exact Bool.false_ne_true

theorem Finished.performed (hfollows : env.Follows script) {recorded : List CommandBuffer}
    {outcome : FrameOutcome} (h : Finished env recorded loop (.ok outcome) loop' events) :
    (.ok outcome, loop', events.filter Event.isHanded) =
      script.finish env.provider recorded (script.copy .late loop) := by
  cases h with
  | idle hlate hempty =>
    rw [Script.finish, if_pos hempty, filter_isHanded_of_others hlate.others,
      hlate.performed hfollows]
  | @accepted copied copies slot fence seen batch hlate hrecorded hcurrent hbatch =>
    have himages : (env.image · seen) = script.image :=
      funext fun window => hfollows.image window seen
    rw [himages] at hbatch
    rw [Script.finish, if_neg hrecorded, ← hlate.performed hfollows, hcurrent, List.filter_append,
      List.filter_append, filter_isHanded_of_others hlate.others,
      filter_isHanded_of_others (consumedEvents_others _), hbatch]
    rfl

/-- A frame that goes through does what the script says to the settled loop, whatever was done to
the loop before. -/
theorem Submitted.performed (hfollows : env.Follows script) {time : FrameTime}
    {outcome : FrameOutcome} (h : Submitted env time loop (.ok outcome) loop' events) :
    (.ok outcome, loop', events.filter Event.isHanded) =
      script.perform env.provider loop.settled := by
  cases h with
  | @finished _ settled copied _ started copies filled closed recorded hstart hearly hrecord
      hfinish =>
    have hsettled := hstart.eq_settled
    have hcopied := hearly.performed hfollows
    have hrecorded : recorded = script.recorded copied := hrecord.performed hfollows rfl
    have hquiet : (started ++ copies ++ filled).filter Event.isHanded = [] := by
      rw [List.filter_append, List.filter_append, hstart.filter_isHanded,
        filter_isHanded_of_others hearly.others, filter_isHanded_of_others hrecord.others]
      rfl
    rw [List.filter_append, hquiet, List.nil_append, hfinish.performed hfollows, hrecorded,
      hcopied, hsettled]
    rfl

end Performing

/-! ## Frames in which nothing fails -/

section Faultless

variable {env : Surroundings σ} {loop loop' : FrameLoop} {events : List Event}

theorem Transferred.ok_of_faultless (hfaultless : env.Faultless) {phase : Phase}
    {answer : Except Failure Unit} (h : Transferred env phase loop answer loop' events) :
    answer = .ok () := by
  cases h with
  | @failed task _ state _ htransfer =>
    obtain ⟨_, hgood⟩ := hfaultless.transfer task.toCollaborator state
    rw [hgood] at htransfer
    cases htransfer
  | absent _ => rfl
  | done _ _ => rfl

theorem Recorded.ok_of_faultless (hfaultless : env.Faultless) {time : FrameTime}
    {pager : Option Nat} {graphs : List Graph} {answer : Except Failure (List CommandBuffer)}
    (h : Recorded env time pager graphs answer events) : ∃ recorded, answer = .ok recorded := by
  induction h with
  | nil => exact ⟨_, rfl⟩
  | @failed graph _ _ state hrecord =>
    obtain ⟨_, hgood⟩ := hfaultless.record graph.toCollaborator time pager state
    rw [hgood] at hrecord
    cases hrecord
  | cons _ _ ih =>
    obtain ⟨_, hlater⟩ := ih
    rw [hlater]
    exact ⟨_, rfl⟩

/-- When nothing fails and there is a current frame, a frame goes through. -/
theorem Submitted.ok_of_faultless (hfaultless : env.Faultless) {time : FrameTime}
    {answer : Except Failure FrameOutcome} (hcurrent : loop.current? ≠ none)
    (h : Submitted env time loop answer loop' events) : ∃ outcome, answer = .ok outcome := by
  cases h with
  | notStarted hstart =>
    cases hstart with
    | noFrame hnone => exact absurd hnone hcurrent
    | waitFailed _ _ hwait =>
      rw [hfaultless.wait] at hwait
      cases hwait
    | resetFailed _ _ hreset =>
      rw [hfaultless.reset] at hreset
      cases hreset
  | notCopied _ hearly => cases hearly.ok_of_faultless hfaultless
  | notRecorded _ _ hrecord =>
    obtain ⟨_, hgood⟩ := hrecord.ok_of_faultless hfaultless
    cases hgood
  | finished hstart hearly _ hfinish =>
    cases hfinish with
    | lateFailed hlate => cases hlate.ok_of_faultless hfaultless
    | idle _ _ => exact ⟨_, rfl⟩
    | noFrame hlate _ hnone =>
      rw [hlate.current?, hearly.current?, hstart.eq_settled, loop.settled_current?] at hnone
      exact absurd hnone hcurrent
    | rejected _ _ _ _ hsubmit =>
      rw [hfaultless.submit] at hsubmit
      cases hsubmit
    | accepted _ _ _ _ => exact ⟨_, rfl⟩

end Faultless

/-! ## Retries -/

/-- The batches that a turn hands over, with the fences and the answers. -/
def Turn.handed (turn : Turn) : List Event := turn.events.filter Event.isHanded

/-- What a frame that goes through does, from any stage. -/
theorem Stage.submit_performed {env : Surroundings σ} {script : Script}
    (hfollows : env.Follows script) {stage : Stage σ} {time : FrameTime} {outcome : FrameOutcome}
    (houtcome : (FrameLoop.submit env time stage).1 = .ok outcome) :
    (.ok outcome, (FrameLoop.submit env time stage).2.loop,
        (stage.turn env (.submit time)).handed) =
      script.perform env.provider stage.loop.settled := by
  obtain ⟨events, hevents, hsubmit⟩ := FrameLoop.submit_goes env time stage
  rw [houtcome] at hsubmit
  rw [Turn.handed, Stage.turn_events env stage (.submit time) hevents]
  exact hsubmit.performed hfollows

theorem Stage.submit_ok {env : Surroundings σ} (hfaultless : env.Faultless) {stage : Stage σ}
    (hcurrent : stage.loop.current? ≠ none) (time : FrameTime) :
    ∃ outcome, (FrameLoop.submit env time stage).1 = .ok outcome := by
  obtain ⟨_, _, hsubmit⟩ := FrameLoop.submit_goes env time stage
  exact hsubmit.ok_of_faultless hfaultless hcurrent

/-- Take any loop that has advanced, let any number of frames fail on its slot, each in whatever
way, and then run a frame that goes through.  It ends as it would have ended without the failed
ones: with the same outcome, the same batch on the same fence, and the same loop, down to what each
fence holds and which semaphores were given to each transfer.  Both do go through when nothing
fails. -/
theorem retry_is_transparent {env : Surroundings σ} {script : Script}
    (hfollows : env.Follows script) (first : Stage σ) (device : Device τ) (queue : Nat)
    (settings : FrameSettings) (world : World τ)
    (hmade : (FrameLoop.create device queue settings world).1 = .ok first.loop)
    (env' : Surroundings σ) (operations : List Operation) (hadvanced : .advance ∈ operations)
    (retried : Stage σ) (hfailed : FailedFrames (first.run env' operations) retried)
    (time : FrameTime) :
    (∀ outcome outcome',
      (FrameLoop.submit env time (first.run env' operations)).1 = .ok outcome →
      (FrameLoop.submit env time retried).1 = .ok outcome' →
      outcome' = outcome ∧
      (FrameLoop.submit env time retried).2.loop =
        (FrameLoop.submit env time (first.run env' operations)).2.loop ∧
      (retried.turn env (.submit time)).handed =
        ((first.run env' operations).turn env (.submit time)).handed) ∧
    (env.Faultless → ∃ outcome,
      (FrameLoop.submit env time (first.run env' operations)).1 = .ok outcome ∧
      (FrameLoop.submit env time retried).1 = .ok outcome) := by
  have hsame : ∀ outcome outcome',
      (FrameLoop.submit env time (first.run env' operations)).1 = .ok outcome →
      (FrameLoop.submit env time retried).1 = .ok outcome' →
      outcome' = outcome ∧
      (FrameLoop.submit env time retried).2.loop =
        (FrameLoop.submit env time (first.run env' operations)).2.loop ∧
      (retried.turn env (.submit time)).handed =
        ((first.run env' operations).turn env (.submit time)).handed := by
    intro outcome outcome' hdirect hretried
    have hleft := Stage.submit_performed hfollows hdirect
    have hright := Stage.submit_performed hfollows hretried
    rw [hfailed.settled] at hright
    have hboth := hright.trans hleft.symm
    simp only [Prod.mk.injEq, Except.ok.injEq] at hboth
    exact hboth
  refine ⟨hsame, fun hfaultless => ?_⟩
  have hnew := FrameLoop.create_new device hmade
  obtain ⟨slot, fence, hcurrent⟩ := Stage.run_current? env' hnew hadvanced
  have hdirect : (first.run env' operations).loop.current? ≠ none := by
    rw [hcurrent]
    exact Option.some_ne_none _
  have hagain : retried.loop.current? ≠ none := by
    rwa [ne_eq, ← retried.loop.settled_current?, hfailed.settled,
      (first.run env' operations).loop.settled_current?]
  obtain ⟨outcome, houtcome⟩ := Stage.submit_ok hfaultless hdirect time
  obtain ⟨outcome', houtcome'⟩ := Stage.submit_ok hfaultless hagain time
  have hequal := (hsame outcome outcome' houtcome houtcome').1
  exact ⟨outcome, houtcome, hequal ▸ houtcome'⟩

/-- Surroundings that keep to a script, and in which nothing ever fails. -/
def Script.surroundings (script : Script) : Surroundings Unit where
  provider := .bench
  createFence _ := (.ok 1, ())
  createSemaphore _ := (.ok 1000, ())
  waitFence _ _ _ := (.ok (), ())
  resetFence _ _ := (.ok (), ())
  submit _ _ _ := (.ok (), ())
  createLayout _ := (.ok 2000, ())
  createPool _ := (.ok 3000, ())
  allocateSets _ layouts _ := (.ok (List.range' 4000 layouts.length), ())
  transfer task _ := (.ok { published := script.published task }, ())
  record graph _ _ _ := (.ok { buffers := script.buffers graph }, ())
  image window _ := script.image window
  pause _ _ := ()

theorem Script.surroundings_follows (script : Script) : script.surroundings.Follows script where
  transfer _ _ _ hreport := by
    cases hreport
    rfl
  record _ _ _ _ _ hrecording := by
    cases hrecording
    rfl
  image _ _ := rfl

theorem Script.surroundings_faultless (script : Script) : script.surroundings.Faultless where
  wait _ _ _ := rfl
  reset _ _ := rfl
  submit _ _ _ := rfl
  transfer _ _ := ⟨_, rfl⟩
  record _ _ _ _ := ⟨_, rfl⟩

/-- Every transfer publishes a semaphore, and every graph records a buffer. -/
def busyScript : Script where
  published task := some ⟨100 + task.number, .transfer, .bench⟩
  buffers graph := [⟨10 + graph.number, .primary⟩]
  image _ := none

/-- Surroundings in which no fence can be reset. -/
def stuckSurroundings : Surroundings Unit :=
  { busyScript.surroundings with resetFence := fun _ _ => (.error (.device .deviceLost), ()) }

/-- Surroundings in which the queue rejects every batch. -/
def rejectingSurroundings : Surroundings Unit :=
  { busyScript.surroundings with submit := fun _ _ _ => (.error (.device .deviceLost), ()) }

/-- A new loop among surroundings without a state. -/
def newStage : Stage Unit := ⟨Bench.newLoop, { state := () }, []⟩

/-- A transfer, a graph, and a first frame. -/
def guardedFrame : List Operation :=
  [.attach .early { number := 0, name := "copies" }, .add (.graph { number := 1, name := "scene" }),
    .advance, .submit (.first 0)]

/-- The stage after that frame, whose batch the fence still guards. -/
def guardedStage : Stage Unit := newStage.run busyScript.surroundings guardedFrame

/-- The second frame is tried for the first time, and the fence cannot be reset. -/
def stuckAttempt : Except Failure FrameOutcome × Stage Unit :=
  FrameLoop.submit stuckSurroundings (.first 1) guardedStage

/-- It is tried again, and its batch is rejected. -/
def rejectedAttempt : Except Failure FrameOutcome × Stage Unit :=
  FrameLoop.submit rejectingSurroundings (.first 1) stuckAttempt.2

/-- The batch of the second frame.  It waits for the copy and tells the transfer task when the copy
is consumed. -/
def secondBatch : Batch where
  waits := [⟨100, .transfer, .bench⟩]
  buffers := [11]
  signals := [1000]

/-- Both attempts fail.  The frame is then submitted with the same batch on the same fence as
without them, and leaves the same loop. -/
theorem retry_is_transparent_after_two_failures :
    stuckAttempt.1 = .error (.device .deviceLost) ∧
    rejectedAttempt.1 = .error (.device .deviceLost) ∧
    (FrameLoop.submit busyScript.surroundings (.first 1) guardedStage).1 = .ok .submitted ∧
    (FrameLoop.submit busyScript.surroundings (.first 1) rejectedAttempt.2).1 = .ok .submitted ∧
    (guardedStage.turn busyScript.surroundings (.submit (.first 1))).handed =
      [.submitted .bench 7 secondBatch 1 (.ok ())] ∧
    (rejectedAttempt.2.turn busyScript.surroundings (.submit (.first 1))).handed =
      [.submitted .bench 7 secondBatch 1 (.ok ())] ∧
    (FrameLoop.submit busyScript.surroundings (.first 1) rejectedAttempt.2).2.loop =
      (FrameLoop.submit busyScript.surroundings (.first 1) guardedStage).2.loop := by
  have hstuck : stuckAttempt.1 = .error (.device .deviceLost) := rfl
  have hrejected : rejectedAttempt.1 = .error (.device .deviceLost) := rfl
  have hdirect : (FrameLoop.submit busyScript.surroundings (.first 1) guardedStage).1 =
      .ok .submitted := rfl
  have hbatch : (guardedStage.turn busyScript.surroundings (.submit (.first 1))).handed =
      [.submitted .bench 7 secondBatch 1 (.ok ())] := rfl
  obtain ⟨hsame, hgood⟩ := retry_is_transparent busyScript.surroundings_follows newStage
    (Bench.device .bench) 7 (.ofSlots 2) { state := {} } Bench.newLoop_made
    busyScript.surroundings guardedFrame (by simp [guardedFrame]) rejectedAttempt.2
    (.more (.more .none hstuck) hrejected) (.first 1)
  obtain ⟨outcome, hdirect', hretried⟩ := hgood busyScript.surroundings_faultless
  obtain ⟨-, hloop, hhanded⟩ := hsame outcome outcome hdirect' hretried
  cases hdirect.symm.trans hdirect'
  exact ⟨hstuck, hrejected, hdirect, hretried, hbatch, hhanded.trans hbatch, hloop⟩

end FramesInFlight
