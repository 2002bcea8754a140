import FramesInFlight.Proofs.Frame.Chaining
import FramesInFlight.Proofs.Frame.FenceSteps

/-!
# The order of a frame

A frame makes its calls in a fixed order and stops at the first one that fails.

* `Call` is a call without its answer, and `FrameLoop.protocol` lists the calls of a frame that goes
  through, in order.  The list is read off the loop before the frame, except for its last entry: the
  queue is called when something was collected.
* `Asked` says that some events are the calls of a list, in order, up to the first that failed.  The
  lemmas after it put such lists together, and read off what holds of the events.
* `Started.asked` and its like say for each phase which calls it makes and how it ends.
* `Submitted.failsWith` traces a failure that is noted back to the surroundings.
* `submit_keeps_to_protocol` is the result for a frame run from any stage.

What an accepted batch hands to the transfer tasks afterwards is no call of the protocol, since
nothing depends on it any more.  `Turn.KeepsToProtocol` says that nothing else is asked.
-/

namespace FramesInFlight

variable {σ α : Type}

/-! ## Calls -/

/-- A call that belongs to the protocol of a frame. -/
inductive Call where
  | clear (task : Collaborator)
  | wait (fence timeout : Nat)
  | reset (fence : Nat)
  | transfer (task : Collaborator)
  | record (graph : Collaborator) (time : FrameTime) (pager : Option Nat)
  | enqueue (queue fence : Nat)

namespace Event

/-- The call of the protocol that an event has the answer of. -/
def call? : Event → Option Call
  | transferCleared task => some (.clear task)
  | fenceWaited _ fence timeout _ => some (.wait fence timeout)
  | fenceReset _ fence _ => some (.reset fence)
  | transferred task _ => some (.transfer task)
  | recorded graph time pager _ => some (.record graph time pager)
  | submitted _ queue _ fence _ => some (.enqueue queue fence)
  | _ => none

/-- What a call of the protocol failed with. -/
def failure? : Event → Option Failure
  | fenceWaited _ _ _ (.error failure) => some failure
  | fenceReset _ _ (.error failure) => some failure
  | transferred _ (.error failure) => some failure
  | recorded _ _ _ (.error failure) => some failure
  | submitted _ _ _ _ (.error failure) => some failure
  | _ => none

/-- Handing a semaphore to a transfer task is no call of the protocol, and does not fail. -/
theorem of_isGiven {event : Event} (hgiven : event.isGiven = true) :
    event.call? = none ∧ event.failure? = none := by
  cases event with
  | waitGiven _ _ => exact ⟨rfl, rfl⟩
  | _ => cases hgiven

theorem calls_of_isGiven {events : List Event} (hgiven : ∀ event ∈ events, event.isGiven = true) :
    events.filterMap call? = [] :=
  List.filterMap_eq_nil_iff.mpr fun event hmem => (of_isGiven (hgiven event hmem)).1

end Event

namespace FrameLoop

/-- Each transfer task forgets its copy of the previous frame. -/
def clearCalls (loop : FrameLoop) : List Call :=
  (loop.early.task.toList ++ loop.late.task.toList).map (.clear ·.toCollaborator)

/-- A fence that guards a batch is waited for and reset. -/
def reclaimCalls (loop : FrameLoop) (fence : Fence) : List Call :=
  if fence.isHolding then [.wait fence.handle loop.timeout, .reset fence.handle] else []

/-- The transfer task of a phase runs, if there is one. -/
def transferCalls (loop : FrameLoop) (phase : Phase) : List Call :=
  (loop.lane phase).task.toList.map (.transfer ·.toCollaborator)

/-- Every graph records, in the order in which they were added. -/
def recordCalls (loop : FrameLoop) (time : FrameTime) : List Call :=
  loop.graphs.map (.record ·.toCollaborator time loop.pager)

/-- The queue is given what was collected, if anything was. -/
def enqueueCalls (loop : FrameLoop) (fence : Fence) (collected : List CommandBuffer) : List Call :=
  if collected.isEmpty then [] else [.enqueue loop.queue fence.handle]

/-- The calls of a frame in which none fails. -/
def protocol (loop : FrameLoop) (time : FrameTime) (collected : List CommandBuffer) : List Call :=
  match loop.current? with
  | none => loop.clearCalls
  | some (_, fence) =>
    loop.clearCalls ++ loop.reclaimCalls fence ++ loop.transferCalls .early ++
      loop.recordCalls time ++ loop.transferCalls .late ++ loop.enqueueCalls fence collected

/-- How a frame in which no call fails ends. -/
def conclusion (loop : FrameLoop) (collected : List CommandBuffer) : Except Failure FrameOutcome :=
  match loop.current? with
  | none => .error .noCurrentFrame
  | some _ => .ok (if collected.isEmpty then .idle else .submitted)

/-- The calls of a frame, phase by phase. -/
theorem protocol_of_current {loop : FrameLoop} {slot : Nat} {fence : Fence}
    (hcurrent : loop.current? = some (slot, fence)) (time : FrameTime)
    (collected : List CommandBuffer) :
    loop.protocol time collected =
      (loop.clearCalls ++ loop.reclaimCalls fence) ++ (loop.transferCalls .early ++
        (loop.recordCalls time ++
          (loop.transferCalls .late ++ loop.enqueueCalls fence collected))) := by
  simp only [protocol, hcurrent, List.append_assoc]

theorem conclusion_of_current {loop : FrameLoop} {slot : Nat} {fence : Fence}
    (hcurrent : loop.current? = some (slot, fence)) (collected : List CommandBuffer) :
    loop.conclusion collected = .ok (if collected.isEmpty then .idle else .submitted) := by
  rw [conclusion, hcurrent]

/-- Apart from what was published and given, a lane decides which task is run. -/
theorem transferCalls_congr {loop loop' : FrameLoop} {phase : Phase}
    (hlane : (loop'.lane phase).cleared = (loop.lane phase).cleared) :
    loop'.transferCalls phase = loop.transferCalls phase := by
  have hcalls := congrArg (List.map Call.transfer) (Lane.collaborators_of_cleared hlane)
  rwa [List.map_map, List.map_map] at hcalls

end FrameLoop

/-! ## Calls made up to the first failure -/

/-- The events are the calls of a list, in order, up to the first one that failed, and `failed` is
what that one failed with. -/
inductive Asked : List Call → Option Failure → List Event → Prop
  | nil : Asked [] none []
  | failed {call : Call} {later : List Call} {event : Event} {failure : Failure}
      (hcall : event.call? = some call) (hfailure : event.failure? = some failure) :
      Asked (call :: later) (some failure) [event]
  | cons {call : Call} {later : List Call} {event : Event} {events : List Event}
      {failed : Option Failure} (hcall : event.call? = some call) (hfine : event.failure? = none)
      (hlater : Asked later failed events) : Asked (call :: later) failed (event :: events)

namespace Asked

variable {calls later : List Call} {failed : Option Failure} {failure : Failure}
  {events more : List Event}

/-- Calls of which none failed, and then more of them. -/
theorem append (hfirst : Asked calls none events) (hlater : Asked later failed more) :
    Asked (calls ++ later) failed (events ++ more) := by
  generalize hnone : none = first at hfirst
  induction hfirst with
  | nil => exact hlater
  | failed _ _ => cases hnone
  | cons hcall hfine _ ih => exact .cons hcall hfine (ih hnone)

/-- After a call that failed it does not matter which ones would have been next. -/
theorem stopped (hfirst : Asked calls (some failure) events) (later : List Call) :
    Asked (calls ++ later) (some failure) events := by
  generalize hsome : some failure = first at hfirst ⊢
  induction hfirst with
  | nil => cases hsome
  | failed hcall hfailure => exact .failed hcall hfailure
  | cons hcall hfine _ ih => exact .cons hcall hfine (ih hsome)

/-- Calls that cannot fail. -/
theorem of_fine (tasks : List Transfer) {call : Transfer → Call} {event : Transfer → Event}
    (hcall : ∀ task, (event task).call? = some (call task))
    (hfine : ∀ task, (event task).failure? = none) :
    Asked (tasks.map call) none (tasks.map event) := by
  induction tasks with
  | nil => exact .nil
  | cons task _ ih => exact .cons (hcall task) (hfine task) ih

theorem order (h : Asked calls failed events) : events.filterMap Event.call? <+: calls := by
  induction h with
  | nil => exact List.prefix_refl _
  | failed hcall _ =>
    rw [List.filterMap_cons_some hcall, List.filterMap_nil]
    exact List.prefix_append _ _
  | cons hcall _ _ ih =>
    rw [List.filterMap_cons_some hcall]
    exact (List.prefix_cons_inj _).mpr ih

/-- When none failed, all of them were made. -/
theorem whole (h : Asked calls none events) : events.filterMap Event.call? = calls := by
  generalize hnone : none = failed at h
  induction h with
  | nil => rfl
  | failed _ _ => cases hnone
  | cons hcall _ _ ih => rw [List.filterMap_cons_some hcall, ih hnone]

theorem called (h : Asked calls failed events) : ∀ event ∈ events, event.call? ≠ none := by
  induction h with
  | nil => simp
  | failed hcall _ => simp [hcall]
  | cons hcall _ _ ih => simpa [hcall] using ih

/-- An event of a call that failed is the last one. -/
theorem stops (h : Asked calls failed events) {before after : List Event} {event : Event}
    (hevents : events = before ++ event :: after) (hfailure : event.failure? = some failure) :
    after = [] ∧ failed = some failure := by
  induction h generalizing before with
  | nil => simp at hevents
  | failed _ hfailed =>
    cases before with
    | nil =>
      obtain ⟨rfl, rfl⟩ := List.cons.inj hevents
      exact ⟨rfl, hfailed.symm.trans hfailure⟩
    | cons _ _ => simp at hevents
  | cons _ hfine _ ih =>
    cases before with
    | nil =>
      obtain ⟨rfl, _⟩ := List.cons.inj hevents
      cases hfine.symm.trans hfailure
    | cons _ _ => exact ih (List.cons.inj hevents).2

/-- When some call failed, one of the events says so. -/
theorem exists_failure (h : Asked calls (some failure) events) :
    ∃ event ∈ events, event.failure? = some failure := by
  generalize hsome : some failure = failed at h ⊢
  induction h with
  | nil => cases hsome
  | failed _ hfailure => exact ⟨_, List.mem_cons_self, hfailure⟩
  | cons _ _ _ ih =>
    obtain ⟨event, hmem, hfailure⟩ := ih hsome
    exact ⟨event, List.mem_cons_of_mem _ hmem, hfailure⟩

end Asked

/-- A piece of a frame makes some calls up to the first that fails, and ends with its failure or,
when none fails, with a value. -/
inductive CarriedOut (calls : List Call) : Except Failure α → List Event → Prop
  | stopped {failure : Failure} {events : List Event} (hasked : Asked calls (some failure) events) :
      CarriedOut calls (.error failure) events
  | whole {a : α} {events : List Event} (hasked : Asked calls none events) :
      CarriedOut calls (.ok a) events

/-- The end of a frame makes some calls up to the first that fails, and ends with its failure or,
when none fails, with `conclusion`.  Only a batch that was accepted has something handed over after
it. -/
inductive Concluded (calls : List Call) (conclusion : Except Failure FrameOutcome) :
    Except Failure FrameOutcome → List Event → Prop
  | stopped {failure : Failure} {events : List Event} (hasked : Asked calls (some failure) events) :
      Concluded calls conclusion (.error failure) events
  | whole {asked told : List Event} (hasked : Asked calls none asked)
      (hgiven : ∀ event ∈ told, event.isGiven = true)
      (haccepted : told ≠ [] → conclusion = .ok .submitted) :
      Concluded calls conclusion conclusion (asked ++ told)

namespace Concluded

variable {calls later : List Call} {conclusion answer : Except Failure FrameOutcome}
  {events more : List Event} {failure : Failure}

/-- Nothing is handed over. -/
theorem of_asked (hasked : Asked calls none events) :
    Concluded calls conclusion conclusion events := by
  have hwhole : Concluded calls conclusion conclusion (events ++ []) :=
    .whole hasked (by simp) (by simp)
  rwa [List.append_nil] at hwhole

/-- Calls of which none failed come before. -/
theorem after (hfirst : Asked calls none events)
    (hlater : Concluded later conclusion answer more) :
    Concluded (calls ++ later) conclusion answer (events ++ more) := by
  cases hlater with
  | stopped hasked => exact .stopped (hfirst.append hasked)
  | whole hasked hgiven haccepted =>
    rw [← List.append_assoc]
    exact .whole (hfirst.append hasked) hgiven haccepted

end Concluded

namespace CarriedOut

variable {calls : List Call} {events : List Event}

/-- None of the calls of a piece that goes through has failed. -/
theorem asked {a : α} (h : CarriedOut calls (.ok a) events) : Asked calls none events := by
  cases h with
  | whole hasked => exact hasked

/-- A piece that fails is the end of the frame, whatever would have been next. -/
theorem concluded {failure : Failure} (later : List Call)
    {conclusion : Except Failure FrameOutcome}
    (h : CarriedOut (α := α) calls (.error failure) events) :
    Concluded (calls ++ later) conclusion (.error failure) events := by
  cases h with
  | stopped hasked => exact .stopped (hasked.stopped later)

end CarriedOut

/-! ## The calls of each phase -/

section Phases

variable {env : Surroundings σ} {loop loop' : FrameLoop} {events : List Event} {slot : Nat}
  {fence : Fence}

theorem FrameLoop.clear_asked (loop : FrameLoop) :
    Asked loop.clearCalls none loop.clearEvents := by
  rw [clearCalls, clearEvents, ← List.map_append]
  exact Asked.of_fine _ (fun _ => rfl) fun _ => rfl

/-- Without a current frame, the copies are forgotten and that is all. -/
theorem Started.asked_of_unset {answer : Except Failure Unit}
    (h : Started env loop answer loop' events) (hunset : loop.current? = none) :
    Asked loop.clearCalls none events ∧ answer = .error .noCurrentFrame := by
  cases h with
  | noFrame _ => exact ⟨loop.clear_asked, rfl⟩
  | free hcurrent _ | waitFailed hcurrent _ _ | resetFailed hcurrent _ _ | reclaimed hcurrent _ =>
    cases hunset.symm.trans hcurrent

theorem Started.carriedOut {answer : Except Failure Unit}
    (h : Started env loop answer loop' events) (hcurrent : loop.current? = some (slot, fence)) :
    CarriedOut (loop.clearCalls ++ loop.reclaimCalls fence) answer events := by
  have hclear := loop.clear_asked
  unfold FrameLoop.reclaimCalls
  cases h with
  | noFrame hunset => cases hunset.symm.trans hcurrent
  | free hcurrent' hfree =>
    cases hcurrent'.symm.trans hcurrent
    rw [hfree, if_neg Bool.false_ne_true, List.append_nil]
    exact .whole hclear
  | waitFailed hcurrent' hholding _ =>
    cases hcurrent'.symm.trans hcurrent
    rw [if_pos hholding]
    exact .stopped (hclear.append (.failed rfl rfl))
  | resetFailed hcurrent' hholding _ =>
    cases hcurrent'.symm.trans hcurrent
    rw [if_pos hholding]
    exact .stopped (hclear.append (.cons rfl rfl (.failed rfl rfl)))
  | reclaimed hcurrent' hholding =>
    cases hcurrent'.symm.trans hcurrent
    rw [if_pos hholding]
    exact .whole (hclear.append (.cons rfl rfl (.cons rfl rfl .nil)))

/-- A start that goes through leaves the frame on the same fence. -/
theorem Started.current? (h : Started env loop (.ok ()) loop' events)
    (hcurrent : loop.current? = some (slot, fence)) :
    ∃ fence', loop'.current? = some (slot, fence') ∧ fence'.handle = fence.handle := by
  cases h with
  | free _ _ => exact ⟨fence, hcurrent, rfl⟩
  | reclaimed hcurrent' _ =>
    cases hcurrent'.symm.trans hcurrent
    obtain ⟨hslot, hfence⟩ := FrameLoop.current?_eq_some.mp hcurrent
    refine ⟨fence.release, FrameLoop.current?_eq_some.mpr ⟨hslot, ?_⟩, rfl⟩
    simp [FrameLoop.mapFence, FrameLoop.cleared, hfence]

theorem Transferred.carriedOut {phase : Phase} {answer : Except Failure Unit}
    (h : Transferred env phase loop answer loop' events) :
    CarriedOut (loop.transferCalls phase) answer events := by
  unfold FrameLoop.transferCalls
  cases h with
  | absent habsent =>
    rw [habsent]
    exact .whole .nil
  | failed hpresent _ =>
    rw [hpresent]
    exact .stopped (.failed rfl rfl)
  | done hpresent _ =>
    rw [hpresent]
    exact .whole (.cons rfl rfl .nil)

/-- The graphs are asked one by one. -/
theorem Recorded.carriedOut {time : FrameTime} {pager : Option Nat} {graphs : List Graph}
    {answer : Except Failure (List CommandBuffer)}
    (h : Recorded env time pager graphs answer events) :
    CarriedOut (graphs.map (.record ·.toCollaborator time pager)) answer events := by
  induction h with
  | nil => exact .whole .nil
  | failed _ => exact .stopped (.failed rfl rfl)
  | cons _ _ ih =>
    cases ih with
    | stopped hasked => exact .stopped (.cons rfl rfl hasked)
    | whole hasked => exact .whole (.cons rfl rfl hasked)

/-- A finish runs the late task and then calls the queue, if there is something to submit. -/
theorem Finished.concluded {recorded : List CommandBuffer} {answer : Except Failure FrameOutcome}
    (h : Finished env recorded loop answer loop' events)
    (hcurrent : loop.current? = some (slot, fence)) :
    Concluded (loop.transferCalls .late ++ loop.enqueueCalls fence recorded)
      (.ok (if recorded.isEmpty then .idle else .submitted)) answer events := by
  unfold FrameLoop.enqueueCalls
  cases h with
  | lateFailed hlate => exact hlate.carriedOut.concluded _
  | idle hlate hempty =>
    subst hempty
    rw [List.isEmpty_nil, if_pos rfl, if_pos rfl, List.append_nil]
    exact .of_asked hlate.carriedOut.asked
  | noFrame hlate _ hunset => cases hunset.symm.trans (hlate.current?.trans hcurrent)
  | rejected hlate hrecorded hcurrent' _ _ =>
    cases hcurrent'.symm.trans (hlate.current?.trans hcurrent)
    have hasked := hlate.carriedOut.asked
    obtain ⟨_, _, rfl⟩ := hlate.frame
    rw [if_neg (by simpa using hrecorded)]
    exact .stopped (hasked.append (.failed rfl rfl))
  | accepted hlate hrecorded hcurrent' _ =>
    cases hcurrent'.symm.trans (hlate.current?.trans hcurrent)
    have hempty : ¬ recorded.isEmpty = true := by simpa using hrecorded
    rw [if_neg hempty, if_neg hempty]
    have hasked := hlate.carriedOut.asked
    obtain ⟨_, _, rfl⟩ := hlate.frame
    refine .whole (hasked.append (.cons rfl rfl .nil)) (fun event hmem => ?_) fun _ => rfl
    rcases List.mem_append.mp hmem with hmem | hmem
    · obtain ⟨_, _, rfl⟩ := FrameLoop.mem_consumedEvents hmem
      rfl
    · obtain ⟨_, _, rfl⟩ := FrameLoop.mem_consumedEvents hmem
      rfl

end Phases

/-! ## A whole frame -/

section Frames

variable {env : Surroundings σ} {time : FrameTime} {loop loop' : FrameLoop} {events : List Event}
  {answer : Except Failure FrameOutcome} {slot : Nat} {fence : Fence}

theorem Started.transferCalls {answer : Except Failure Unit}
    (h : Started env loop answer loop' events) (phase : Phase) :
    loop'.transferCalls phase = loop.transferCalls phase := by
  refine FrameLoop.transferCalls_congr ?_
  rw [h.lane, Lane.cleared_cleared]

theorem Transferred.transferCalls {phase : Phase} {answer : Except Failure Unit}
    (h : Transferred env phase loop answer loop' events) (other : Phase) :
    loop'.transferCalls other = loop.transferCalls other :=
  FrameLoop.transferCalls_congr (h.lane_cleared other)

/-- Without a current frame, a frame ends where its start does. -/
theorem Submitted.asked_of_unset (h : Submitted env time loop answer loop' events)
    (hunset : loop.current? = none) :
    Asked loop.clearCalls none events ∧ answer = .error .noCurrentFrame := by
  cases h with
  | notStarted hstart =>
    obtain ⟨hasked, hanswer⟩ := hstart.asked_of_unset hunset
    cases hanswer
    exact ⟨hasked, rfl⟩
  | notCopied hstart _ | notRecorded hstart _ _ | finished hstart _ _ _ =>
    cases (hstart.asked_of_unset hunset).2

/-- The graphs of a frame are those of the loop, with its pager. -/
theorem Recorded.carriedOut_frame {loop₁ loop₂ : FrameLoop} {started copied filled : List Event}
    {answer₁ answer₂ : Except Failure Unit} {answer : Except Failure (List CommandBuffer)}
    (hstart : Started env loop answer₁ loop₁ started)
    (hearly : Transferred env .early loop₁ answer₂ loop₂ copied)
    (hrecord : Recorded env time loop₂.pager loop₂.graphs answer filled) :
    CarriedOut (loop.recordCalls time) answer filled := by
  have hasked := hrecord.carriedOut
  obtain ⟨_, _, rfl⟩ := hearly.frame
  obtain ⟨_, _, _, rfl⟩ := hstart.frame
  exact hasked

/-- With a current frame, the calls of the phases follow one another. -/
theorem Submitted.concluded_of_current (h : Submitted env time loop answer loop' events)
    (hcurrent : loop.current? = some (slot, fence)) :
    Concluded (loop.protocol time (events.flatMap Event.recordedBuffers))
      (loop.conclusion (events.flatMap Event.recordedBuffers)) answer events := by
  rw [FrameLoop.protocol_of_current hcurrent, FrameLoop.conclusion_of_current hcurrent]
  cases h with
  | notStarted hstart => exact (hstart.carriedOut hcurrent).concluded _
  | notCopied hstart hearly =>
    have hstarted := (hstart.carriedOut hcurrent).asked
    have hcopied := hearly.carriedOut
    rw [hstart.transferCalls] at hcopied
    exact .after hstarted (hcopied.concluded _)
  | @notRecorded _ _ _ _ _ filled hstart hearly hrecord =>
    have hstarted := (hstart.carriedOut hcurrent).asked
    have hcopied := hearly.carriedOut.asked
    have hfilled := hrecord.carriedOut_frame hstart hearly
    rw [hstart.transferCalls] at hcopied
    rw [List.append_assoc _ _ filled]
    exact .after hstarted (.after hcopied (hfilled.concluded _))
  | @finished _ loop₁ loop₂ _ started copied filled closed recorded hstart hearly hrecord
      hfinish =>
    have hstarted := (hstart.carriedOut hcurrent).asked
    have hcopied := hearly.carriedOut.asked
    have hfilled := (hrecord.carriedOut_frame hstart hearly).asked
    rw [hstart.transferCalls] at hcopied
    -- What the whole frame collected is what its graphs recorded.
    have hcollected : (started ++ copied ++ filled ++ closed).flatMap Event.recordedBuffers =
        recorded := by
      simp [hstart.collected, hearly.collected, hrecord.collected rfl, hfinish.collected]
    rw [hcollected]
    obtain ⟨fence', hcurrent', hhandle⟩ := hstart.current? hcurrent
    have hclosed := hfinish.concluded (hearly.current?.trans hcurrent')
    have henqueue : loop₂.enqueueCalls fence' recorded = loop.enqueueCalls fence recorded := by
      have hqueue : loop₂.queue = loop.queue := by
        obtain ⟨_, _, rfl⟩ := hearly.frame
        obtain ⟨_, _, _, rfl⟩ := hstart.frame
        rfl
      rw [FrameLoop.enqueueCalls, FrameLoop.enqueueCalls, hqueue, hhandle]
    rw [hearly.transferCalls, hstart.transferCalls, henqueue] at hclosed
    rw [List.append_assoc (started ++ copied), List.append_assoc started]
    exact .after hstarted (.after hcopied (.after hfilled hclosed))

/-- A frame makes the calls of the protocol up to the first that fails, and ends as that one did. -/
theorem Submitted.concluded (h : Submitted env time loop answer loop' events) :
    Concluded (loop.protocol time (events.flatMap Event.recordedBuffers))
      (loop.conclusion (events.flatMap Event.recordedBuffers)) answer events := by
  cases hcurrent : loop.current? with
  | none =>
    obtain ⟨hasked, rfl⟩ := h.asked_of_unset hcurrent
    rw [FrameLoop.protocol, FrameLoop.conclusion, hcurrent]
    exact .of_asked hasked
  | some current => exact h.concluded_of_current hcurrent

end Frames

/-! ## Where failures come from -/

/-- Asked for what an event notes, the surroundings can answer with a failure. -/
def Surroundings.FailsWith (env : Surroundings σ) (failure : Failure) : Event → Prop
  | .fenceWaited _ fence timeout _ =>
    ∃ state, (env.waitFence fence timeout state).1 = .error failure
  | .fenceReset _ fence _ => ∃ state, (env.resetFence fence state).1 = .error failure
  | .transferred task _ => ∃ state, (env.transfer task state).1 = .error failure
  | .recorded graph time pager _ =>
    ∃ state, (env.record graph time pager state).1 = .error failure
  | .submitted _ _ batch fence _ => ∃ state, (env.submit batch fence state).1 = .error failure
  | _ => False

section Failures

variable {env : Surroundings σ} {loop loop' : FrameLoop} {events : List Event} {event : Event}
  {failure : Failure}

theorem Started.failsWith {answer : Except Failure Unit}
    (h : Started env loop answer loop' events) (hmem : event ∈ events)
    (hfailure : event.failure? = some failure) : env.FailsWith failure event := by
  have hcleared : event ∉ loop.clearEvents := by
    intro hmem
    obtain ⟨_, rfl⟩ := FrameLoop.mem_clearEvents hmem
    cases hfailure
  cases h with
  | noFrame _ | free _ _ => exact absurd hmem hcleared
  | waitFailed _ _ hwait =>
    cases List.mem_singleton.mp ((List.mem_append.mp hmem).resolve_left hcleared)
    cases hfailure
    exact ⟨_, hwait⟩
  | resetFailed _ _ hreset =>
    rcases List.mem_pair.mp ((List.mem_append.mp hmem).resolve_left hcleared) with rfl | rfl
    · cases hfailure
    · cases hfailure
      exact ⟨_, hreset⟩
  | reclaimed _ _ =>
    rcases List.mem_pair.mp ((List.mem_append.mp hmem).resolve_left hcleared) with rfl | rfl
    · cases hfailure
    · cases hfailure

theorem Transferred.failsWith {phase : Phase} {answer : Except Failure Unit}
    (h : Transferred env phase loop answer loop' events) (hmem : event ∈ events)
    (hfailure : event.failure? = some failure) : env.FailsWith failure event := by
  cases h with
  | absent _ => cases hmem
  | failed _ htransfer =>
    cases List.mem_singleton.mp hmem
    cases hfailure
    exact ⟨_, htransfer⟩
  | done _ _ =>
    cases List.mem_singleton.mp hmem
    cases hfailure

theorem Recorded.failsWith {time : FrameTime} {pager : Option Nat} {graphs : List Graph}
    {answer : Except Failure (List CommandBuffer)}
    (h : Recorded env time pager graphs answer events) (hmem : event ∈ events)
    (hfailure : event.failure? = some failure) : env.FailsWith failure event := by
  induction h with
  | nil => cases hmem
  | failed hrecord =>
    cases List.mem_singleton.mp hmem
    cases hfailure
    exact ⟨_, hrecord⟩
  | cons _ _ ih =>
    rcases List.mem_cons.mp hmem with rfl | hmem
    · cases hfailure
    · exact ih hmem

theorem Finished.failsWith {recorded : List CommandBuffer} {answer : Except Failure FrameOutcome}
    (h : Finished env recorded loop answer loop' events) (hmem : event ∈ events)
    (hfailure : event.failure? = some failure) : env.FailsWith failure event := by
  cases h with
  | lateFailed hlate | idle hlate _ | noFrame hlate _ _ => exact hlate.failsWith hmem hfailure
  | rejected hlate _ _ _ hsubmit =>
    rcases List.mem_append.mp hmem with hmem | hmem
    · exact hlate.failsWith hmem hfailure
    · cases List.mem_singleton.mp hmem
      cases hfailure
      exact ⟨_, hsubmit⟩
  | accepted hlate _ _ _ =>
    rcases List.mem_append.mp hmem with hmem | hmem
    · rcases List.mem_append.mp hmem with hmem | hmem
      · exact hlate.failsWith hmem hfailure
      · cases List.mem_singleton.mp hmem
        cases hfailure
    · rcases List.mem_append.mp hmem with hmem | hmem
      · obtain ⟨_, _, rfl⟩ := FrameLoop.mem_consumedEvents hmem
        cases hfailure
      · obtain ⟨_, _, rfl⟩ := FrameLoop.mem_consumedEvents hmem
        cases hfailure

/-- A failure noted in a frame is one that the surroundings answered with. -/
theorem Submitted.failsWith {time : FrameTime} {answer : Except Failure FrameOutcome}
    (h : Submitted env time loop answer loop' events) (hmem : event ∈ events)
    (hfailure : event.failure? = some failure) : env.FailsWith failure event := by
  cases h with
  | notStarted hstart => exact hstart.failsWith hmem hfailure
  | notCopied hstart hearly =>
    rcases List.mem_append.mp hmem with hmem | hmem
    · exact hstart.failsWith hmem hfailure
    · exact hearly.failsWith hmem hfailure
  | notRecorded hstart hearly hrecord =>
    simp only [List.mem_append] at hmem
    rcases hmem with (hmem | hmem) | hmem
    · exact hstart.failsWith hmem hfailure
    · exact hearly.failsWith hmem hfailure
    · exact hrecord.failsWith hmem hfailure
  | finished hstart hearly hrecord hfinish =>
    simp only [List.mem_append] at hmem
    rcases hmem with ((hmem | hmem) | hmem) | hmem
    · exact hstart.failsWith hmem hfailure
    · exact hearly.failsWith hmem hfailure
    · exact hrecord.failsWith hmem hfailure
    · exact hfinish.failsWith hmem hfailure

end Failures

/-! ## What can be read off the events -/

namespace Concluded

variable {calls : List Call} {conclusion answer : Except Failure FrameOutcome}
  {events : List Event}

theorem order (h : Concluded calls conclusion answer events) :
    events.filterMap Event.call? <+: calls := by
  cases h with
  | stopped hasked => exact hasked.order
  | whole hasked hgiven _ =>
    rw [List.filterMap_append, Event.calls_of_isGiven hgiven, List.append_nil]
    exact hasked.order

theorem stops (h : Concluded calls conclusion answer events) {before after : List Event}
    {event : Event} {failure : Failure} (hevents : events = before ++ event :: after)
    (hfailure : event.failure? = some failure) :
    after = [] ∧ answer = .error failure := by
  cases h with
  | stopped hasked =>
    obtain ⟨hlast, hsame⟩ := hasked.stops hevents hfailure
    cases hsame
    exact ⟨hlast, rfl⟩
  | whole hasked hgiven _ =>
    have hmem : event ∈ before ++ event :: after := List.mem_append_right _ List.mem_cons_self
    rw [← hevents] at hmem
    rcases List.mem_append.mp hmem with hmem | hmem
    · obtain ⟨_, _, hsplit⟩ := List.append_of_mem hmem
      cases (hasked.stops hsplit hfailure).2
    · cases (Event.of_isGiven (hgiven event hmem)).2.symm.trans hfailure

theorem conclusion_eq {outcome : FrameOutcome}
    (h : Concluded calls conclusion (.ok outcome) events) : conclusion = .ok outcome := by
  generalize hok : Except.ok outcome = answer at h
  cases h with
  | stopped _ => cases hok
  | whole _ _ _ => rfl

theorem whole_of_fine (h : Concluded calls conclusion answer events)
    (hfine : ∀ event ∈ events, event.failure? = none) :
    events.filterMap Event.call? = calls ∧ answer = conclusion := by
  cases h with
  | stopped hasked =>
    obtain ⟨event, hmem, hfailure⟩ := hasked.exists_failure
    cases (hfine event hmem).symm.trans hfailure
  | whole hasked hgiven _ =>
    rw [List.filterMap_append, Event.calls_of_isGiven hgiven, List.append_nil]
    exact ⟨hasked.whole, rfl⟩

theorem others (h : Concluded calls conclusion answer events) :
    ∃ asked told, events = asked ++ told ∧ (∀ event ∈ asked, event.call? ≠ none) ∧
      (∀ event ∈ told, event.isGiven = true) ∧ (told ≠ [] → answer = .ok .submitted) := by
  cases h with
  | stopped hasked => exact ⟨_, [], (List.append_nil _).symm, hasked.called, by simp, by simp⟩
  | whole hasked hgiven haccepted => exact ⟨_, _, rfl, hasked.called, hgiven, haccepted⟩

end Concluded

/-! ## Turns -/

/-- The calls of the protocol that a turn makes, in order. -/
def Turn.calls (turn : Turn) : List Call := turn.events.filterMap Event.call?

/-- A turn that runs a frame and ends with `answer` keeps to the protocol. -/
structure Turn.KeepsToProtocol (env : Surroundings σ) (turn : Turn) (time : FrameTime)
    (answer : Except Failure FrameOutcome) : Prop where
  /-- The calls come in the order of the protocol. -/
  order : turn.calls <+: turn.loop.protocol time turn.collected
  /-- A call that fails is the last one, and the frame ends with the very failure that the
  surroundings answered with. -/
  stops : ∀ before event after failure, turn.events = before ++ event :: after →
    event.failure? = some failure →
      after = [] ∧ answer = .error failure ∧ env.FailsWith failure event
  /-- When none fails, all are made, and the frame is submitted if anything was collected. -/
  whole : (∀ event ∈ turn.events, event.failure? = none) →
    turn.calls = turn.loop.protocol time turn.collected ∧
      answer = turn.loop.conclusion turn.collected
  /-- While no slot is in use, the frame ends once the copies are forgotten. -/
  unset : turn.loop.slot? 0 = none →
    turn.calls = turn.loop.clearCalls ∧ answer = .error .noCurrentFrame
  /-- Nothing else is asked, but an accepted batch may have semaphores handed over after it. -/
  others : ∃ asked told, turn.events = asked ++ told ∧ (∀ event ∈ asked, event.call? ≠ none) ∧
    (∀ event ∈ told, event.isGiven = true) ∧ (told ≠ [] → answer = .ok .submitted)

/-- A loop keeps all that it was set up with, and the fences of the slots that are not in use. -/
structure FrameLoop.KeepsSetup (loop loop' : FrameLoop) : Prop where
  /-- The ring, the graphs, the windows, the semaphores of the application, the pager and the
  settings. -/
  frame : ∃ early late fences,
    loop' = { loop with early := early, late := late, fences := fences }
  consumed : ∀ phase, (loop'.lane phase).consumed = (loop.lane phase).consumed
  tasks : ∀ phase, (loop'.lane phase).task.toList.map (·.toCollaborator) =
    (loop.lane phase).task.toList.map (·.toCollaborator)
  handles : loop'.fences.map (·.handle) = loop.fences.map (·.handle)
  others : ∀ slot, loop.slot? 0 ≠ some slot → loop'.fences[slot]? = loop.fences[slot]?

/-- What a frame leaves alone.  Its lanes have what they had, apart from what was published and
given, and of the fences only the one of the slot in use may hold something else. -/
theorem Stage.submit_keepsSetup (env : Surroundings σ) (stage : Stage σ) (time : FrameTime) :
    stage.loop.KeepsSetup (FrameLoop.submit env time stage).2.loop := by
  obtain ⟨_, _, hsubmit⟩ := FrameLoop.submit_goes env time stage
  have hsteps := turn_fenceSteps env stage (.submit time)
  have hlane : ∀ phase, ((FrameLoop.submit env time stage).2.loop.lane phase).cleared =
      ((stage.loop.lane phase).handed
        (if (stage.turn env (.submit time)).handsOver phase then 1 else 0)).cleared :=
    (Operation.course env stage (rfl : (Operation.submit time).isFrame = true)).1.lanes
  refine ⟨hsubmit.frame, fun phase => ?_, fun phase => ?_, hsteps.handles,
    fun slot hother => hsteps.getElem?_of_other hother⟩
  · have hconsumed := congrArg Lane.consumed (hlane phase)
    exact hconsumed
  · rw [Lane.collaborators_of_cleared (hlane phase), Lane.handed_collaborators]

/-- Take any loop and run a frame, whatever the surroundings answer to each call.  The calls are
those of the protocol, in its order, up to the first that fails; that one is the last, and the frame
ends with its failure, whatever its cause.  When none fails, all of them are made, and the frame is
submitted if the graphs collected a buffer of any level, and idle otherwise.  Before the first
advance the frame ends after the copies are forgotten.  In every case the loop keeps its setup. -/
theorem submit_keeps_to_protocol (env : Surroundings σ) (stage : Stage σ) (time : FrameTime) :
    (stage.turn env (.submit time)).KeepsToProtocol env time (FrameLoop.submit env time stage).1 ∧
      stage.loop.KeepsSetup (FrameLoop.submit env time stage).2.loop := by
  obtain ⟨events, hevents, hsubmit⟩ := FrameLoop.submit_goes env time stage
  rw [← Stage.turn_events env stage (.submit time) hevents] at hsubmit
  have hconcluded := hsubmit.concluded
  refine ⟨⟨hconcluded.order, fun before event after failure hsplit hfailure => ?_,
    hconcluded.whole_of_fine, fun hunset => ?_, hconcluded.others⟩,
    stage.submit_keepsSetup env time⟩
  · obtain ⟨hlast, hanswer⟩ := hconcluded.stops hsplit hfailure
    have hmem : event ∈ before ++ event :: after := List.mem_append_right _ List.mem_cons_self
    exact ⟨hlast, hanswer, hsubmit.failsWith (hsplit ▸ hmem) hfailure⟩
  have hcurrent : stage.loop.current? = none := congrArg (Option.bind · _) hunset
  obtain ⟨hasked, hanswer⟩ := hsubmit.asked_of_unset hcurrent
  exact ⟨hasked.whole, hanswer⟩

/-- A graph that binds lights which were not compiled ends the frame with just that failure. -/
example :
    (FrameLoop.submit
      { Bench.surroundings .bench with
        record := fun _ _ _ bench => (.error (.notCompiled "ViewDependentState"), bench) }
      (.first 0)
      (Stage.advance
        ⟨{ Bench.newLoop with graphs := [{ number := 0, name := "lit" }] }, { state := {} }, []⟩)).1 =
      .error (.notCompiled "ViewDependentState") := rfl

end FramesInFlight
