import Mathlib.Data.List.DropRight
import Mathlib.Data.List.Nodup
import FramesInFlight.Proofs.Frame.Order
import FramesInFlight.Proofs.Frame.Slots

/-!
# The frames a loop looks back on

A loop keeps the slot of each of its last frames, newest first, and has a fence for each slot.  Slots
are used in turn, so the number of advances alone says which slot a frame used, whatever else was
done with the loop and however often the ring wrapped round.

* `SlotRing.after` is the ring after a number of advances, in closed form; `after_advance` is one
  step of it.
* `FrameLoop.LooksBack` says what a loop answers about its last frames, and `LooksBack.of_ring` reads
  that off its ring and its fences.
* `Told` is about the transfer tasks that are on a lane: how often they were told of an advance.
  `Told.advance`, `Told.attach` and `Told.other` are the steps.
* `ring_slides_over_frames` is the result for every run from a loop that was just made.
-/

namespace FramesInFlight

variable {σ τ : Type}

/-! ## The ring in closed form -/

namespace SlotRing

/-- A ring of `n` slots after `k` advances. -/
def after (n k : Nat) : SlotRing where
  current := if k = 0 then none else some ((k - 1) % n)
  history := (List.range n).map fun j => if j < k then some ((k - 1 - j) % n) else none

theorem ofSize_eq_after (n : Nat) : ofSize n = after n 0 := by
  simp [ofSize, after]

theorem after_size (n k : Nat) : (after n k).size = n := by
  simp [after, size]

theorem after_getElem? {n k j : Nat} :
    (after n k).history[j]? =
      if j < n then some (if j < k then some ((k - 1 - j) % n) else none) else none := by
  by_cases hj : j < n <;> simp [after, hj]

/-- One more advance.  The first one fills the newest place, which was empty; each later one moves
every frame one place back. -/
theorem after_advance {n : Nat} (hn : 0 < n) (k : Nat) : (after n k).advance = after n (k + 1) := by
  cases k with
  | zero =>
    have hhistory : some 0 :: (after n 0).history.tail = (after n 1).history := by
      apply List.ext_getElem?
      intro j
      rw [after_getElem?]
      cases j with
      | zero => simp [hn]
      | succ j => simp [List.getElem?_cons_succ, List.getElem?_tail, after_getElem?]
    simpa [advance, nextSlot, after] using hhistory
  | succ k =>
    have hnext : (k % n + 1) % n = (k + 1) % n := Nat.mod_add_mod k n 1
    have hhistory : some ((k + 1) % n) :: (after n (k + 1)).history.dropLast =
        (after n (k + 2)).history := by
      apply List.ext_getElem?
      intro j
      rw [after_getElem?]
      cases j with
      | zero => simp [hn]
      | succ j =>
        have hlength : (after n (k + 1)).history.length = n := after_size n (k + 1)
        have hbefore : k + 2 - 1 - (j + 1) = k + 1 - 1 - j := by omega
        have hkept : j < n - 1 ↔ j + 1 < n := by omega
        rw [List.getElem?_cons_succ, List.getElem?_dropLast, hlength, after_getElem?, hbefore]
        by_cases hj : j + 1 < n
        · simp [hkept.mpr hj, hj, show j < n by omega]
        · simp [mt hkept.mp hj, hj]
    have hring : (after n (k + 1)).advance =
        ⟨some ((k + 1) % n), some ((k + 1) % n) :: (after n (k + 1)).history.dropLast⟩ := by
      simp [advance, nextSlot, after, size, hnext]
    rw [hring, hhistory]
    rfl

theorem after_slot? {n k j : Nat} :
    (after n k).slot? j = if j < min k n then some ((k - 1 - j) % n) else none := by
  simp only [slot?, after_getElem?, Nat.lt_min]
  by_cases hn : j < n <;> by_cases hk : j < k <;> simp [hn, hk]

/-- Frames that lie less than a whole round apart use different slots. -/
theorem after_slot?_inj {n k i j slot : Nat} (hi : (after n k).slot? i = some slot)
    (hj : (after n k).slot? j = some slot) : i = j := by
  rw [after_slot?, Option.ite_none_right_eq_some] at hi hj
  obtain ⟨hi, hslot⟩ := hi
  obtain ⟨hj, hsame⟩ := hj
  have hmod : (k - 1 - i) % n = (k - 1 - j) % n := by
    rw [Option.some.inj hslot, Option.some.inj hsame]
  rcases Nat.lt_trichotomy i j with hlt | heq | hlt
  · have hzero := Nat.sub_mod_eq_zero_of_mod_eq hmod
    rw [Nat.mod_eq_of_lt (by omega)] at hzero
    omega
  · exact heq
  · have hzero := Nat.sub_mod_eq_zero_of_mod_eq hmod.symm
    rw [Nat.mod_eq_of_lt (by omega)] at hzero
    omega

end SlotRing

/-! ## What a loop answers about its last frames -/

/-- A loop made with the fences `made`, after `k` advances.  A fence is the one that was made when
the two agree apart from what is held. -/
structure FrameLoop.LooksBack (loop : FrameLoop) (made : List Fence) (k : Nat) : Prop where
  slots : loop.slots = made.length
  recent : ∀ j < min k made.length, loop.slot? j = some ((k - 1 - j) % made.length)
  older : ∀ j, min k made.length ≤ j → loop.slot? j = none
  below : ∀ j slot, loop.slot? j = some slot → slot < made.length
  distinct : ∀ i j slot, loop.slot? i = some slot → loop.slot? j = some slot → i = j
  fence : ∀ j, (loop.fence? j).map Fence.release = (loop.slot? j).bind (made[·]?)
  /-- The slot of a frame has a fence. -/
  inRange : ∀ j, (loop.fence? j).isSome = (loop.slot? j).isSome
  current : loop.current?.map Prod.snd = loop.fence? 0

theorem FrameLoop.LooksBack.of_ring {loop : FrameLoop} {made : List Fence} {k : Nat}
    (hpositive : 0 < made.length) (hring : loop.ring = .after made.length k)
    (hfences : loop.fences.map Fence.release = made) : loop.LooksBack made k := by
  have hslot : ∀ j, loop.slot? j =
      if j < min k made.length then some ((k - 1 - j) % made.length) else none := by
    intro j
    rw [FrameLoop.slot?, hring, SlotRing.after_slot?]
  have hbelow : ∀ j slot, loop.slot? j = some slot → slot < made.length := by
    intro j slot hused
    rw [hslot, Option.ite_none_right_eq_some] at hused
    rw [← Option.some.inj hused.2]
    exact Nat.mod_lt _ hpositive
  have hfence : ∀ slot : Nat, (loop.fences[slot]?).map Fence.release = made[slot]? := by
    intro slot
    rw [← hfences, List.getElem?_map]
  refine ⟨?_, fun j hj => ?_, fun j hj => ?_, hbelow, fun i j slot hi hj => ?_, fun j => ?_,
    fun j => ?_, ?_⟩
  · rw [FrameLoop.slots, hring, SlotRing.after_size]
  · rw [hslot, if_pos hj]
  · rw [hslot, if_neg (Nat.not_lt.mpr hj)]
  · rw [FrameLoop.slot?, hring] at hi hj
    exact SlotRing.after_slot?_inj hi hj
  · rw [FrameLoop.fence?]
    cases loop.slot? j with
    | none => rfl
    | some slot => exact hfence slot
  · rw [FrameLoop.fence?]
    cases hused : loop.slot? j with
    | none => rfl
    | some slot =>
      have hmade : (made[slot]?).isSome = true := by
        simpa using hbelow j slot hused
      rwa [← hfence, Option.isSome_map] at hmade
  · rw [FrameLoop.current?, FrameLoop.fence?]
    cases loop.slot? 0 with
    | none => rfl
    | some slot => simp [Option.map_map, Function.comp_def]

/-- Two loops answer alike about all their frames, apart from what their fences hold. -/
structure FrameLoop.SameFrames (loop loop' : FrameLoop) : Prop where
  slots : loop'.slots = loop.slots
  slot : ∀ j, loop'.slot? j = loop.slot? j
  fence : ∀ j, (loop'.fence? j).map Fence.release = (loop.fence? j).map Fence.release

/-- Only an advance changes what a loop answers about its frames. -/
theorem Operation.perform_sameFrames (env : Surroundings σ) (stage : Stage σ)
    {operation : Operation} (hother : operation ≠ .advance) :
    stage.loop.SameFrames (operation.perform env stage).loop := by
  have hring := operation.perform_ring env stage hother
  have hreleased := (turn_fenceSteps env stage operation).released
  refine ⟨by rw [FrameLoop.slots, hring]; rfl, fun j => by rw [FrameLoop.slot?, hring]; rfl,
    fun j => ?_⟩
  rw [FrameLoop.fence?, FrameLoop.fence?, FrameLoop.slot?, FrameLoop.slot?, hring]
  cases stage.loop.ring.slot? j with
  | none => rfl
  | some slot =>
    have hslot := congrArg (·[slot]?) hreleased
    simpa using hslot

/-! ## What the transfer tasks are told -/

/-- The transfer task of a lane, if there is one. -/
def Lane.collaborators (lane : Lane) : List Collaborator := lane.task.toList.map (·.toCollaborator)

/-- The transfer tasks on the lanes of a loop. -/
def FrameLoop.tasks (loop : FrameLoop) : List Collaborator :=
  (loop.lane .early).collaborators ++ (loop.lane .late).collaborators

namespace Event

/-- A task is told of an advance. -/
def tells (task : Collaborator) : Event → Bool
  | transferAdvanced told => told == task
  | _ => false

/-- Something that a phase of a frame asks. -/
def isOfFrame : Event → Bool
  | transferCleared _ | fenceWaited .. | fenceReset .. | transferred .. | recorded ..
  | submitted .. | waitGiven .. => true
  | _ => false

theorem tells_of_isOfFrame {event : Event} (hframe : event.isOfFrame = true) (task : Collaborator) :
    event.tells task = false := by
  cases event <;> first | rfl | cases hframe

end Event

namespace Operation

def isAdvance : Operation → Bool
  | advance => true
  | _ => false

/-- The transfer task that is put on a lane. -/
def attached? : Operation → Option Collaborator
  | attach _ task => some task.toCollaborator
  | _ => none

/-- What is done to a transfer task by hand does not make it another. -/
def KeepsTasks : Operation → Prop
  | editTask _ edit => ∀ task, (edit task).toCollaborator = task.toCollaborator
  | _ => True

end Operation

section Phases

variable {env : Surroundings σ} {loop loop' : FrameLoop} {events : List Event}

theorem Started.ofFrame {answer : Except Failure Unit} (h : Started env loop answer loop' events) :
    ∀ event ∈ events, event.isOfFrame = true := by
  intro event hmem
  rcases h.mem hmem with ⟨_, rfl⟩ | ⟨_, _, _, _, rfl⟩ | ⟨_, _, _, rfl⟩
  · rfl
  · rfl
  · rfl

theorem Transferred.ofFrame {phase : Phase} {answer : Except Failure Unit}
    (h : Transferred env phase loop answer loop' events) :
    ∀ event ∈ events, event.isOfFrame = true := by
  intro event hmem
  obtain ⟨_, _, rfl⟩ := h.mem hmem
  rfl

theorem Recorded.ofFrame {time : FrameTime} {pager : Option Nat} {graphs : List Graph}
    {answer : Except Failure (List CommandBuffer)}
    (h : Recorded env time pager graphs answer events) :
    ∀ event ∈ events, event.isOfFrame = true := by
  intro event hmem
  obtain ⟨_, _, rfl⟩ := h.mem hmem
  rfl

theorem consumedEvents_ofFrame (loop : FrameLoop) (phase : Phase) :
    ∀ event ∈ loop.consumedEvents phase, event.isOfFrame = true := by
  intro event hmem
  obtain ⟨_, _, rfl⟩ := FrameLoop.mem_consumedEvents hmem
  rfl

theorem Finished.ofFrame {recorded : List CommandBuffer} {answer : Except Failure FrameOutcome}
    (h : Finished env recorded loop answer loop' events) :
    ∀ event ∈ events, event.isOfFrame = true := by
  cases h with
  | lateFailed hlate | idle hlate _ | noFrame hlate _ _ => exact hlate.ofFrame
  | rejected hlate _ _ _ _ =>
    exact List.forall_mem_append.mpr ⟨hlate.ofFrame, by simp [Event.isOfFrame]⟩
  | accepted hlate _ _ _ =>
    refine List.forall_mem_append.mpr ⟨List.forall_mem_append.mpr ⟨hlate.ofFrame, ?_⟩,
      List.forall_mem_append.mpr ⟨consumedEvents_ofFrame _ _, consumedEvents_ofFrame _ _⟩⟩
    simp [Event.isOfFrame]

theorem Submitted.ofFrame {time : FrameTime} {answer : Except Failure FrameOutcome}
    (h : Submitted env time loop answer loop' events) :
    ∀ event ∈ events, event.isOfFrame = true := by
  cases h with
  | notStarted hstart => exact hstart.ofFrame
  | notCopied hstart hearly =>
    exact List.forall_mem_append.mpr ⟨hstart.ofFrame, hearly.ofFrame⟩
  | notRecorded hstart hearly hrecord =>
    exact List.forall_mem_append.mpr
      ⟨List.forall_mem_append.mpr ⟨hstart.ofFrame, hearly.ofFrame⟩, hrecord.ofFrame⟩
  | finished hstart hearly hrecord hfinish =>
    exact List.forall_mem_append.mpr ⟨List.forall_mem_append.mpr
      ⟨List.forall_mem_append.mpr ⟨hstart.ofFrame, hearly.ofFrame⟩, hrecord.ofFrame⟩,
      hfinish.ofFrame⟩

/-- A finish leaves alone who the tasks are. -/
theorem Finished.lane_collaborators {recorded : List CommandBuffer}
    {answer : Except Failure FrameOutcome} (h : Finished env recorded loop answer loop' events)
    (phase : Phase) : (loop'.lane phase).collaborators = (loop.lane phase).collaborators := by
  cases h with
  | lateFailed hlate | idle hlate _ | noFrame hlate _ _ | rejected hlate _ _ _ _ =>
    exact Lane.collaborators_of_cleared (hlate.lane_cleared phase)
  | accepted hlate _ _ _ =>
    rw [FrameLoop.afterAccepted_lane, Lane.collaborators, Lane.handed_collaborators]
    exact Lane.collaborators_of_cleared (hlate.lane_cleared phase)

end Phases

theorem FrameLoop.mapTask_collaborators (loop : FrameLoop) {phase : Phase}
    {edit : Transfer → Transfer} (hedit : ∀ task, (edit task).toCollaborator = task.toCollaborator)
    (other : Phase) :
    ((loop.mapTask phase edit).lane other).collaborators = (loop.lane other).collaborators := by
  have hmap : ∀ task : Option Transfer, (task.map edit).toList.map (·.toCollaborator) =
      task.toList.map (·.toCollaborator) := by
    rintro (_ | task)
    · rfl
    · exact congrArg ([·]) (hedit task)
  cases phase <;> cases other <;> first | rfl | exact hmap _

/-- An advance tells the tasks of it, each once. -/
theorem Stage.advance_tells (env : Surroundings σ) (stage : Stage σ) :
    (stage.turn env .advance).events = stage.loop.tasks.map .transferAdvanced := by
  refine Stage.turn_events env stage .advance ?_
  rw [Operation.perform, advance, onTask_events, onTask_events, onTask_loop, List.append_assoc]
  simp [FrameLoop.tasks, Lane.collaborators, FrameLoop.lane, FrameLoop.mapTask, World.notice,
    Function.comp_def]

namespace Operation

/-- An operation that asks nothing. -/
private theorem silent_ofFrame {env : Surroundings σ} {stage : Stage σ} {operation : Operation}
    (hevents : (operation.perform env stage).world.events = stage.world.events) :
    ∀ event ∈ (stage.turn env operation).events, event.isOfFrame = true := by
  rw [Stage.turn_events env stage operation (by rw [hevents, List.append_nil])]
  simp

/-- Every other operation asks only what the phases of a frame ask. -/
theorem turn_ofFrame (env : Surroundings σ) (stage : Stage σ) {operation : Operation}
    (hother : operation ≠ .advance) :
    ∀ event ∈ (stage.turn env operation).events, event.isOfFrame = true := by
  cases operation with
  | advance => exact absurd rfl hother
  | submit time =>
    obtain ⟨events, hevents, hsubmit⟩ := FrameLoop.submit_goes env time stage
    rw [Stage.turn_events env stage (.submit time) hevents]
    exact hsubmit.ofFrame
  | start =>
    obtain ⟨events, hevents, hstart⟩ := FrameLoop.start_goes env stage
    rw [Stage.turn_events env stage .start hevents]
    exact hstart.ofFrame
  | record collection time =>
    obtain ⟨_, events, hevents, hrecord, _⟩ :=
      FrameLoop.recordGraphs_goes env time stage.loop.pager stage.loop.graphs
        { stage with recorded := collection }
    rw [Stage.turn_events env stage (.record collection time) hevents]
    exact hrecord.ofFrame
  | finish recorded =>
    obtain ⟨events, hevents, hfinish⟩ := FrameLoop.finish_goes env recorded stage
    rw [Stage.turn_events env stage (.finish recorded) hevents]
    exact hfinish.ofFrame
  | transfer phase =>
    obtain ⟨events, hevents, htransfer⟩ := FrameLoop.transfer_goes env phase stage
    rw [Stage.turn_events env stage (.transfer phase) hevents]
    exact htransfer.ofFrame
  | add _ | attach _ _ | editTask _ _ | editGraphs _ => exact silent_ofFrame rfl

/-- Unless one is put on a lane, the tasks stay who they are. -/
theorem perform_tasks (env : Surroundings σ) (stage : Stage σ) {operation : Operation}
    (hkeeps : operation.KeepsTasks) (hnone : operation.attached? = none) :
    (operation.perform env stage).loop.tasks = stage.loop.tasks := by
  have hlanes : ∀ phase, ((operation.perform env stage).loop.lane phase).collaborators =
      (stage.loop.lane phase).collaborators := by
    intro other
    cases operation with
    | attach _ _ => cases hnone
    | advance =>
      rw [perform, stage.advance_loop]
      cases other <;> rfl
    | submit time => exact (stage.submit_keepsSetup env time).tasks other
    | start =>
      obtain ⟨_, _, hstart⟩ := FrameLoop.start_goes env stage
      rw [perform, hstart.lane]
      exact Lane.cleared_collaborators _
    | record collection time =>
      obtain ⟨_, _, _, _, _, hloop, _⟩ :=
        FrameLoop.recordGraphs_goes env time stage.loop.pager stage.loop.graphs
          { stage with recorded := collection }
      exact congrArg (fun loop => (loop.lane other).collaborators) hloop
    | finish recorded =>
      obtain ⟨_, _, hfinish⟩ := FrameLoop.finish_goes env recorded stage
      exact hfinish.lane_collaborators other
    | transfer phase =>
      obtain ⟨_, _, htransfer⟩ := FrameLoop.transfer_goes env phase stage
      exact Lane.collaborators_of_cleared (htransfer.lane_cleared other)
    | add attachment => cases attachment <;> cases other <;> rfl
    | editTask phase edit =>
      exact stage.loop.mapTask_collaborators hkeeps other
    | editGraphs _ => cases other <;> rfl
  rw [FrameLoop.tasks, hlanes, hlanes, FrameLoop.tasks]

end Operation

/-! ## Counting -/

/-- The tasks that some turns put on a lane. -/
def attachedTasks (turns : List Turn) : List Collaborator :=
  turns.filterMap (·.operation.attached?)

/-- The turns since a task was put on a lane. -/
def sinceAttached (task : Collaborator) (turns : List Turn) : List Turn :=
  turns.rtakeWhile fun turn => turn.operation.attached? != some task

/-- How often a task was told of an advance in some turns. -/
def timesTold (task : Collaborator) (turns : List Turn) : Nat :=
  (trace turns).countP (·.event.tells task)

/-- How many of some turns are advances. -/
def advances (turns : List Turn) : Nat := turns.countP (·.operation.isAdvance)

section Growth

variable {task : Collaborator} {turns : List Turn} {turn : Turn}

theorem attachedTasks_concat : attachedTasks (turns ++ [turn]) =
    attachedTasks turns ++ turn.operation.attached?.toList := by
  cases hattached : turn.operation.attached? <;> simp [attachedTasks, hattached]

theorem timesTold_concat : timesTold task (turns ++ [turn]) =
    timesTold task turns + turn.events.countP (·.tells task) := by
  rw [timesTold, trace_concat, List.countP_append, List.countP_map]
  rfl

theorem advances_concat : advances (turns ++ [turn]) =
    advances turns + if turn.operation.isAdvance then 1 else 0 := by
  rw [advances, List.countP_append, List.countP_singleton]
  rfl

theorem sinceAttached_of_other (hother : turn.operation.attached? ≠ some task) :
    sinceAttached task (turns ++ [turn]) = sinceAttached task turns ++ [turn] :=
  List.rtakeWhile_concat_pos _ _ _ (by simpa using hother)

theorem sinceAttached_of_attach (hattach : turn.operation.attached? = some task) :
    sinceAttached task (turns ++ [turn]) = [] :=
  List.rtakeWhile_concat_neg _ _ _ (by simp [hattach])

end Growth

/-- The tasks on the lanes of a loop, after some turns that put each task on a lane once: they are
different, and each was told of the advances since then. -/
structure Told (turns : List Turn) (loop : FrameLoop) : Prop where
  distinct : loop.tasks.Nodup
  attached : ∀ task ∈ loop.tasks, task ∈ attachedTasks turns
  /-- A task that was never on a lane was told nothing. -/
  unknown : ∀ task ∉ attachedTasks turns, timesTold task turns = 0
  count : ∀ task ∈ loop.tasks, timesTold task turns = advances (sinceAttached task turns)

namespace Told

variable {turns : List Turn} {turn : Turn} {loop loop' : FrameLoop}

/-- A task that a turn does not mention is as unknown after it as before. -/
theorem unknown_concat (htold : Told turns loop)
    (hevents : ∀ task ∉ attachedTasks turns, turn.events.countP (·.tells task) = 0) :
    ∀ task ∉ attachedTasks (turns ++ [turn]), timesTold task (turns ++ [turn]) = 0 := by
  intro task htask
  rw [attachedTasks_concat, List.mem_append, not_or] at htask
  rw [timesTold_concat, htold.unknown task htask.1, hevents task htask.1]

theorem advance (htold : Told turns loop) (hadvance : turn.operation = .advance)
    (hevents : turn.events = loop.tasks.map .transferAdvanced) (htasks : loop'.tasks = loop.tasks) :
    Told (turns ++ [turn]) loop' := by
  have hnone : turn.operation.attached? = none := by
    rw [hadvance]
    rfl
  have hcount : ∀ task, turn.events.countP (·.tells task) = loop.tasks.count task := by
    intro task
    rw [hevents, List.countP_map]
    rfl
  refine ⟨htasks ▸ htold.distinct, fun task hmem => ?_, htold.unknown_concat fun task htask => ?_,
    fun task hmem => ?_⟩
  · rw [attachedTasks_concat]
    exact List.mem_append_left _ (htold.attached task (htasks ▸ hmem))
  · rw [hcount]
    exact List.count_eq_zero_of_not_mem fun hmem => htask (htold.attached task hmem)
  · rw [htasks] at hmem
    rw [timesTold_concat, hcount, List.count_eq_one_of_mem htold.distinct hmem,
      htold.count task hmem, sinceAttached_of_other (by simp [hnone]), advances_concat, hadvance]
    rfl

/-- A turn that neither advances nor puts a task on a lane. -/
theorem other (htold : Told turns loop) (hother : turn.operation ≠ .advance)
    (hnone : turn.operation.attached? = none)
    (hevents : ∀ event ∈ turn.events, event.isOfFrame = true) (htasks : loop'.tasks = loop.tasks) :
    Told (turns ++ [turn]) loop' := by
  have hcount : ∀ task, turn.events.countP (·.tells task) = 0 := by
    intro task
    rw [List.countP_eq_zero]
    intro event hmem
    simp [Event.tells_of_isOfFrame (hevents event hmem) task]
  have hadvance : turn.operation.isAdvance = false := by
    cases hoperation : turn.operation <;> first | rfl | exact absurd hoperation hother
  refine ⟨htasks ▸ htold.distinct, fun task hmem => ?_,
    htold.unknown_concat fun task _ => hcount task, fun task hmem => ?_⟩
  · rw [attachedTasks_concat]
    exact List.mem_append_left _ (htold.attached task (htasks ▸ hmem))
  · rw [htasks] at hmem
    rw [timesTold_concat, hcount, htold.count task hmem,
      sinceAttached_of_other (by simp [hnone]), advances_concat, hadvance]
    rfl

/-- A turn that puts a task on a lane for the first time. -/
theorem attach (htold : Told turns loop) {phase : Phase} {task : Transfer}
    (hattach : turn.operation = .attach phase task) (hevents : turn.events = [])
    (hfresh : task.toCollaborator ∉ attachedTasks turns) :
    Told (turns ++ [turn]) (loop.attach phase task) := by
  have hattached : turn.operation.attached? = some task.toCollaborator := by
    rw [hattach]
    rfl
  have hnone : ∀ task, turn.events.countP (·.tells task) = 0 := by
    intro task
    rw [hevents]
    rfl
  have hnew : task.toCollaborator ∉ loop.tasks := fun hmem =>
    hfresh (htold.attached _ hmem)
  obtain ⟨hkept, hdistinct⟩ : (∀ other ∈ (loop.attach phase task).tasks,
      other = task.toCollaborator ∨ other ∈ loop.tasks) ∧ (loop.attach phase task).tasks.Nodup := by
    have hboth := htold.distinct
    rw [FrameLoop.tasks, List.nodup_append'] at hboth
    rw [FrameLoop.tasks, List.mem_append, not_or] at hnew
    cases phase with
    | early =>
      refine ⟨fun other hmem => ?_, List.nodup_cons.mpr ⟨hnew.2, hboth.2.1⟩⟩
      rcases List.mem_cons.mp hmem with hmem | hmem
      · exact Or.inl hmem
      · exact Or.inr (List.mem_append_right _ hmem)
    | late =>
      refine ⟨fun other hmem => ?_, List.nodup_append'.mpr
        ⟨hboth.1, List.nodup_singleton _, List.disjoint_singleton.mpr hnew.1⟩⟩
      rcases List.mem_append.mp hmem with hmem | hmem
      · exact Or.inr (List.mem_append_left _ hmem)
      · exact Or.inl (List.mem_singleton.mp hmem)
  refine ⟨hdistinct, fun other hmem => ?_, htold.unknown_concat fun task _ => hnone task,
    fun other hmem => ?_⟩
  · rw [attachedTasks_concat, hattached]
    rcases hkept other hmem with rfl | hmem
    · exact List.mem_append_right _ (List.mem_singleton_self _)
    · exact List.mem_append_left _ (htold.attached other hmem)
  · rw [timesTold_concat, hnone]
    by_cases hother : other = task.toCollaborator
    · rw [hother, htold.unknown _ hfresh, sinceAttached_of_attach hattached]
      rfl
    · have hmem := (hkept other hmem).resolve_left hother
      have hdiffers : turn.operation.attached? ≠ some other := by
        rw [hattached]
        exact fun hsame => hother (Option.some.inj hsame).symm
      rw [htold.count other hmem, sinceAttached_of_other hdiffers, advances_concat, hattach]
      rfl

end Told

/-! ## Runs -/

/-- A loop is made without transfer tasks. -/
theorem FrameLoop.create_tasks (device : Device τ) {queue : Nat} {settings : FrameSettings}
    {world : World τ} {loop : FrameLoop}
    (hmade : (create device queue settings world).1 = .ok loop) : loop.tasks = [] := by
  unfold create at hmade
  split at hmade
  · cases hmade
  dsimp only at hmade
  split at hmade
  · cases hmade
  split at hmade
  · cases hmade
  split at hmade
  · cases hmade
  cases hmade
  rfl

/-- Fences of a new loop hold nothing yet, so letting go changes nothing. -/
theorem FrameLoop.IsNew.released {loop : FrameLoop} {slots : Nat} (hnew : loop.IsNew slots) :
    loop.fences.map Fence.release = loop.fences := by
  have hsame : ∀ fence ∈ loop.fences, fence.release = id fence := by
    rintro ⟨_, _, _, _⟩ hmem
    obtain ⟨rfl, rfl⟩ := hnew.free _ hmem
    rfl
  rw [List.map_congr_left hsame, List.map_id]

theorem Stage.advances_history (env : Surroundings σ) (first : Stage σ)
    (operations : List Operation) :
    advances (first.history env operations) = operations.countP (·.isAdvance) := by
  have hcount := congrArg (List.countP (·.isAdvance)) (first.history_operations env operations)
  rwa [List.countP_map] at hcount

/-- The ring and the fences go on in step, so what is read off them holds after every run. -/
theorem Stage.run_looksBack (env : Surroundings σ) (first : Stage σ) {slots : Nat}
    (hnew : first.loop.IsNew slots) (operations : List Operation) :
    (first.run env operations).loop.LooksBack first.loop.fences
      (advances (first.history env operations)) := by
  have hpositive : 0 < first.loop.fences.length := by
    rw [hnew.fences]
    exact hnew.positive
  have hrun : (first.run env operations).loop.ring =
        .after first.loop.fences.length (advances (first.history env operations)) ∧
      (first.run env operations).loop.fences.map Fence.release = first.loop.fences := by
    refine Stage.run_induction (motive := fun turns stage =>
      stage.loop.ring = .after first.loop.fences.length (advances turns) ∧
      stage.loop.fences.map Fence.release = first.loop.fences) ?_ ?_
    · refine ⟨?_, hnew.released⟩
      rw [hnew.ring, hnew.fences]
      exact SlotRing.ofSize_eq_after slots
    · rintro turns stage operation - ⟨hring, hfences⟩
      refine ⟨?_, (turn_fenceSteps env stage operation).released.trans hfences⟩
      rw [advances_concat]
      by_cases hadvance : operation = .advance
      · subst hadvance
        rw [stage.advance_ring env, hring]
        exact SlotRing.after_advance hpositive _
      · rw [operation.perform_ring env stage hadvance, hring]
        cases operation <;> first | rfl | exact absurd rfl hadvance
  exact .of_ring hpositive hrun.1 hrun.2

/-- Each task that is on a lane after a run was told of the advances since it was put there. -/
theorem Stage.run_told (env : Surroundings σ) (first : Stage σ) (hnone : first.loop.tasks = [])
    (operations : List Operation) (hkeeps : ∀ operation ∈ operations, operation.KeepsTasks)
    (hboxed : (operations.filterMap Operation.attached?).Nodup) :
    Told (first.history env operations) (first.run env operations).loop := by
  have hrun : (attachedTasks (first.history env operations)).Nodup →
      Told (first.history env operations) (first.run env operations).loop := by
    refine Stage.run_induction (motive := fun turns stage =>
      (attachedTasks turns).Nodup → Told turns stage.loop) ?_ ?_
    · intro _
      exact ⟨by simp [hnone], by simp [hnone], by simp [timesTold, trace], by simp [hnone]⟩
    · intro turns stage operation hmem htold hdistinct
      rw [attachedTasks_concat, List.nodup_append'] at hdistinct
      have htold := htold hdistinct.1
      by_cases hadvance : operation = .advance
      · subst hadvance
        exact htold.advance rfl (stage.advance_tells env)
          (Operation.perform_tasks env stage trivial rfl)
      cases hattached : operation.attached? with
      | none =>
        exact htold.other hadvance hattached (Operation.turn_ofFrame env stage hadvance)
          (Operation.perform_tasks env stage (hkeeps operation hmem) hattached)
      | some task =>
        cases operation with
        | attach phase task =>
          refine htold.attach rfl (Stage.turn_events env stage _ (List.append_nil _).symm) ?_
          exact List.disjoint_singleton.mp hdistinct.2.2
        | _ => cases hattached
  refine hrun ?_
  rw [← first.history_operations env operations, List.filterMap_map] at hboxed
  exact hboxed

/-- Take a loop that was just made, with as many fences as the settings say, and any operations on
it, whatever the surroundings answer to each call.  The number of advances alone says which slots
the last frames used and which fences guard them: the slots come in turn, no two of these frames
share one, and a frame further back than there are slots or advances has none.  Only an advance
changes that.

A transfer task belongs to one lane, so it is put there once and stays who it is.  Each that is on a
lane in the end was told of every advance since it was put there, once. -/
theorem ring_slides_over_frames (env : Surroundings σ) (first : Stage σ)
    (operations : List Operation) (device : Device τ) (queue : Nat) (settings : FrameSettings)
    (world : World τ)
    (hmade : (FrameLoop.create device queue settings world).1 = .ok first.loop) :
    first.loop.fences.length = settings.numBuffers.toNat ∧
      (first.run env operations).loop.LooksBack first.loop.fences
        (operations.countP (·.isAdvance)) ∧
      (∀ operation : Operation, operation ≠ .advance → (first.run env operations).loop.SameFrames
        (operation.perform env (first.run env operations)).loop) ∧
      ((∀ operation ∈ operations, operation.KeepsTasks) →
        (operations.filterMap Operation.attached?).Nodup →
        ∀ task ∈ (first.run env operations).loop.tasks,
          timesTold task (first.history env operations) =
            advances (sinceAttached task (first.history env operations))) := by
  have hnew := FrameLoop.create_new device hmade
  refine ⟨hnew.fences, ?_, fun operation => Operation.perform_sameFrames env _,
    fun hkeeps hboxed => ?_⟩
  · rw [← first.advances_history env operations]
    exact first.run_looksBack env hnew operations
  · exact (first.run_told env (FrameLoop.create_tasks device hmade) operations hkeeps hboxed).count

/-- The ring of two slots wraps round, after a frame that its early transfer ends.  The late task is
put on its lane in between. -/
def wrappingRound : List Operation :=
  [.attach .early { number := 0, name := "early" }, .advance, .submit (.first 0), .advance,
    .attach .late { number := 1, name := "late" }, .advance, .finish [⟨10, .primary⟩]]

/-- The surroundings of that run. -/
def earlyFails : Bench where
  transfers := [(⟨0, "early"⟩, {}), (⟨1, "late"⟩, {})]
  faults := [(.transfer "early", ⟨.deviceLost, 0⟩)]

/-- Three advances: the current frame uses the first slot again, the one before it the second, and
the late task was told of one advance only. -/
theorem ring_wraps_round_two_slots :
    Bench.newLoop.fences.length = 2 ∧
    (Stage.run (Bench.surroundings .bench) ⟨Bench.newLoop, { state := earlyFails }, []⟩
      wrappingRound).loop.LooksBack Bench.newLoop.fences 3 ∧
    (∀ task ∈ (Stage.run (Bench.surroundings .bench) ⟨Bench.newLoop, { state := earlyFails }, []⟩
        wrappingRound).loop.tasks,
      timesTold task (Stage.history (Bench.surroundings .bench)
          ⟨Bench.newLoop, { state := earlyFails }, []⟩ wrappingRound) =
        advances (sinceAttached task (Stage.history (Bench.surroundings .bench)
          ⟨Bench.newLoop, { state := earlyFails }, []⟩ wrappingRound))) ∧
    timesTold ⟨0, "early"⟩ (Stage.history (Bench.surroundings .bench)
      ⟨Bench.newLoop, { state := earlyFails }, []⟩ wrappingRound) = 3 ∧
    timesTold ⟨1, "late"⟩ (Stage.history (Bench.surroundings .bench)
      ⟨Bench.newLoop, { state := earlyFails }, []⟩ wrappingRound) = 1 :=
  have hslides := ring_slides_over_frames (Bench.surroundings .bench)
    ⟨Bench.newLoop, { state := earlyFails }, []⟩ wrappingRound (Bench.device .bench) 7 (.ofSlots 2)
    { state := {} } Bench.newLoop_made
  ⟨hslides.1, hslides.2.1, hslides.2.2.2 (by simp [wrappingRound, Operation.KeepsTasks])
    (by decide), by decide +kernel, by decide +kernel⟩

end FramesInFlight
