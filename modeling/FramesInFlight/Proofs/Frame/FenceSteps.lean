import FramesInFlight.Proofs.Frame.Run

/-!
# What a turn does to the fences

Whatever an operation does, the fences change in a few small steps: a wait that fails, a wait and a
reset that fails, a wait and a reset that release the fence, a batch that is rejected, a batch that
is accepted, and events that are about no fence.  Each step that is about a fence is about the one
of the slot in use.

`turn_fenceSteps` says that every turn is a chain of such steps.  An invariant of fences and traces
is then proved step by step, with one case for each kind of step.
-/

namespace FramesInFlight

variable {σ : Type}

/-! ## Steps and chains of steps -/

/-- A batch is made from what was collected in a turn, and signals what the application wants. -/
structure Turn.Carries (turn : Turn) (batch : Batch) : Prop where
  buffers : batch.buffers = (turn.collected.filter (·.level == .primary)).map (·.handle)
  signals : turn.loop.signals.map (·.handle) <:+ batch.signals

/-- One step of a turn, with its events. -/
inductive FenceStep (turn : Turn) (fences : List Fence) : List Event → List Fence → Prop
  /-- An event that is about no fence. -/
  | other {event : Event} (hother : event.fence? = none) : FenceStep turn fences [event] fences
  | waitFailed {slot timeout : Nat} {fence : Fence} {failure : Failure}
      (hslot : turn.slot = some slot) (hfence : fences[slot]? = some fence)
      (hholding : fence.isHolding = true) :
      FenceStep turn fences [.fenceWaited fence.provider fence.handle timeout (.error failure)]
        fences
  | resetFailed {slot timeout : Nat} {fence : Fence} {failure : Failure}
      (hslot : turn.slot = some slot) (hfence : fences[slot]? = some fence)
      (hholding : fence.isHolding = true) :
      FenceStep turn fences
        [.fenceWaited fence.provider fence.handle timeout (.ok ()),
          .fenceReset fence.provider fence.handle (.error failure)] fences
  | reclaimed {slot timeout : Nat} {fence : Fence}
      (hslot : turn.slot = some slot) (hfence : fences[slot]? = some fence)
      (hholding : fence.isHolding = true) :
      FenceStep turn fences
        [.fenceWaited fence.provider fence.handle timeout (.ok ()),
          .fenceReset fence.provider fence.handle (.ok ())] (fences.modify slot Fence.release)
  /-- A whole frame hands over a batch only when the fence guards no other. -/
  | rejected {slot queue : Nat} {fence : Fence} {provider : Provider} {batch : Batch}
      {failure : Failure} (hslot : turn.slot = some slot) (hfence : fences[slot]? = some fence)
      (hfree : turn.operation.isWhole = true → fence.isHolding = false) :
      FenceStep turn fences [.submitted provider queue batch fence.handle (.error failure)] fences
  | accepted {slot queue : Nat} {fence : Fence} {provider : Provider} {batch : Batch}
      (hslot : turn.slot = some slot) (hfence : fences[slot]? = some fence)
      (hfree : turn.operation.isWhole = true → fence.isHolding = false)
      (hcollected : turn.collected ≠ []) (hcarries : turn.Carries batch) :
      FenceStep turn fences [.submitted provider queue batch fence.handle (.ok ())]
        (fences.modify slot (·.hold turn.collected turn.loop.signals))

/-- Some steps of a turn, one after the other. -/
inductive FenceSteps (turn : Turn) : List Fence → List Event → List Fence → Prop
  | nil {fences : List Fence} : FenceSteps turn fences [] fences
  | cons {fences fences' fences'' : List Fence} {events later : List Event}
      (hstep : FenceStep turn fences events fences')
      (hlater : FenceSteps turn fences' later fences'') :
      FenceSteps turn fences (events ++ later) fences''

namespace FenceSteps

variable {turn : Turn} {fences fences' fences'' : List Fence} {events later : List Event}

theorem single (hstep : FenceStep turn fences events fences') :
    FenceSteps turn fences events fences' := by
  simpa using cons hstep nil

theorem append (hfirst : FenceSteps turn fences events fences')
    (hlater : FenceSteps turn fences' later fences'') :
    FenceSteps turn fences (events ++ later) fences'' := by
  induction hfirst with
  | nil => exact hlater
  | cons hstep _ ih =>
    rw [List.append_assoc]
    exact cons hstep (ih hlater)

/-- Events that are about no fence leave the fences alone. -/
theorem others (hothers : ∀ event ∈ events, event.fence? = none) :
    FenceSteps turn fences events fences := by
  induction events with
  | nil => exact nil
  | cons event later ih =>
    have hother := hothers event List.mem_cons_self
    have hlater := ih fun event hmem => hothers event (List.mem_cons_of_mem _ hmem)
    exact cons (.other hother) hlater

/-- What is kept by each step of a turn is kept by a chain of them, with their events added to the
trace. -/
theorem keeps {motive : List Fence → List Entry → Prop}
    (hstep : ∀ {fences fences' : List Fence} {trace : List Entry} {events : List Event},
      motive fences trace → FenceStep turn fences events fences' →
        motive fences' (trace ++ events.map (Entry.mk turn)))
    {trace : List Entry} (hsteps : FenceSteps turn fences events fences')
    (hbefore : motive fences trace) : motive fences' (trace ++ events.map (Entry.mk turn)) := by
  induction hsteps generalizing trace with
  | nil => simpa using hbefore
  | cons hfirst _ ih =>
    have hlater := ih (hstep hbefore hfirst)
    rwa [List.append_assoc, ← List.map_append] at hlater

end FenceSteps

/-! ## The slot in use -/

theorem FrameLoop.current?_eq_some {loop : FrameLoop} {slot : Nat} {fence : Fence} :
    loop.current? = some (slot, fence) ↔
      loop.slot? 0 = some slot ∧ loop.fences[slot]? = some fence := by
  unfold FrameLoop.current?
  cases loop.slot? 0 with
  | none => simp
  | some slot' =>
    simp only [Option.bind_some, Option.map_eq_some_iff, Prod.mk.injEq, Option.some.injEq]
    constructor
    · rintro ⟨fence', hfence, rfl, rfl⟩
      exact ⟨rfl, hfence⟩
    · rintro ⟨rfl, hfence⟩
      exact ⟨fence, hfence, rfl, rfl⟩

theorem Fence.release_isHolding (fence : Fence) : fence.release.isHolding = false := rfl

/-- A fence that has taken in recorded buffers holds something. -/
theorem Fence.hold_isHolding (fence : Fence) {buffers : List CommandBuffer}
    (semaphores : List Semaphore) (hbuffers : buffers ≠ []) :
    (fence.hold buffers semaphores).isHolding = true := by
  simp [Fence.isHolding, Fence.hold, hbuffers]

/-- A fence found after the one of a slot was changed is the changed one or one of the others. -/
theorem modify_cases {fences : List Fence} {slot other : Nat} {f : Fence → Fence} {fence' : Fence}
    (hfence' : (fences.modify slot f)[other]? = some fence') :
    ∃ fence, fences[other]? = some fence ∧
      (slot = other ∧ fence' = f fence ∨ slot ≠ other ∧ fence' = fence) := by
  rw [List.getElem?_modify] at hfence'
  cases hfence : fences[other]? with
  | none => simp [hfence] at hfence'
  | some fence =>
    refine ⟨fence, rfl, ?_⟩
    by_cases hslot : slot = other
    · simp only [hfence, hslot, if_true, Option.map_eq_map, Option.map_some,
        Option.some.injEq] at hfence'
      exact Or.inl ⟨hslot, hfence'.symm⟩
    · simp only [hfence, hslot, if_false, Option.map_eq_map, Option.map_some,
        Option.some.injEq] at hfence'
      exact Or.inr ⟨hslot, hfence'.symm⟩

/-! ## The phases as steps -/

section Phases

variable {env : Surroundings σ} {turn : Turn} {loop loop' : FrameLoop} {events : List Event}

theorem consumedEvents_others (loop : FrameLoop) :
    ∀ event ∈ loop.consumedEvents .early ++ loop.consumedEvents .late, event.fence? = none := by
  intro event hmem
  rcases List.mem_append.mp hmem with hmem | hmem
  · obtain ⟨_, _, rfl⟩ := FrameLoop.mem_consumedEvents hmem
    rfl
  · obtain ⟨_, _, rfl⟩ := FrameLoop.mem_consumedEvents hmem
    rfl

theorem Transferred.others {phase : Phase} {answer : Except Failure Unit}
    (h : Transferred env phase loop answer loop' events) :
    ∀ event ∈ events, event.fence? = none := by
  intro event hmem
  obtain ⟨_, _, rfl⟩ := h.mem hmem
  rfl

theorem Recorded.others {time : FrameTime} {pager : Option Nat} {graphs : List Graph}
    {answer : Except Failure (List CommandBuffer)}
    (h : Recorded env time pager graphs answer events) : ∀ event ∈ events, event.fence? = none := by
  intro event hmem
  obtain ⟨_, _, rfl⟩ := h.mem hmem
  rfl

theorem Started.fenceSteps {answer : Except Failure Unit} (h : Started env loop answer loop' events)
    (hslot : turn.slot = loop.slot? 0) : FenceSteps turn loop.fences events loop'.fences := by
  have hclear : FenceSteps turn loop.fences loop.clearEvents loop.fences := by
    refine .others fun event hmem => ?_
    obtain ⟨_, rfl⟩ := FrameLoop.mem_clearEvents hmem
    rfl
  cases h with
  | noFrame _ => exact hclear
  | free _ _ => exact hclear
  | waitFailed hcurrent hholding _ =>
    obtain ⟨hused, hfence⟩ := FrameLoop.current?_eq_some.mp hcurrent
    exact hclear.append (.single (.waitFailed (hslot.trans hused) hfence hholding))
  | resetFailed hcurrent hholding _ =>
    obtain ⟨hused, hfence⟩ := FrameLoop.current?_eq_some.mp hcurrent
    exact hclear.append (.single (.resetFailed (hslot.trans hused) hfence hholding))
  | reclaimed hcurrent hholding =>
    obtain ⟨hused, hfence⟩ := FrameLoop.current?_eq_some.mp hcurrent
    exact hclear.append (.single (.reclaimed (hslot.trans hused) hfence hholding))

/-- After a start that went through, the fence of the slot in use holds nothing. -/
theorem Started.free_of_ok (h : Started env loop (.ok ()) loop' events) {slot : Nat} {fence : Fence}
    (hcurrent' : loop'.current? = some (slot, fence)) : fence.isHolding = false := by
  obtain ⟨hused', hfence'⟩ := FrameLoop.current?_eq_some.mp hcurrent'
  cases h with
  | free hcurrent hfree =>
    have hsame : some (slot, fence) = some _ := hcurrent'.symm.trans hcurrent
    cases hsame
    exact hfree
  | @reclaimed slot₀ _ hcurrent _ =>
    obtain ⟨hused, hfence⟩ := FrameLoop.current?_eq_some.mp hcurrent
    have hslot : slot₀ = slot := Option.some.inj (hused.symm.trans hused')
    subst hslot
    simp only [FrameLoop.mapFence, FrameLoop.cleared, List.getElem?_modify_eq, hfence,
      Option.map_eq_map, Option.map_some, Option.some.injEq] at hfence'
    rw [← hfence']
    exact Fence.release_isHolding _

theorem tellConsumed_fences (loop : FrameLoop) (phase : Phase) :
    (loop.tellConsumed phase).fences = loop.fences := by
  obtain ⟨_, _, htold⟩ := loop.tellConsumed_frame phase
  rw [htold]

theorem afterAccepted_fences (loop : FrameLoop) (slot : Nat) (recorded : List CommandBuffer) :
    (loop.afterAccepted slot recorded).fences =
      loop.fences.modify slot (·.hold recorded loop.signals) := by
  rw [FrameLoop.afterAccepted, tellConsumed_fences, tellConsumed_fences]
  rfl

theorem Finished.fenceSteps {recorded : List CommandBuffer} {answer : Except Failure FrameOutcome}
    (h : Finished env recorded loop answer loop' events) (hslot : turn.slot = loop.slot? 0)
    (hsignals : turn.loop.signals = loop.signals) (hcollected : turn.collected = recorded)
    (hfree : turn.operation.isWhole = true →
      ∀ slot fence, loop.current? = some (slot, fence) → fence.isHolding = false) :
    FenceSteps turn loop.fences events loop'.fences := by
  cases h with
  | lateFailed hlate | idle hlate _ | noFrame hlate _ _ =>
    have hcopy : FenceSteps turn loop.fences events loop.fences := .others hlate.others
    obtain ⟨_, _, rfl⟩ := hlate.frame
    exact hcopy
  | @rejected _ copied slot fence _ _ _ _ hlate _ hcurrent _ _ =>
    have hcopy : FenceSteps turn loop.fences copied loop.fences := .others hlate.others
    obtain ⟨_, _, rfl⟩ := hlate.frame
    obtain ⟨hused, hfence⟩ := FrameLoop.current?_eq_some.mp hcurrent
    have hbefore := fun hwhole => hfree hwhole slot fence hcurrent
    exact hcopy.append (.single (.rejected (hslot.trans hused) hfence hbefore))
  | @accepted _ copied slot fence _ batch hlate hrecorded hcurrent hbatch =>
    have hcopy : FenceSteps turn loop.fences copied loop.fences := .others hlate.others
    obtain ⟨_, _, rfl⟩ := hlate.frame
    obtain ⟨hused, hfence⟩ := FrameLoop.current?_eq_some.mp hcurrent
    have hbefore := fun hwhole => hfree hwhole slot fence hcurrent
    subst hcollected
    have hcarries : turn.Carries batch := by
      refine ⟨by rw [hbatch]; rfl, ?_⟩
      rw [hbatch, hsignals, FrameLoop.batch, List.map_append]
      exact List.suffix_append _ _
    have hstep : FenceStep turn loop.fences [.submitted env.provider loop.queue batch fence.handle
        (.ok ())] (loop.fences.modify slot (·.hold turn.collected turn.loop.signals)) :=
      .accepted (hslot.trans hused) hfence hbefore hrecorded hcarries
    rw [afterAccepted_fences, ← hsignals]
    exact (hcopy.append (.single hstep)).append (.others (consumedEvents_others _))

/-! ## What was collected -/

/-- What the graphs of a frame recorded can be read off its events. -/
theorem Recorded.collected {time : FrameTime} {pager : Option Nat} {graphs : List Graph}
    {answer : Except Failure (List CommandBuffer)}
    (h : Recorded env time pager graphs answer events) {recorded : List CommandBuffer}
    (hanswer : answer = .ok recorded) : events.flatMap Event.recordedBuffers = recorded := by
  induction h generalizing recorded with
  | nil =>
    cases hanswer
    rfl
  | failed _ => cases hanswer
  | @cons _ _ recording _ answer _ _ _ ih =>
    cases answer with
    | error _ => cases hanswer
    | ok more =>
      cases hanswer
      rw [List.flatMap_cons, ih rfl]
      rfl

/-- Only the events of graphs have recorded buffers. -/
theorem Started.collected {answer : Except Failure Unit}
    (h : Started env loop answer loop' events) : events.flatMap Event.recordedBuffers = [] := by
  rw [List.flatMap_eq_nil_iff]
  intro event hmem
  rcases h.mem hmem with ⟨_, rfl⟩ | ⟨_, _, _, _, rfl⟩ | ⟨_, _, _, rfl⟩
  · rfl
  · rfl
  · rfl

theorem Transferred.collected {phase : Phase} {answer : Except Failure Unit}
    (h : Transferred env phase loop answer loop' events) :
    events.flatMap Event.recordedBuffers = [] := by
  rw [List.flatMap_eq_nil_iff]
  intro event hmem
  obtain ⟨_, _, rfl⟩ := h.mem hmem
  rfl

theorem consumedEvents_collected (loop : FrameLoop) (phase : Phase) :
    (loop.consumedEvents phase).flatMap Event.recordedBuffers = [] := by
  rw [List.flatMap_eq_nil_iff]
  intro event hmem
  obtain ⟨_, _, rfl⟩ := FrameLoop.mem_consumedEvents hmem
  rfl

theorem Finished.collected {recorded : List CommandBuffer} {answer : Except Failure FrameOutcome}
    (h : Finished env recorded loop answer loop' events) :
    events.flatMap Event.recordedBuffers = [] := by
  cases h with
  | lateFailed hlate | idle hlate _ | noFrame hlate _ _ => exact hlate.collected
  | rejected hlate _ _ _ _ => simp [hlate.collected, Event.recordedBuffers]
  | accepted hlate _ _ _ =>
    simp [hlate.collected, consumedEvents_collected, Event.recordedBuffers]

/-- A whole frame as steps.  Its batch, if there is one, is made from what its graphs recorded, and
its fence is free by then because the start went through. -/
theorem Submitted.fenceSteps {time : FrameTime} {answer : Except Failure FrameOutcome}
    (h : Submitted env time loop answer loop' events) (hloop : turn.loop = loop)
    (hevents : turn.events = events) (hoperation : turn.operation = .submit time) :
    FenceSteps turn loop.fences events loop'.fences := by
  have hslot : turn.slot = loop.slot? 0 := by rw [Turn.slot, hloop]
  cases h with
  | notStarted hstart => exact hstart.fenceSteps hslot
  | notCopied hstart hearly =>
    have hsteps := hstart.fenceSteps hslot
    obtain ⟨_, _, rfl⟩ := hearly.frame
    exact hsteps.append (.others hearly.others)
  | notRecorded hstart hearly hrecord =>
    have hsteps := hstart.fenceSteps hslot
    obtain ⟨_, _, rfl⟩ := hearly.frame
    exact (hsteps.append (.others hearly.others)).append (.others hrecord.others)
  | @finished _ loop₁ loop₂ _ _ _ _ _ recorded hstart hearly hrecord hfinish =>
    have hsteps := hstart.fenceSteps hslot
    have hcollected : turn.collected = recorded := by
      rw [Turn.collected, hoperation, hevents]
      simp [hstart.collected, hearly.collected, hrecord.collected rfl, hfinish.collected]
    have hfree : ∀ slot fence, loop₁.current? = some (slot, fence) → fence.isHolding = false :=
      fun _ _ => hstart.free_of_ok
    obtain ⟨_, _, rfl⟩ := hearly.frame
    obtain ⟨_, _, _, rfl⟩ := hstart.frame
    refine ((hsteps.append (.others hearly.others)).append (.others hrecord.others)).append ?_
    exact hfinish.fenceSteps hslot (by rw [hloop]) hcollected fun _ => hfree

end Phases

/-! ## Turns as steps -/

/-- An operation that asks nothing and keeps the fences. -/
private theorem silent_fenceSteps {env : Surroundings σ} {stage : Stage σ} {operation : Operation}
    (hevents : (operation.perform env stage).world.events = stage.world.events)
    (hfences : (operation.perform env stage).loop.fences = stage.loop.fences) :
    FenceSteps (stage.turn env operation) stage.loop.fences (stage.turn env operation).events
      (operation.perform env stage).loop.fences := by
  have hnone : (stage.turn env operation).events = [] :=
    Stage.turn_events env stage operation (by rw [hevents, List.append_nil])
  rw [hnone, hfences]
  exact .nil

/-- Every turn is a chain of steps. -/
theorem turn_fenceSteps (env : Surroundings σ) (stage : Stage σ) (operation : Operation) :
    FenceSteps (stage.turn env operation) stage.loop.fences (stage.turn env operation).events
      (operation.perform env stage).loop.fences := by
  cases operation with
  | advance =>
    obtain ⟨events, hevents, hadvanced⟩ := stage.advance_events
    rw [Stage.turn_events env stage .advance hevents, Operation.perform, stage.advance_loop]
    refine .others fun event hmem => ?_
    obtain ⟨_, rfl⟩ := hadvanced event hmem
    rfl
  | submit time =>
    obtain ⟨events, hevents, hsubmit⟩ := FrameLoop.submit_goes env time stage
    have hturn := Stage.turn_events env stage (.submit time) hevents
    rw [hturn]
    exact hsubmit.fenceSteps rfl hturn rfl
  | add attachment => exact silent_fenceSteps rfl (by cases attachment <;> rfl)
  | start =>
    obtain ⟨events, hevents, hstart⟩ := FrameLoop.start_goes env stage
    rw [Stage.turn_events env stage .start hevents]
    exact hstart.fenceSteps rfl
  | record collection time =>
    obtain ⟨_, events, hevents, hrecord, _, hloop, _⟩ :=
      FrameLoop.recordGraphs_goes env time stage.loop.pager stage.loop.graphs
        { stage with recorded := collection }
    have hfences : ((Operation.record collection time).perform env stage).loop = stage.loop := hloop
    rw [Stage.turn_events env stage (.record collection time) hevents, hfences]
    exact .others hrecord.others
  | finish recorded =>
    obtain ⟨events, hevents, hfinish⟩ := FrameLoop.finish_goes env recorded stage
    rw [Stage.turn_events env stage (.finish recorded) hevents]
    exact hfinish.fenceSteps rfl rfl rfl fun hwhole => by cases hwhole
  | transfer phase =>
    obtain ⟨events, hevents, htransfer⟩ := FrameLoop.transfer_goes env phase stage
    have hothers := htransfer.others
    obtain ⟨_, _, hloop⟩ := htransfer.frame
    rw [Stage.turn_events env stage (.transfer phase) hevents, Operation.perform, hloop]
    exact .others hothers
  | attach phase task => exact silent_fenceSteps rfl (by cases phase <;> rfl)
  | editTask phase edit => exact silent_fenceSteps rfl (by cases phase <;> rfl)
  | editGraphs edit => exact silent_fenceSteps rfl rfl

/-- A change of one fence keeps what it keeps of that fence. -/
theorem modify_map {α : Type} (fences : List Fence) (slot : Nat) {f : Fence → Fence} {g : Fence → α}
    (hf : ∀ fence, g (f fence) = g fence) : (fences.modify slot f).map g = fences.map g := by
  apply List.ext_getElem?
  intro i
  rw [List.getElem?_map, List.getElem?_map, List.getElem?_modify]
  cases fences[i]? with
  | none => rfl
  | some fence =>
    by_cases hi : slot = i
    · simp [hi, hf]
    · simp [hi]

/-- No step changes more of a fence than what it holds. -/
theorem FenceSteps.released {turn : Turn} {fences fences' : List Fence} {events : List Event}
    (h : FenceSteps turn fences events fences') :
    fences'.map Fence.release = fences.map Fence.release := by
  induction h with
  | nil => rfl
  | cons hstep _ ih =>
    rw [ih]
    cases hstep with
    | reclaimed _ _ _ => exact modify_map _ _ fun _ => rfl
    | accepted _ _ _ _ _ => exact modify_map _ _ fun _ => rfl
    | _ => rfl

/-- No step changes the handles of the fences. -/
theorem FenceSteps.handles {turn : Turn} {fences fences' : List Fence} {events : List Event}
    (h : FenceSteps turn fences events fences') :
    fences'.map (·.handle) = fences.map (·.handle) := by
  have hhandles := congrArg (List.map Fence.handle) h.released
  rwa [List.map_map, List.map_map] at hhandles

/-- Steps leave the fences of other slots alone. -/
theorem FenceSteps.getElem?_of_other {turn : Turn} {fences fences' : List Fence}
    {events : List Event} (h : FenceSteps turn fences events fences') {other : Nat}
    (hother : turn.slot ≠ some other) : fences'[other]? = fences[other]? := by
  induction h with
  | nil => rfl
  | cons hstep _ ih =>
    rw [ih]
    cases hstep with
    | @reclaimed slot _ _ hslot _ _ | @accepted slot _ _ _ _ hslot _ _ _ _ =>
      have hne : slot ≠ other := fun hsame => hother (hsame ▸ hslot)
      exact List.getElem?_modify_ne _ _ hne
    | _ => rfl

end FramesInFlight
