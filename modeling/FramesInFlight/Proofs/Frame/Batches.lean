import FramesInFlight.Proofs.Frame.Chaining
import FramesInFlight.Proofs.Frame.Slots

/-!
# What is in a batch

A queue reads a batch as four arrays, and the two about waiting with one count: the stage of a wait
stands where its semaphore stands in the other array.  The arrays are filled from many sources, each
of which may have nothing to add.

* `BatchArrays.fill` fills them source after source, and `BatchArrays.fill_eq` says what comes of
  it.  `FrameLoop.batch_arrays` says that these are the arrays of the loop's batch.
* `BatchArrays.Exact` lists the content of the arrays by source, and `BatchArrays.fill_exact` proves
  it.
* `FrameLoop.finish_hands` finds the one batch of a finish.
* `finish_hands_exact_batch` is the result, for a loop after any run that has advanced.
-/

namespace FramesInFlight

variable {σ τ : Type}

/-! ## The arrays of a batch -/

/-- What a queue reads of a batch. -/
structure BatchArrays where
  waitSemaphores : List Nat := []
  /-- Stage at which each of them is waited on. -/
  waitStages : List StageMask := []
  buffers : List Nat := []
  signals : List Nat := []
  deriving DecidableEq, Repr

/-- The arrays of a batch. -/
def Batch.arrays (batch : Batch) : BatchArrays :=
  ⟨batch.waitHandles, batch.waitStages, batch.buffers, batch.signals⟩

namespace BatchArrays

/-- Wait on one more semaphore. -/
def addWait (arrays : BatchArrays) (semaphore : Semaphore) : BatchArrays :=
  { arrays with
    waitSemaphores := arrays.waitSemaphores ++ [semaphore.handle]
    waitStages := arrays.waitStages ++ [semaphore.stage] }

/-- Signal one more semaphore. -/
def addSignal (arrays : BatchArrays) (semaphore : Semaphore) : BatchArrays :=
  { arrays with signals := arrays.signals ++ [semaphore.handle] }

/-- Wait for the copy of a lane and signal that it is consumed, if there is a copy. -/
def addLane (arrays : BatchArrays) (lane : Lane) : BatchArrays :=
  match lane.completed with
  | none => arrays
  | some completed => (arrays.addWait completed).addSignal lane.consumed

/-- Wait for the image of a window, if it has one. -/
def addImage (arrays : BatchArrays) (image : Option Semaphore) : BatchArrays :=
  match image with
  | none => arrays
  | some semaphore => arrays.addWait semaphore

/-- The arrays filled source after source: what was recorded, the lanes, the windows and the
semaphores of the application. -/
def fill (loop : FrameLoop) (image : String → Option Semaphore) (recorded : List CommandBuffer) :
    BatchArrays :=
  let primary : BatchArrays :=
    { buffers := (recorded.filter (·.level == .primary)).map (·.handle) }
  let copied := (primary.addLane loop.early).addLane loop.late
  let shown := loop.windows.foldl (fun arrays window => arrays.addImage (image window)) copied
  loop.signals.foldl addSignal (loop.waits.foldl addWait shown)

/-- The arrays with more at the end of them. -/
def extend (arrays : BatchArrays) (waits signals : List Semaphore) : BatchArrays :=
  { arrays with
    waitSemaphores := arrays.waitSemaphores ++ waits.map (·.handle)
    waitStages := arrays.waitStages ++ waits.map (·.stage)
    signals := arrays.signals ++ signals.map (·.handle) }

theorem extend_nil (arrays : BatchArrays) : arrays.extend [] [] = arrays := by
  simp [extend]

theorem extend_extend (arrays : BatchArrays)
    (waits signals moreWaits moreSignals : List Semaphore) :
    (arrays.extend waits signals).extend moreWaits moreSignals =
      arrays.extend (waits ++ moreWaits) (signals ++ moreSignals) := by
  simp [extend]

theorem addWait_eq (arrays : BatchArrays) (semaphore : Semaphore) :
    arrays.addWait semaphore = arrays.extend [semaphore] [] := by
  simp [addWait, extend]

theorem addSignal_eq (arrays : BatchArrays) (semaphore : Semaphore) :
    arrays.addSignal semaphore = arrays.extend [] [semaphore] := by
  simp [addSignal, extend]

theorem addImage_eq (arrays : BatchArrays) (image : Option Semaphore) :
    arrays.addImage image = arrays.extend image.toList [] := by
  cases image with
  | none => exact (extend_nil _).symm
  | some semaphore => exact addWait_eq _ _

theorem addLane_eq (arrays : BatchArrays) (lane : Lane) :
    arrays.addLane lane = arrays.extend lane.completed.toList lane.signal.toList := by
  unfold addLane Lane.signal
  cases lane.completed with
  | none => exact (extend_nil _).symm
  | some completed =>
    dsimp only
    rw [addSignal_eq, addWait_eq, extend_extend]
    rfl

/-- What sources add one after the other. -/
theorem foldl_extend {α : Type} {add : BatchArrays → α → BatchArrays}
    {waits signals : α → List Semaphore}
    (hadd : ∀ arrays source, add arrays source = arrays.extend (waits source) (signals source))
    (sources : List α) (arrays : BatchArrays) :
    sources.foldl add arrays = arrays.extend (sources.flatMap waits) (sources.flatMap signals) := by
  induction sources generalizing arrays with
  | nil => exact (extend_nil _).symm
  | cons source later ih =>
    rw [List.foldl_cons, ih, hadd, extend_extend]
    rfl

/-- What comes of filling the arrays.  Both arrays about waiting are made from one list. -/
theorem fill_eq (loop : FrameLoop) (image : String → Option Semaphore)
    (recorded : List CommandBuffer) :
    fill loop image recorded =
      extend { buffers := (recorded.filter (·.level == .primary)).map (·.handle) }
        (loop.early.completed.toList ++ loop.late.completed.toList ++
          loop.windows.filterMap image ++ loop.waits)
        (loop.early.signal.toList ++ loop.late.signal.toList ++ loop.signals) := by
  rw [fill, foldl_extend addSignal_eq, foldl_extend addWait_eq,
    foldl_extend fun arrays window => addImage_eq arrays (image window), addLane_eq, addLane_eq]
  have hnothing {α : Type} (sources : List α) :
      sources.flatMap (fun _ => ([] : List Semaphore)) = [] := by simp
  simp only [extend_extend, hnothing, List.flatMap_singleton', List.append_nil,
    List.filterMap_eq_flatMap_toList]

/-- The content of the arrays: `early` and `late` are the copies to wait for, and `images` those
that the windows have. -/
structure Exact (arrays : BatchArrays) (loop : FrameLoop) (early late : Option Semaphore)
    (images : List Semaphore) (recorded : List CommandBuffer) : Prop where
  /-- The primary buffers alone, in the order recorded. -/
  buffers : arrays.buffers = (recorded.filter (·.level = .primary)).map (·.handle)
  /-- Each semaphore has a stage. -/
  paired : arrays.waitSemaphores.length = arrays.waitStages.length
  /-- Each semaphore has its own stage. -/
  waits : arrays.waitSemaphores.zip arrays.waitStages =
    (early.toList ++ late.toList ++ images ++ loop.waits).map fun semaphore =>
      (semaphore.handle, semaphore.stage)
  /-- A consumed semaphore is signalled if there is a copy to consume. -/
  signals : arrays.signals =
    (if early.isSome then [loop.early.consumed.handle] else []) ++
      (if late.isSome then [loop.late.consumed.handle] else []) ++ loop.signals.map (·.handle)

theorem fill_exact (loop : FrameLoop) (image : String → Option Semaphore)
    (recorded : List CommandBuffer) :
    (fill loop image recorded).Exact loop loop.early.completed loop.late.completed
      (loop.windows.filterMap image) recorded := by
  have hsignal (lane : Lane) : lane.signal.toList.map (·.handle) =
      if lane.completed.isSome then [lane.consumed.handle] else [] := by
    unfold Lane.signal
    cases lane.completed <;> rfl
  rw [fill_eq]
  refine ⟨?_, ?_, ?_, ?_⟩
  · rfl
  · simp only [extend, List.length_append, List.length_map]
  · simp only [extend, List.nil_append, List.zip_map']
  · simp only [extend, List.nil_append, List.map_append, hsignal]

end BatchArrays

/-- The arrays of a loop's batch are those filled source after source. -/
theorem FrameLoop.batch_arrays (loop : FrameLoop) (image : String → Option Semaphore)
    (recorded : List CommandBuffer) :
    (loop.batch (loop.windows.filterMap image) recorded).arrays =
      .fill loop image recorded := by
  rw [BatchArrays.fill_eq]
  simp [Batch.arrays, Batch.waitHandles, Batch.waitStages, batch, BatchArrays.extend]

/-! ## The batch of a finish -/

theorem Frame.Ends.of_eq {α : Type} {piece : Frame σ α} {stage stage' : Stage σ}
    {post : Except Failure α → Stage σ → Prop} {answer : Except Failure α}
    (heq : piece stage = (answer, stage')) (hpost : post answer stage') :
    piece.Ends stage post := by
  rw [Frame.Ends, heq]
  exact hpost

namespace FrameLoop

theorem consumedEvents_unhanded (loop : FrameLoop) :
    (loop.consumedEvents .early ++ loop.consumedEvents .late).filter Event.isHanded = [] := by
  rw [List.filter_eq_nil_iff]
  intro event hmem
  rcases List.mem_append.mp hmem with hmem | hmem <;>
    · obtain ⟨_, _, rfl⟩ := mem_consumedEvents hmem
      exact Bool.false_ne_true

/-- A finish with something recorded, once the late transfer has gone through, hands one batch to
the queue, for the fence of the slot in use. -/
theorem finish_hands (env : Surroundings σ) {stage copied : Stage σ}
    {recorded : List CommandBuffer} {slot : Nat} {fence : Fence}
    (hcopied : transfer env .late stage = (.ok (), copied)) (hrecorded : recorded ≠ [])
    (hcurrent : copied.loop.current? = some (slot, fence)) :
    (finish env recorded).Ends stage fun _ stage' => ∃ answer told,
      stage'.world.events = copied.world.events ++ .submitted env.provider copied.loop.queue
        (copied.loop.batch (copied.loop.windows.filterMap (env.image · copied.world.state))
          recorded) fence.handle answer :: told ∧
      told.filter Event.isHanded = [] := by
  rw [finish, Frame.ends_bind]
  refine .of_eq hcopied ?_
  dsimp only
  rw [Frame.ends_bind, Frame.ends_stage]
  dsimp only
  rw [if_neg (by simpa using hrecorded), hcurrent]
  generalize copied.loop.batch _ recorded = batch
  simp only [Frame.ends_bind, Frame.ends_notice, Frame.ends_enqueue, Frame.ends_change,
    Frame.ends_pure]
  refine ⟨fun _ state hsubmit => ?_, fun failure state hsubmit => ⟨.error failure, [], rfl, rfl⟩⟩
  rw [Stage.giveConsumed_events, Stage.giveConsumed_events, Stage.giveConsumed_loop,
    List.append_assoc]
  refine ⟨.ok (), copied.loop.consumedEvents .early ++ copied.loop.consumedEvents .late, ?_,
    consumedEvents_unhanded copied.loop⟩
  refine (congrArg (_ ++ ·) (afterAccepted_events copied.loop slot recorded)).trans ?_
  simp [World.notice]

/-- A finish with nothing recorded, once the late transfer has gone through, ends the frame as
idle. -/
theorem finish_idles (env : Surroundings σ) {stage copied : Stage σ}
    (hcopied : transfer env .late stage = (.ok (), copied)) :
    (finish env []).Ends stage fun answer _ => answer = .ok .idle := by
  rw [finish, Frame.ends_bind]
  refine .of_eq hcopied ?_
  dsimp only
  rw [Frame.ends_bind, Frame.ends_stage]
  rfl

/-- A finish with nothing recorded hands nothing to the queue, and changes no fence and no slot. -/
theorem finish_nothing (env : Surroundings σ) (stage : Stage σ) :
    (stage.turn env (.finish [])).events.filter Event.isHanded = [] ∧
      (finish env [] stage).2.loop.fences = stage.loop.fences ∧
      (finish env [] stage).2.loop.ring = stage.loop.ring := by
  obtain ⟨events, hevents, hfinish⟩ := finish_goes env [] stage
  rw [Stage.turn_events env stage (.finish []) hevents]
  generalize (finish env [] stage).1 = answer, (finish env [] stage).2.loop = loop' at hfinish ⊢
  cases hfinish with
  | lateFailed hlate | idle hlate _ =>
    obtain ⟨_, _, hloop⟩ := hlate.frame
    refine ⟨?_, by rw [hloop], by rw [hloop]⟩
    rw [List.filter_eq_nil_iff]
    exact fun event hmem => Bool.eq_false_iff.mp (hlate.quiet event hmem).1
  | noFrame _ hrecorded _ | rejected _ hrecorded _ _ _ | accepted _ hrecorded _ _ =>
    exact absurd rfl hrecorded

end FrameLoop

/-- The late transfer changes nothing of the sources but what its own lane has published. -/
theorem Transferred.fill_exact {env : Surroundings σ} {loop loop' : FrameLoop} {events : List Event}
    (h : Transferred env .late loop (.ok ()) loop' events) (image : String → Option Semaphore)
    (recorded : List CommandBuffer) :
    (BatchArrays.fill loop' image recorded).Exact loop loop.early.completed loop'.late.completed
      (loop.windows.filterMap image) recorded := by
  have hearly : loop'.early = loop.early := h.lane_other (by decide : Phase.early ≠ .late)
  have hlate : loop'.late.consumed = loop.late.consumed := by
    have hconsumed := congrArg Lane.consumed (h.lane_cleared .late)
    exact hconsumed
  obtain ⟨_, _, hframe⟩ := h.frame
  have hwindows : loop'.windows = loop.windows := by rw [hframe]
  have hwaits : loop'.waits = loop.waits := by rw [hframe]
  have hsignals : loop'.signals = loop.signals := by rw [hframe]
  have hexact := BatchArrays.fill_exact loop' image recorded
  rw [hearly, hwindows] at hexact
  exact ⟨hexact.buffers, hexact.paired, hwaits ▸ hexact.waits, by
    rw [hexact.signals, hearly, hlate, hsignals]⟩

/-- Take a loop that was just made, whatever is attached to it and done with it in any run that has
advanced, whatever the surroundings answer.  A finish with something recorded hands one batch to
the queue when the late transfer goes through, with the fence of the slot in use; its arrays are
filled source after source, and have what the sources have and nothing else.  A finish with nothing
recorded leaves the queue, the fences and the slots alone. -/
theorem finish_hands_exact_batch (env : Surroundings σ) (first : Stage σ)
    (operations : List Operation) (device : Device τ) (queue : Nat) (settings : FrameSettings)
    (world : World τ)
    (hmade : (FrameLoop.create device queue settings world).1 = .ok first.loop)
    (hadvanced : .advance ∈ operations) {stage : Stage σ}
    (hstage : first.run env operations = stage) :
    (∀ recorded copied, recorded ≠ [] → FrameLoop.transfer env .late stage = (.ok (), copied) →
      ∃ fence batch answer, stage.loop.fence? 0 = some fence ∧
        (stage.turn env (.finish recorded)).events.filter Event.isHanded =
          [.submitted env.provider stage.loop.queue batch fence.handle answer] ∧
        batch.arrays = .fill copied.loop (env.image · copied.world.state) recorded ∧
        batch.arrays.Exact stage.loop stage.loop.early.completed copied.loop.late.completed
          (stage.loop.windows.filterMap (env.image · copied.world.state)) recorded) ∧
    (stage.turn env (.finish [])).events.filter Event.isHanded = [] ∧
    (FrameLoop.finish env [] stage).2.loop.fences = stage.loop.fences ∧
    (FrameLoop.finish env [] stage).2.loop.ring = stage.loop.ring ∧
    ((FrameLoop.transfer env .late stage).1 = .ok () →
      (FrameLoop.finish env [] stage).1 = .ok .idle) := by
  subst hstage
  obtain ⟨slot, fence, hcurrent⟩ :=
    first.run_current? env (FrameLoop.create_new device hmade) hadvanced
  generalize first.run env operations = stage at hcurrent ⊢
  obtain ⟨hquiet, hfences, hring⟩ := FrameLoop.finish_nothing env stage
  refine ⟨fun recorded copied hrecorded hcopied => ?_, hquiet, hfences, hring,
    fun hlate => FrameLoop.finish_idles env (Prod.ext hlate rfl)⟩
  obtain ⟨events, hevents, htransfer⟩ := FrameLoop.transfer_goes env .late stage
  rw [hcopied] at hevents htransfer
  dsimp only at hevents htransfer
  obtain ⟨hslot, hfence⟩ := FrameLoop.current?_eq_some.mp hcurrent
  rw [← htransfer.current?] at hcurrent
  obtain ⟨answer, told, htold, hunhanded⟩ :=
    FrameLoop.finish_hands env hcopied hrecorded hcurrent
  rw [hevents, List.append_assoc] at htold
  have hsilent : events.filter Event.isHanded = [] := by
    rw [List.filter_eq_nil_iff]
    exact fun event hmem => Bool.eq_false_iff.mp (htransfer.quiet event hmem).1
  have hqueue : copied.loop.queue = stage.loop.queue := by
    obtain ⟨_, _, hloop⟩ := htransfer.frame
    rw [hloop]
  refine ⟨fence, _, answer, ?_, ?_, FrameLoop.batch_arrays copied.loop _ recorded, ?_⟩
  · rw [FrameLoop.fence?, hslot]
    exact hfence
  · rw [Stage.turn_events env stage (.finish recorded) htold, List.filter_append,
      List.filter_cons_of_pos rfl, hunhanded, hsilent, hqueue]
    rfl
  · rw [FrameLoop.batch_arrays]
    exact htransfer.fill_exact _ recorded

/-- A bench with a copy on each lane, a window that has an image and one that has none. -/
def furnishedBench : Bench where
  transfers := [(⟨0, "early"⟩, { produces := some ⟨100, .transfer, .bench⟩ }),
    (⟨1, "late"⟩, { produces := some ⟨101, .allCommands, .bench⟩ })]
  windows := [("hidden", none), ("main", some ⟨70, 0x400, .bench⟩)]

/-- A run that has attached all of that, has advanced and has run the early transfer. -/
def furnishing : List Operation :=
  [.attach .early { number := 0, name := "early" }, .attach .late { number := 1, name := "late" },
    .add (.window "hidden"), .add (.window "main"), .add (.wait ⟨50, 0x8, .bench⟩),
    .add (.signal ⟨60, .transfer, .bench⟩), .advance, .transfer .early]

/-- The stage after that run. -/
def furnishedStage : Stage Bench :=
  Stage.run (Bench.surroundings .bench) ⟨Bench.newLoop, { state := furnishedBench }, []⟩ furnishing

/-- A secondary buffer among two primary ones: every source shows in the batch, and in its place. -/
theorem furnished_batch_is_exact :
    (FrameLoop.create (Bench.device .bench) 7 (.ofSlots 2) { state := {} }).1 = .ok Bench.newLoop ∧
    .advance ∈ furnishing ∧
    FrameLoop.transfer (Bench.surroundings .bench) .late furnishedStage =
      (.ok (), (FrameLoop.transfer (Bench.surroundings .bench) .late furnishedStage).2) ∧
    ∃ fence batch answer, furnishedStage.loop.fence? 0 = some fence ∧
      (furnishedStage.turn (Bench.surroundings .bench) (.finish
        [⟨10, .primary⟩, ⟨11, .secondary⟩, ⟨12, .primary⟩])).events.filter Event.isHanded =
        [.submitted .bench 7 batch fence.handle answer] ∧
      batch.arrays = ⟨[100, 101, 70, 50], [.transfer, .allCommands, 0x400, 0x8], [10, 12],
        [1000, 1001, 60]⟩ := by
  have hadvanced : .advance ∈ furnishing := by simp [furnishing]
  have hstage : Stage.run (Bench.surroundings .bench)
      ⟨Bench.newLoop, { state := furnishedBench }, []⟩ furnishing = furnishedStage := rfl
  have hexact := finish_hands_exact_batch (Bench.surroundings .bench)
    ⟨Bench.newLoop, { state := furnishedBench }, []⟩ furnishing (Bench.device .bench) 7
    (.ofSlots 2) { state := {} } Bench.newLoop_made hadvanced hstage
  obtain ⟨fence, batch, answer, hfence, hhanded, harrays, -⟩ :=
    hexact.1 [⟨10, .primary⟩, ⟨11, .secondary⟩, ⟨12, .primary⟩] _ (by decide) rfl
  exact ⟨Bench.newLoop_made, hadvanced, rfl, fence, batch, answer, hfence, hhanded, harrays⟩

end FramesInFlight
