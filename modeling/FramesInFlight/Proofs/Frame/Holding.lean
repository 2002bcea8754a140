import Mathlib.Data.List.DropRight
import FramesInFlight.Proofs.Frame.FenceSteps

/-!
# What the fences hold

A fence holds what the batches it guards still use.  Buffers of a later batch join those of earlier
ones, while its semaphores take the place of the earlier ones, and all of it goes when a reset goes
through.  Here the operations are in any order: a finish may come twice, without a start, or before
there is a frame at all.

* `acceptedSince` are the batches that were accepted on a slot after its last reset, read off the
  trace alone.
* `Fence.HoldsJust` says that a fence holds all of what these batches use and nothing else.
* `Operation.perform_signals` is why putting the semaphores in the place of others loses none: the
  semaphores that the application wants signalled only ever grow in number.
* `fences_hold_what_was_accepted` is the result for every run from a new loop.
-/

namespace FramesInFlight

variable {σ τ : Type}

/-! ## Batches since the last reset -/

namespace Entry

/-- The fence of a slot was reset. -/
def resets (slot : Nat) (entry : Entry) : Bool :=
  entry.slot == some slot && entry.event.isFinishedReset

/-- A batch was accepted on a slot. -/
def accepts (slot : Nat) (entry : Entry) : Bool :=
  entry.slot == some slot && entry.event.isAccepted

theorem resets_of_accepts {slot : Nat} {entry : Entry} (haccepts : entry.accepts slot = true) :
    entry.resets slot = false := by
  rw [accepts, Bool.and_eq_true_iff] at haccepts
  obtain ⟨_, _, _, _, hevent⟩ := Event.eq_submitted_of_isAccepted haccepts.2
  rw [resets, hevent]
  exact Bool.and_false _

end Entry

/-- The batches accepted on a slot since its fence was last reset. -/
def acceptedSince (slot : Nat) (trace : List Entry) : List Entry :=
  (trace.rtakeWhile fun entry => !entry.resets slot).filter (·.accepts slot)

section Growth

variable {slot : Nat} {trace : List Entry} {entry : Entry}

theorem acceptedSince_of_resets (trace : List Entry) (hresets : entry.resets slot = true) :
    acceptedSince slot (trace ++ [entry]) = [] := by
  rw [acceptedSince, List.rtakeWhile_concat_neg _ _ _ (by simp [hresets]), List.filter_nil]

theorem acceptedSince_of_accepts (trace : List Entry) (haccepts : entry.accepts slot = true) :
    acceptedSince slot (trace ++ [entry]) = acceptedSince slot trace ++ [entry] := by
  have hresets := Entry.resets_of_accepts haccepts
  rw [acceptedSince, List.rtakeWhile_concat_pos _ _ _ (by simp [hresets]), List.filter_append]
  simp [acceptedSince, haccepts]

theorem acceptedSince_of_neither (trace : List Entry) (hresets : entry.resets slot = false)
    (haccepts : entry.accepts slot = false) :
    acceptedSince slot (trace ++ [entry]) = acceptedSince slot trace := by
  rw [acceptedSince, List.rtakeWhile_concat_pos _ _ _ (by simp [hresets]), List.filter_append]
  simp [acceptedSince, haccepts]

/-- Only entries of the slot count. -/
theorem acceptedSince_of_other (trace : List Entry) (hother : entry.slot ≠ some slot) :
    acceptedSince slot (trace ++ [entry]) = acceptedSince slot trace :=
  acceptedSince_of_neither trace (by simp [Entry.resets, hother]) (by simp [Entry.accepts, hother])

theorem mem_acceptedSince (hmem : entry ∈ acceptedSince slot trace) :
    entry ∈ trace ∧ entry.accepts slot = true := by
  obtain ⟨hmem, haccepts⟩ := List.mem_filter.mp hmem
  exact ⟨(List.rtakeWhile_suffix _ _).subset hmem, haccepts⟩

end Growth

/-! ## What a fence should hold -/

/-- A fence holds what some batches, accepted one after the other, still use. -/
structure Fence.HoldsJust (fence : Fence) (accepted : List Entry) : Prop where
  /-- All that was collected for them, whatever its level. -/
  buffers : fence.buffers = accepted.flatMap (·.turn.collected)
  /-- The semaphores that the application wanted signalled when the last one was accepted. -/
  semaphores : fence.semaphores = (accepted.getLast?.map (·.turn.loop.signals)).getD []
  /-- Those of the earlier ones are among them. -/
  kept : ∀ entry ∈ accepted, entry.turn.loop.signals ⊆ fence.semaphores
  /-- What a batch was made of is what was collected, and what the application wanted signalled is
  what it signals. -/
  carried : ∀ entry ∈ accepted, ∃ provider queue batch,
    entry.event = .submitted provider queue batch fence.handle (.ok ()) ∧ entry.turn.Carries batch

namespace Fence.HoldsJust

variable {fence : Fence} {accepted : List Entry} {turn : Turn}

theorem of_nothing (hbuffers : fence.buffers = []) (hsemaphores : fence.semaphores = []) :
    fence.HoldsJust [] where
  buffers := hbuffers
  semaphores := hsemaphores
  kept entry hmem := by cases hmem
  carried entry hmem := by cases hmem

/-- One more batch is accepted.  Its semaphores may take the place of those held, since they begin
with the semaphores of every batch before it. -/
theorem hold (hjust : fence.HoldsJust accepted)
    (hgrowing : ∀ entry ∈ accepted, entry.turn.loop.signals <+: turn.loop.signals)
    {provider : Provider} {queue : Nat} {batch : Batch} (hcarries : turn.Carries batch) :
    (fence.hold turn.collected turn.loop.signals).HoldsJust
      (accepted ++ [⟨turn, .submitted provider queue batch fence.handle (.ok ())⟩]) where
  buffers := by
    rw [List.flatMap_append, ← hjust.buffers]
    simp [Fence.hold]
  semaphores := by simp [Fence.hold]
  kept entry hmem := by
    rcases List.mem_append.mp hmem with hmem | hmem
    · exact (hgrowing entry hmem).subset
    · rw [List.mem_singleton.mp hmem]
      exact List.Subset.refl _
  carried entry hmem := by
    rcases List.mem_append.mp hmem with hmem | hmem
    · exact hjust.carried entry hmem
    · rw [List.mem_singleton.mp hmem]
      exact ⟨provider, queue, batch, rfl, hcarries⟩

end Fence.HoldsJust

/-! ## The semaphores only grow in number -/

/-- No operation takes away a semaphore that the application wants signalled. -/
theorem Operation.perform_signals (env : Surroundings σ) (stage : Stage σ) (operation : Operation) :
    stage.loop.signals <+: (operation.perform env stage).loop.signals := by
  rcases operation.perform_frame env stage with
    rfl | ⟨attachment, rfl⟩ | ⟨edit, rfl⟩ | ⟨_, _, _, hloop⟩
  · rw [perform, stage.advance_loop]
  · cases attachment with
    | signal semaphore => exact List.prefix_append _ _
    | _ => exact List.prefix_refl _
  · exact List.prefix_refl _
  · rw [hloop]

/-! ## The invariant -/

/-- Every fence holds just what was accepted on its slot since its last reset. -/
def HeldJust (fences : List Fence) (trace : List Entry) : Prop :=
  ∀ (slot : Nat) (fence : Fence), fences[slot]? = some fence →
    fence.HoldsJust (acceptedSince slot trace)

namespace HeldJust

variable {fences fences' : List Fence} {trace : List Entry} {turn : Turn} {events : List Event}

/-- An event that neither accepts nor resets changes neither side. -/
theorem quiet (hjust : HeldJust fences trace) {event : Event}
    (hreset : event.isFinishedReset = false) (haccepted : event.isAccepted = false) :
    HeldJust fences (trace ++ [⟨turn, event⟩]) := by
  intro slot fence hfence
  rw [acceptedSince_of_neither trace (by simp [Entry.resets, hreset])
    (by simp [Entry.accepts, haccepted])]
  exact hjust slot fence hfence

/-- The fence of a slot is reset. -/
theorem reclaim (hjust : HeldJust fences trace) {slot : Nat} (hslot : turn.slot = some slot)
    (provider : Provider) (handle : Nat) :
    HeldJust (fences.modify slot Fence.release)
      (trace ++ [⟨turn, .fenceReset provider handle (.ok ())⟩]) := by
  intro other fence' hfence'
  obtain ⟨before, hbefore, ⟨rfl, rfl⟩ | ⟨hne, rfl⟩⟩ := modify_cases hfence'
  · rw [acceptedSince_of_resets _ (by simp [Entry.resets, Entry.slot, hslot,
      Event.isFinishedReset])]
    exact .of_nothing rfl rfl
  · rw [acceptedSince_of_other _ (by simpa [Entry.slot, hslot] using hne)]
    exact hjust other _ hbefore

/-- A batch is accepted on a slot. -/
theorem accept (hjust : HeldJust fences trace)
    (hgrowing : ∀ entry ∈ trace, entry.turn.loop.signals <+: turn.loop.signals) {slot : Nat}
    {fence : Fence} (hslot : turn.slot = some slot) (hfence : fences[slot]? = some fence)
    (provider : Provider) (queue : Nat) {batch : Batch} (hcarries : turn.Carries batch) :
    HeldJust (fences.modify slot (·.hold turn.collected turn.loop.signals))
      (trace ++ [⟨turn, .submitted provider queue batch fence.handle (.ok ())⟩]) := by
  intro other fence' hfence'
  obtain ⟨before, hbefore, ⟨rfl, rfl⟩ | ⟨hne, rfl⟩⟩ := modify_cases hfence'
  · have hsame : before = fence := Option.some.inj (hbefore.symm.trans hfence)
    subst hsame
    rw [acceptedSince_of_accepts _ (by simp [Entry.accepts, Entry.slot, hslot, Event.isAccepted])]
    exact (hjust slot before hbefore).hold
      (fun entry hmem => hgrowing entry (mem_acceptedSince hmem).1) hcarries
  · rw [acceptedSince_of_other _ (by simpa [Entry.slot, hslot] using hne)]
    exact hjust other _ hbefore

/-- A step keeps the invariant when its turn found all the semaphores of earlier turns. -/
theorem step (hjust : HeldJust fences trace)
    (hgrowing : ∀ entry ∈ trace, entry.turn.loop.signals <+: turn.loop.signals)
    (hstep : FenceStep turn fences events fences') :
    HeldJust fences' (trace ++ events.map (Entry.mk turn)) := by
  cases hstep with
  | other hother =>
    obtain ⟨_, hreset, _, haccepted⟩ := Event.of_fence?_eq_none hother
    exact hjust.quiet hreset haccepted
  | waitFailed _ _ _ => exact hjust.quiet rfl rfl
  | @resetFailed _ timeout fence _ _ _ _ =>
    have hwaited : HeldJust fences
        (trace ++ [⟨turn, .fenceWaited fence.provider fence.handle timeout (.ok ())⟩]) :=
      hjust.quiet rfl rfl
    rw [List.map_cons, List.append_cons]
    exact hwaited.quiet rfl rfl
  | @reclaimed _ timeout fence hslot _ _ =>
    have hwaited : HeldJust fences
        (trace ++ [⟨turn, .fenceWaited fence.provider fence.handle timeout (.ok ())⟩]) :=
      hjust.quiet rfl rfl
    rw [List.map_cons, List.append_cons]
    exact hwaited.reclaim hslot _ _
  | rejected _ _ _ => exact hjust.quiet rfl rfl
  | accepted hslot hfence _ _ hcarries => exact hjust.accept hgrowing hslot hfence _ _ hcarries

/-- So does a chain of steps. -/
theorem steps (hjust : HeldJust fences trace)
    (hgrowing : ∀ entry ∈ trace, entry.turn.loop.signals <+: turn.loop.signals)
    (hsteps : FenceSteps turn fences events fences') :
    HeldJust fences' (trace ++ events.map (Entry.mk turn)) := by
  -- The entries of this turn found the same semaphores, so the condition on them is kept too.
  refine (hsteps.keeps (motive := fun fences trace => HeldJust fences trace ∧
    ∀ entry ∈ trace, entry.turn.loop.signals <+: turn.loop.signals) ?_ ⟨hjust, hgrowing⟩).1
  rintro _ _ _ events ⟨hjust, hgrowing⟩ hstep
  refine ⟨hjust.step hgrowing hstep, List.forall_mem_append.mpr ⟨hgrowing, fun entry hmem => ?_⟩⟩
  obtain ⟨_, _, rfl⟩ := List.mem_map.mp hmem
  exact List.prefix_refl _

end HeldJust

/-! ## Runs -/

/-- In whatever order the operations of a run come, and whatever the surroundings answer to each
call, at its end every fence holds all that was collected for the batches accepted on its slot since
its last reset, and the semaphores of the last of them, which include those of all the others. -/
theorem fences_hold_what_was_accepted (env : Surroundings σ) (first : Stage σ)
    (operations : List Operation) (device : Device τ) (queue : Nat) (settings : FrameSettings)
    (world : World τ)
    (hmade : (FrameLoop.create device queue settings world).1 = .ok first.loop) :
    (first.run env operations).loop.fences.length = settings.numBuffers.toNat ∧
      ∀ (slot : Nat) (fence : Fence),
        (first.run env operations).loop.fences[slot]? = some fence →
        fence.HoldsJust (acceptedSince slot (trace (first.history env operations))) := by
  have hnew := FrameLoop.create_new device hmade
  have hrun : (first.run env operations).loop.fences.length = settings.numBuffers.toNat ∧
      HeldJust (first.run env operations).loop.fences (trace (first.history env operations)) ∧
      ∀ entry ∈ trace (first.history env operations),
        entry.turn.loop.signals <+: (first.run env operations).loop.signals := by
    refine Stage.run_induction (motive := fun turns stage =>
      stage.loop.fences.length = settings.numBuffers.toNat ∧
      HeldJust stage.loop.fences (trace turns) ∧
      ∀ entry ∈ trace turns, entry.turn.loop.signals <+: stage.loop.signals) ?_ ?_
    · refine ⟨hnew.fences, fun slot fence hfence => ?_, by simp [trace]⟩
      obtain ⟨hbuffers, hsemaphores⟩ := hnew.free fence (List.mem_of_getElem? hfence)
      exact .of_nothing hbuffers hsemaphores
    · rintro turns stage operation - ⟨hlength, hjust, hgrowing⟩
      have hsteps := turn_fenceSteps env stage operation
      have hhandles := congrArg List.length hsteps.handles
      rw [List.length_map, List.length_map] at hhandles
      rw [trace_concat]
      refine ⟨hhandles.trans hlength, hjust.steps hgrowing hsteps, fun entry hmem => ?_⟩
      have hmore := operation.perform_signals env stage
      rcases List.mem_append.mp hmem with hmem | hmem
      · exact (hgrowing entry hmem).trans hmore
      · obtain ⟨_, _, rfl⟩ := List.mem_map.mp hmem
        exact hmore
  exact ⟨hrun.1, hrun.2.1⟩

/-- Two finishes on one slot, with a semaphore added in between. -/
def repeatedFinishes : List Operation :=
  [.advance, .add (.signal ⟨20, .allCommands, .bench⟩),
    .finish [⟨10, .secondary⟩, ⟨11, .primary⟩], .add (.signal ⟨21, .allCommands, .bench⟩),
    .finish [⟨12, .primary⟩]]

/-- The second finish finds the first batch not reset yet, and the fence holds what both use. -/
theorem repeated_finishes_hold_everything :
    (∀ (slot : Nat) (fence : Fence),
      (Stage.run (Bench.surroundings .bench) ⟨Bench.newLoop, { state := {} }, []⟩
        repeatedFinishes).loop.fences[slot]? = some fence →
      fence.HoldsJust (acceptedSince slot (trace (Stage.history (Bench.surroundings .bench)
        ⟨Bench.newLoop, { state := {} }, []⟩ repeatedFinishes)))) ∧
    (acceptedSince 0 (trace (Stage.history (Bench.surroundings .bench)
      ⟨Bench.newLoop, { state := {} }, []⟩ repeatedFinishes))).flatMap (·.turn.collected) =
        [⟨10, .secondary⟩, ⟨11, .primary⟩, ⟨12, .primary⟩] :=
  ⟨(fences_hold_what_was_accepted (Bench.surroundings .bench)
    ⟨Bench.newLoop, { state := {} }, []⟩ repeatedFinishes (Bench.device .bench) 7 (.ofSlots 2)
    { state := {} } Bench.newLoop_made).2, by decide +kernel⟩

end FramesInFlight
