import FramesInFlight.Proofs.Frame.FenceSteps

/-!
# The slot in use

An advance moves the ring of slots on, and nothing else does.  The slot it moves to is one of those
that have a fence.  So from the first advance on a loop always has a current frame, whatever else is
done with it, and no phase can fail for want of one.
-/

namespace FramesInFlight

variable {σ : Type}

/-! ## Advancing the ring -/

namespace SlotRing

theorem nextSlot_lt {ring : SlotRing} (hpositive : 0 < ring.size) : ring.nextSlot < ring.size := by
  unfold nextSlot
  split
  · exact hpositive
  · exact Nat.mod_lt _ hpositive

theorem advance_size {ring : SlotRing} (hpositive : 0 < ring.size) :
    ring.advance.size = ring.size := by
  unfold size at hpositive
  unfold advance size
  split
  · rw [List.length_cons, List.length_tail]
    omega
  · rw [List.length_cons, List.length_dropLast]
    omega

/-- The newest slot is the one moved to. -/
theorem advance_slot? (ring : SlotRing) : ring.advance.slot? 0 = some ring.nextSlot := by
  unfold advance
  split
  · rfl
  · rfl

end SlotRing

/-! ## The ring of a loop -/

theorem Stage.advance_ring (env : Surroundings σ) (stage : Stage σ) :
    (Operation.advance.perform env stage).loop.ring = stage.loop.ring.advance := by
  rw [Operation.perform, advance_loop]

theorem Operation.perform_ring (env : Surroundings σ) (stage : Stage σ) {operation : Operation}
    (hother : operation ≠ .advance) :
    (operation.perform env stage).loop.ring = stage.loop.ring := by
  rcases operation.perform_frame env stage with
    rfl | ⟨attachment, rfl⟩ | ⟨edit, rfl⟩ | ⟨_, _, _, hloop⟩
  · exact absurd rfl hother
  · cases attachment <;> rfl
  · rfl
  · rw [hloop]

/-- A loop with as many fences as slots, which uses one of them if it uses any. -/
structure FrameLoop.InRange (loop : FrameLoop) (slots : Nat) : Prop where
  positive : 0 < slots
  size : loop.ring.size = slots
  fences : loop.fences.length = slots
  slot : ∀ slot, loop.slot? 0 = some slot → slot < slots

namespace FrameLoop.InRange

variable {loop : FrameLoop} {slots : Nat}

theorem of_new (hnew : loop.IsNew slots) : loop.InRange slots where
  positive := hnew.positive
  size := by rw [hnew.ring, SlotRing.ofSize, SlotRing.size, List.length_replicate]
  fences := hnew.fences
  slot slot hslot := by
    rw [FrameLoop.slot?, hnew.ring, SlotRing.ofSize, SlotRing.slot?,
      List.getElem?_replicate] at hslot
    split at hslot
    · cases hslot
    · cases hslot

/-- The slot in use has a fence. -/
theorem current? (hrange : loop.InRange slots) (hused : loop.slot? 0 ≠ none) :
    ∃ slot fence, loop.current? = some (slot, fence) := by
  obtain ⟨slot, hslot⟩ := Option.ne_none_iff_exists'.mp hused
  have hlt : slot < loop.fences.length := by
    rw [hrange.fences]
    exact hrange.slot slot hslot
  exact ⟨slot, loop.fences[slot], FrameLoop.current?_eq_some.mpr
    ⟨hslot, List.getElem?_eq_getElem hlt⟩⟩

theorem perform {stage : Stage σ} (hrange : stage.loop.InRange slots) (env : Surroundings σ)
    (operation : Operation) : (operation.perform env stage).loop.InRange slots := by
  have hhandles := congrArg List.length (turn_fenceSteps env stage operation).handles
  rw [List.length_map, List.length_map] at hhandles
  have hfences := hhandles.trans hrange.fences
  by_cases hadvance : operation = .advance
  · subst hadvance
    have hring := stage.advance_ring env
    have hpositive : 0 < stage.loop.ring.size := by
      rw [hrange.size]
      exact hrange.positive
    refine ⟨hrange.positive, ?_, hfences, fun slot hslot => ?_⟩
    · rw [hring, SlotRing.advance_size hpositive, hrange.size]
    · rw [FrameLoop.slot?, hring, SlotRing.advance_slot?] at hslot
      rw [← Option.some.inj hslot, ← hrange.size]
      exact SlotRing.nextSlot_lt hpositive
  · have hring := Operation.perform_ring env stage hadvance
    refine ⟨hrange.positive, by rw [hring, hrange.size], hfences, fun slot hslot => ?_⟩
    rw [FrameLoop.slot?, hring] at hslot
    exact hrange.slot slot hslot

end FrameLoop.InRange

/-- Once a run from a new loop has advanced, the loop has a current frame. -/
theorem Stage.run_current? (env : Surroundings σ) {first : Stage σ} {slots : Nat}
    (hnew : first.loop.IsNew slots) {operations : List Operation}
    (hadvanced : .advance ∈ operations) :
    ∃ slot fence, (first.run env operations).loop.current? = some (slot, fence) := by
  have hrun : (first.run env operations).loop.InRange slots ∧
      ((∃ turn ∈ first.history env operations, turn.operation = .advance) →
        (first.run env operations).loop.slot? 0 ≠ none) := by
    refine Stage.run_induction (motive := fun turns stage => stage.loop.InRange slots ∧
      ((∃ turn ∈ turns, turn.operation = .advance) → stage.loop.slot? 0 ≠ none)) ?_ ?_
    · exact ⟨.of_new hnew, by simp⟩
    · rintro turns stage operation - ⟨hrange, hused⟩
      refine ⟨hrange.perform env operation, fun hturn => ?_⟩
      by_cases hadvance : operation = .advance
      · subst hadvance
        rw [FrameLoop.slot?, stage.advance_ring env, SlotRing.advance_slot?]
        exact Option.some_ne_none _
      · rw [FrameLoop.slot?, Operation.perform_ring env stage hadvance]
        refine hused ?_
        obtain ⟨turn, hmem, hturn⟩ := hturn
        rcases List.mem_append.mp hmem with hmem | hmem
        · exact ⟨turn, hmem, hturn⟩
        · rw [List.mem_singleton.mp hmem] at hturn
          exact absurd hturn hadvance
  refine hrun.1.current? (hrun.2 ?_)
  rw [← first.history_operations env operations] at hadvanced
  obtain ⟨turn, hmem, hturn⟩ := List.mem_map.mp hadvanced
  exact ⟨turn, hmem, hturn⟩

end FramesInFlight
