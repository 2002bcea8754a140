import Mathlib.Data.List.Perm.Subperm
import FramesInFlight.Proofs.Frame.FenceSteps

/-!
# Fences are reused safely

A batch that the queue accepted is in flight until the host knows that the device is done with it:
until a later wait for its slot's fence went through and a later reset of it did too.  No part of a
loop says which batches are in flight.  A start reads it off what the fence of the slot holds, and
the results here say that this is right over whole runs.

* `inFlight` are the batches in flight after a trace, read off the trace alone, and the lemmas after
  it say how they change when the trace grows.
* `Entry.IsSafe` is what an entry needs of the entries before it, and `ReusedSafely` says that a
  trace has nothing but safe entries and that every slot has at most one batch in flight at a time.
* `Tracked` is the invariant: a fence holds something if and only if its slot has a batch in flight.
  `Tracked.step` keeps it over one step, with a case for each kind of step.
* `submit_reuses_fences_safely` is the result for every run of whole frames from a new loop.
-/

namespace FramesInFlight

variable {σ τ : Type}

/-! ## Batches in flight -/

/-- A wait for the fence of a slot went through, and so did a reset of it after that. -/
def isReclaimed (slot : Option Nat) : List Entry → Bool
  | [] => false
  | entry :: later =>
    (entry.slot == slot && entry.event.isFinishedWait &&
        later.any fun reset => reset.slot == slot && reset.event.isFinishedReset) ||
      isReclaimed slot later

/-- The accepted batches that were not reclaimed since. -/
def inFlight : List Entry → List Entry
  | [] => []
  | entry :: later =>
    if entry.event.isAccepted && !isReclaimed entry.slot later then entry :: inFlight later
    else inFlight later

section Growth

variable {trace more : List Entry} {entry waited reset : Entry}

theorem isReclaimed_append (slot : Option Nat) (trace : List Entry)
    (hnone : ∀ entry ∈ more, entry.event.isFinishedReset = false) :
    isReclaimed slot (trace ++ more) = isReclaimed slot trace := by
  have hany :
      (more.any fun reset => reset.slot == slot && reset.event.isFinishedReset) = false := by
    rw [List.any_eq_false]
    intro entry hmem
    simp [hnone entry hmem]
  induction trace with
  | nil =>
    rw [List.nil_append, isReclaimed]
    induction more with
    | nil => rfl
    | cons entry later ih =>
      rw [List.any_cons, Bool.or_eq_false_iff] at hany
      have hlater := ih (fun reset hmem => hnone reset (List.mem_cons_of_mem _ hmem)) hany.2
      rw [isReclaimed, hany.2, hlater, Bool.and_false, Bool.false_or]
  | cons entry later ih =>
    rw [List.cons_append, isReclaimed, isReclaimed, ih, List.any_append, hany, Bool.or_false]

theorem isReclaimed_append_pair (slot : Option Nat) (trace : List Entry)
    (hwaited : waited.event.isFinishedWait = true) (hreset : reset.event.isFinishedReset = true)
    (hsame : waited.slot = reset.slot) :
    isReclaimed slot (trace ++ [waited, reset]) =
      (isReclaimed slot trace || reset.slot == slot) := by
  induction trace with
  | nil => simp [isReclaimed, hwaited, hreset, hsame]
  | cons entry later ih =>
    rw [List.cons_append, isReclaimed, isReclaimed, ih, List.any_append]
    cases hslot : reset.slot == slot
    · simp [hslot, hsame]
    · simp

theorem mem_inFlight (hmem : entry ∈ inFlight trace) :
    entry ∈ trace ∧ entry.event.isAccepted = true := by
  induction trace with
  | nil => cases hmem
  | cons first later ih =>
    rw [inFlight] at hmem
    split at hmem
    · rename_i haccepted
      rcases List.mem_cons.mp hmem with rfl | hmem
      · exact ⟨List.mem_cons_self, (Bool.and_eq_true_iff.mp haccepted).1⟩
      · exact ⟨List.mem_cons_of_mem _ (ih hmem).1, (ih hmem).2⟩
    · exact ⟨List.mem_cons_of_mem _ (ih hmem).1, (ih hmem).2⟩

/-- Entries without a reset that went through reclaim nothing. -/
theorem inFlight_append (trace : List Entry)
    (hnone : ∀ entry ∈ more, entry.event.isFinishedReset = false) :
    inFlight (trace ++ more) = inFlight trace ++ inFlight more := by
  induction trace with
  | nil => rfl
  | cons entry later ih =>
    rw [List.cons_append, inFlight, inFlight, isReclaimed_append _ _ hnone, ih]
    split
    · rfl
    · rfl

/-- A wait and a reset that both went through reclaim the batches of their slot, and no others. -/
theorem inFlight_append_pair (trace : List Entry)
    (hwaited : waited.event.isFinishedWait = true) (hreset : reset.event.isFinishedReset = true)
    (hsame : waited.slot = reset.slot) :
    inFlight (trace ++ [waited, reset]) =
      (inFlight trace).filter fun batch => batch.slot != reset.slot := by
  induction trace with
  | nil =>
    have hnot : waited.event.isAccepted = false ∧ reset.event.isAccepted = false := by
      constructor
      · by_contra haccepted
        obtain ⟨_, _, _, _, hevent⟩ :=
          Event.eq_submitted_of_isAccepted (Bool.of_not_eq_false haccepted)
        rw [hevent] at hwaited
        cases hwaited
      · by_contra haccepted
        obtain ⟨_, _, _, _, hevent⟩ :=
          Event.eq_submitted_of_isAccepted (Bool.of_not_eq_false haccepted)
        rw [hevent] at hreset
        cases hreset
    simp [inFlight, hnot]
  | cons entry later ih =>
    rw [List.cons_append, inFlight, inFlight, isReclaimed_append_pair _ _ hwaited hreset hsame, ih]
    cases haccepted : entry.event.isAccepted
    · simp
    · cases hreclaimed : isReclaimed entry.slot later
      · by_cases hslot : entry.slot = reset.slot
        · simp [hslot]
        · simp [hslot, Ne.symm hslot]
      · simp

end Growth

/-! ## Safe traces -/

/-- What an entry needs of the entries before it.  `handles` are those of the fences, in the order
of the slots. -/
structure Entry.IsSafe (handles : List Nat) (before : List Entry) (entry : Entry) : Prop where
  /-- An event about a fence is about the fence of the slot in use. -/
  named : ∀ handle, entry.event.fence? = some handle →
    ∃ slot, entry.slot = some slot ∧ handles[slot]? = some handle
  /-- A batch is handed over only when the slot has none in flight. -/
  handed : entry.event.isHanded = true → ∀ batch ∈ inFlight before, batch.slot ≠ entry.slot
  /-- A fence is waited for only when the slot has a batch in flight. -/
  waited : entry.event.isWait = true → ∃ batch ∈ inFlight before, batch.slot = entry.slot

/-- A trace that reuses fences safely, at every point of it. -/
structure ReusedSafely (handles : List Nat) (trace : List Entry) : Prop where
  entries : ∀ before entry, before ++ [entry] <+: trace → entry.IsSafe handles before
  /-- No slot has two batches in flight. -/
  single : ∀ before, before <+: trace → ((inFlight before).map Entry.slot).Nodup
  /-- The host is never ahead by more batches than there are fences. -/
  bounded : ∀ before, before <+: trace → (inFlight before).length ≤ handles.length

section Safe

variable {handles : List Nat} {trace : List Entry} {entry : Entry}

theorem ReusedSafely.nil (handles : List Nat) : ReusedSafely handles [] where
  entries before entry hcut := by simp at hcut
  single before hcut := by
    rw [List.prefix_nil.mp hcut]
    exact List.nodup_nil
  bounded before hcut := by
    rw [List.prefix_nil.mp hcut]
    exact Nat.zero_le _

/-- Batches in flight on different slots are no more than there are slots. -/
theorem length_inFlight_le
    (hnamed : ∀ entry ∈ trace, ∀ handle, entry.event.fence? = some handle →
      ∃ slot, entry.slot = some slot ∧ handles[slot]? = some handle)
    (hsingle : ((inFlight trace).map Entry.slot).Nodup) :
    (inFlight trace).length ≤ handles.length := by
  have hslots : (inFlight trace).map Entry.slot ⊆ (List.range handles.length).map some := by
    intro slot hmem
    obtain ⟨batch, hbatch, rfl⟩ := List.mem_map.mp hmem
    obtain ⟨hmem, haccepted⟩ := mem_inFlight hbatch
    obtain ⟨_, _, _, handle, hevent⟩ := Event.eq_submitted_of_isAccepted haccepted
    obtain ⟨slot, hslot, hfound⟩ := hnamed batch hmem handle (by rw [hevent]; rfl)
    rw [hslot]
    obtain ⟨hlt, _⟩ := List.getElem?_eq_some_iff.mp hfound
    exact List.mem_map_of_mem (List.mem_range.mpr hlt)
  have hle := (hsingle.subperm hslots).length_le
  simpa using hle

/-- A safe trace followed by a safe entry is safe when no slot has two batches in flight then. -/
theorem ReusedSafely.concat (hsafe : ReusedSafely handles trace)
    (hentry : entry.IsSafe handles trace)
    (hsingle : ((inFlight (trace ++ [entry])).map Entry.slot).Nodup) :
    ReusedSafely handles (trace ++ [entry]) := by
  have hnamed : ∀ entry' ∈ trace ++ [entry], ∀ handle, entry'.event.fence? = some handle →
      ∃ slot, entry'.slot = some slot ∧ handles[slot]? = some handle := by
    intro entry' hmem
    rcases List.mem_append.mp hmem with hmem | hmem
    · obtain ⟨before, after, rfl⟩ := List.append_of_mem hmem
      exact (hsafe.entries before entry' ⟨after, by simp⟩).named
    · rw [List.mem_singleton.mp hmem]
      exact hentry.named
  -- A prefix of the longer trace is all of it, or it is a prefix of the shorter one.
  refine ⟨fun before entry' hcut => ?_, fun before hcut => ?_, fun before hcut => ?_⟩
  · rcases List.prefix_concat_iff.mp hcut with hall | hcut
    · obtain ⟨rfl, hsame⟩ := List.append_inj' hall rfl
      cases hsame
      exact hentry
    · exact hsafe.entries before entry' hcut
  · rcases List.prefix_concat_iff.mp hcut with rfl | hcut
    · exact hsingle
    · exact hsafe.single before hcut
  · rcases List.prefix_concat_iff.mp hcut with rfl | hcut
    · exact length_inFlight_le hnamed hsingle
    · exact hsafe.bounded before hcut

end Safe

/-! ## The invariant -/

/-- The fences tell which slots have a batch in flight, and all was safe so far. -/
structure Tracked (handles : List Nat) (fences : List Fence) (trace : List Entry) : Prop where
  safe : ReusedSafely handles trace
  handles : fences.map (·.handle) = handles
  holding : ∀ slot fence, fences[slot]? = some fence →
    (fence.isHolding = true ↔ ∃ batch ∈ inFlight trace, batch.slot = some slot)

namespace Tracked

variable {handles : List Nat} {fences fences' : List Fence} {trace : List Entry} {turn : Turn}
  {slot : Nat} {fence : Fence} {events : List Event}

theorem single (htracked : Tracked handles fences trace) :
    ((inFlight trace).map Entry.slot).Nodup :=
  htracked.safe.single trace (List.prefix_refl _)

/-- An event about the fence of the slot in use names it rightly. -/
theorem named (htracked : Tracked handles fences trace) (hslot : turn.slot = some slot)
    (hfence : fences[slot]? = some fence) {event : Event}
    (hevent : event.fence? = some fence.handle) :
    ∀ handle, event.fence? = some handle →
      ∃ slot, (Entry.mk turn event).slot = some slot ∧ handles[slot]? = some handle := by
  intro handle hhandle
  have hsame : fence.handle = handle := Option.some.inj (hevent.symm.trans hhandle)
  refine ⟨slot, hslot, ?_⟩
  rw [← htracked.handles, List.getElem?_map, hfence, ← hsame]
  rfl

/-- An entry that accepts and reclaims nothing keeps the invariant when it is safe. -/
theorem quiet (htracked : Tracked handles fences trace) {entry : Entry}
    (hentry : entry.IsSafe handles trace) (haccepted : entry.event.isAccepted = false)
    (hreset : entry.event.isFinishedReset = false) :
    Tracked handles fences (trace ++ [entry]) := by
  have hsame : inFlight (trace ++ [entry]) = inFlight trace := by
    rw [inFlight_append trace (by simpa using hreset)]
    simp [inFlight, haccepted]
  refine ⟨htracked.safe.concat hentry ?_, htracked.handles, ?_⟩
  · rw [hsame]
    exact htracked.single
  · rw [hsame]
    exact htracked.holding

/-- Waiting for the fence of the slot in use keeps the invariant when it holds something. -/
theorem wait (htracked : Tracked handles fences trace) (hslot : turn.slot = some slot)
    (hfence : fences[slot]? = some fence) (hholding : fence.isHolding = true) (timeout : Nat)
    (answer : Except Failure Unit) :
    Tracked handles fences
      (trace ++ [⟨turn, .fenceWaited fence.provider fence.handle timeout answer⟩]) := by
  obtain ⟨batch, hmem, hbatch⟩ := (htracked.holding slot fence hfence).mp hholding
  refine htracked.quiet ⟨htracked.named hslot hfence rfl, fun hhanded => ?_, fun _ => ?_⟩ rfl rfl
  · cases hhanded
  · exact ⟨batch, hmem, hbatch.trans hslot.symm⟩

theorem reset_isSafe (htracked : Tracked handles fences trace) (hslot : turn.slot = some slot)
    (hfence : fences[slot]? = some fence) {answer : Except Failure Unit} :
    (Entry.mk turn (.fenceReset fence.provider fence.handle answer)).IsSafe handles trace where
  named := htracked.named hslot hfence rfl
  handed hhanded := by cases hhanded
  waited hwait := by cases hwait

/-- Handing over a batch is safe when the fence of the slot in use holds nothing. -/
theorem handed_isSafe (htracked : Tracked handles fences trace) (hslot : turn.slot = some slot)
    (hfence : fences[slot]? = some fence) (hfree : fence.isHolding = false) {provider : Provider}
    {queue : Nat} {batch : Batch} {answer : Except Failure Unit} :
    (Entry.mk turn (.submitted provider queue batch fence.handle answer)).IsSafe handles trace where
  named := htracked.named hslot hfence rfl
  handed _ other hmem hother := by
    have hholding := (htracked.holding slot fence hfence).mpr ⟨other, hmem, hother.trans hslot⟩
    rw [hfree] at hholding
    cases hholding
  waited hwait := by cases hwait

/-- After a wait and a reset that both went through, the slot has no batch in flight. -/
theorem reclaim (htracked : Tracked handles fences trace) (hslot : turn.slot = some slot)
    (hfence : fences[slot]? = some fence) (hholding : fence.isHolding = true) (timeout : Nat) :
    Tracked handles (fences.modify slot Fence.release)
      (trace ++ [⟨turn, .fenceWaited fence.provider fence.handle timeout (.ok ())⟩,
        ⟨turn, .fenceReset fence.provider fence.handle (.ok ())⟩]) := by
  have hwaited := htracked.wait hslot hfence hholding timeout (.ok ())
  have hleft : inFlight
      (trace ++ [⟨turn, .fenceWaited fence.provider fence.handle timeout (.ok ())⟩,
        ⟨turn, .fenceReset fence.provider fence.handle (.ok ())⟩]) =
      (inFlight trace).filter fun batch => batch.slot != some slot := by
    rw [← hslot]
    exact inFlight_append_pair trace rfl rfl rfl
  refine ⟨?_, ?_, fun other fence' hfence' => ?_⟩
  · rw [List.append_cons]
    refine hwaited.safe.concat (hwaited.reset_isSafe hslot hfence) ?_
    rw [← List.append_cons, hleft]
    exact htracked.single.sublist (List.filter_sublist.map _)
  · rw [← htracked.handles]
    exact modify_map _ _ fun _ => rfl
  · rw [hleft]
    obtain ⟨before, hbefore, ⟨rfl, rfl⟩ | ⟨hne, rfl⟩⟩ := modify_cases hfence'
    · simp [Fence.release_isHolding]
    · rw [htracked.holding other _ hbefore]
      constructor
      · rintro ⟨batch, hmem, hbatch⟩
        refine ⟨batch, List.mem_filter.mpr ⟨hmem, ?_⟩, hbatch⟩
        simpa [hbatch] using Ne.symm hne
      · rintro ⟨batch, hmem, hbatch⟩
        exact ⟨batch, (List.mem_filter.mp hmem).1, hbatch⟩

/-- After a batch was accepted, its slot has that batch in flight, and the fence holds something. -/
theorem accept (htracked : Tracked handles fences trace) (hslot : turn.slot = some slot)
    (hfence : fences[slot]? = some fence) (hfree : fence.isHolding = false)
    {buffers : List CommandBuffer} (hbuffers : buffers ≠ []) (semaphores : List Semaphore)
    (provider : Provider) (queue : Nat) (batch : Batch) :
    Tracked handles (fences.modify slot (·.hold buffers semaphores))
      (trace ++ [⟨turn, .submitted provider queue batch fence.handle (.ok ())⟩]) := by
  have hentry : (Entry.mk turn (.submitted provider queue batch fence.handle (.ok ()))).IsSafe
      handles trace := htracked.handed_isSafe hslot hfence hfree
  have hmore : inFlight (trace ++ [⟨turn, .submitted provider queue batch fence.handle (.ok ())⟩]) =
      inFlight trace ++ [⟨turn, .submitted provider queue batch fence.handle (.ok ())⟩] :=
    inFlight_append trace (by simp [Event.isFinishedReset])
  refine ⟨htracked.safe.concat hentry ?_, ?_, fun other fence' hfence' => ?_⟩
  · rw [hmore, List.map_append, List.map_singleton]
    refine List.nodup_append.mpr ⟨htracked.single, by simp, ?_⟩
    intro _ hmem _ hnew
    obtain ⟨earlier, hearlier, rfl⟩ := List.mem_map.mp hmem
    rw [List.mem_singleton.mp hnew]
    exact hentry.handed rfl earlier hearlier
  · rw [← htracked.handles]
    exact modify_map _ _ fun _ => rfl
  · rw [hmore]
    obtain ⟨before, hbefore, ⟨rfl, rfl⟩ | ⟨hne, rfl⟩⟩ := modify_cases hfence'
    · rw [Fence.hold_isHolding before semaphores hbuffers]
      exact iff_of_true rfl ⟨_, List.mem_append_right _ List.mem_cons_self, hslot⟩
    · rw [htracked.holding other _ hbefore]
      constructor
      · rintro ⟨earlier, hmem, hearlier⟩
        exact ⟨earlier, List.mem_append_left _ hmem, hearlier⟩
      · rintro ⟨earlier, hmem, hearlier⟩
        rcases List.mem_append.mp hmem with hmem | hmem
        · exact ⟨earlier, hmem, hearlier⟩
        · rw [List.mem_singleton.mp hmem] at hearlier
          exact absurd (Option.some.inj (hslot.symm.trans hearlier)) hne

/-- Every step of a whole frame keeps the invariant. -/
theorem step (htracked : Tracked handles fences trace) (hwhole : turn.operation.isWhole = true)
    (hstep : FenceStep turn fences events fences') :
    Tracked handles fences' (trace ++ events.map (Entry.mk turn)) := by
  cases hstep with
  | other hother =>
    obtain ⟨hwait, hreset, hhanded, haccepted⟩ := Event.of_fence?_eq_none hother
    refine htracked.quiet ⟨fun handle hhandle => ?_, fun hevent => ?_, fun hevent => ?_⟩
      haccepted hreset
    · cases hother.symm.trans hhandle
    · cases hhanded.symm.trans hevent
    · cases hwait.symm.trans hevent
  | waitFailed hslot hfence hholding =>
    exact htracked.wait hslot hfence hholding _ _
  | @resetFailed _ timeout _ _ hslot hfence hholding =>
    have hwaited := htracked.wait hslot hfence hholding timeout (.ok ())
    rw [List.map_cons, List.append_cons]
    exact hwaited.quiet (hwaited.reset_isSafe hslot hfence) rfl rfl
  | reclaimed hslot hfence hholding => exact htracked.reclaim hslot hfence hholding _
  | rejected hslot hfence hfree =>
    exact htracked.quiet (htracked.handed_isSafe hslot hfence (hfree hwhole)) rfl rfl
  | accepted hslot hfence hfree hcollected _ =>
    exact htracked.accept hslot hfence (hfree hwhole) hcollected _ _ _ _

/-- So does every chain of them. -/
theorem steps (htracked : Tracked handles fences trace) (hwhole : turn.operation.isWhole = true)
    (hsteps : FenceSteps turn fences events fences') :
    Tracked handles fences' (trace ++ events.map (Entry.mk turn)) :=
  hsteps.keeps (fun htracked hstep => htracked.step hwhole hstep) htracked

/-- The invariant holds of the fences of a new loop. -/
theorem of_new {loop : FrameLoop} {slots : Nat} (hnew : loop.IsNew slots) :
    Tracked (loop.fences.map (·.handle)) loop.fences [] where
  safe := .nil _
  handles := rfl
  holding slot fence hfence := by
    obtain ⟨hbuffers, hsemaphores⟩ := hnew.free fence (List.mem_of_getElem? hfence)
    simp [Fence.isHolding, hbuffers, hsemaphores, inFlight]

end Tracked

/-! ## Runs -/

/-- However the operations of a run are ordered, and whatever the surroundings answer to each call,
a loop reuses its fences safely when it runs whole frames: it hands over a batch only when the slot
has none in flight, it waits for a fence only when the slot does have one, and no more batches are
ever in flight than the settings say. -/
theorem submit_reuses_fences_safely (env : Surroundings σ) (first : Stage σ)
    (operations : List Operation) (hwhole : ∀ operation ∈ operations, operation.isWhole = true)
    (device : Device τ) (queue : Nat) (settings : FrameSettings) (world : World τ)
    (hmade : (FrameLoop.create device queue settings world).1 = .ok first.loop) :
    first.loop.fences.length = settings.numBuffers.toNat ∧
      ReusedSafely (first.loop.fences.map (·.handle)) (trace (first.history env operations)) := by
  have hnew := FrameLoop.create_new device hmade
  refine ⟨hnew.fences, ?_⟩
  have htracked : Tracked (first.loop.fences.map (·.handle))
      (first.run env operations).loop.fences (trace (first.history env operations)) := by
    refine Stage.run_induction (motive := fun turns stage =>
      Tracked (first.loop.fences.map (·.handle)) stage.loop.fences (trace turns))
      (Tracked.of_new hnew) ?_
    intro turns stage operation hmem htracked
    rw [trace_concat]
    exact htracked.steps (hwhole operation hmem) (turn_fenceSteps env stage operation)
  exact htracked.safe

/-- A bench with a graph that records a buffer, on which the first slot's fence cannot be reset. -/
def stuckBench : Bench where
  graphs := [(⟨0, "scene"⟩, { buffers := [⟨10, .primary⟩] })]
  faults := [(.reset 1, ⟨.deviceLost, 0⟩)]

/-- A frame on each slot, and one more that has to wait for the first. -/
def threeFrames : List Operation :=
  [.add (.graph { number := 0, name := "scene" }), .advance, .submit (.first 0), .advance,
    .submit (.first 1), .advance, .submit (.first 2)]

/-- The reset fails and the third frame is given up, so both batches stay in flight. -/
theorem three_frames_reuse_fences_safely :
    ReusedSafely [1, 2] (trace (Stage.history (Bench.surroundings .bench)
        ⟨Bench.newLoop, { state := stuckBench }, []⟩ threeFrames)) ∧
      (inFlight (trace (Stage.history (Bench.surroundings .bench)
        ⟨Bench.newLoop, { state := stuckBench }, []⟩ threeFrames))).map Entry.slot =
          [some 0, some 1] :=
  ⟨(submit_reuses_fences_safely (Bench.surroundings .bench)
    ⟨Bench.newLoop, { state := stuckBench }, []⟩ threeFrames (by decide) (Bench.device .bench) 7
    (.ofSlots 2) { state := {} } Bench.newLoop_made).2, by decide +kernel⟩

end FramesInFlight
