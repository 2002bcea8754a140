import FramesInFlight.Proofs.Light.Packing
import FramesInFlight.Proofs.Light.Run

/-!
# What the data of a light state has

A pack and a call that stores viewports overwrite the first slots of their array and leave the
others alone, so what a slot has may come from long ago.

* `LightTurn.packed` and `LightTurn.stored` are the records that a turn writes, from slot 0 on.
* `ViewLights.FollowsHistory` says that each slot has the record of the last turn that wrote so
  many, and that the numbers reported are those of the last pack.
* `LightTurn.leaves_perform` is about one turn, and `FollowsHistory.concat` adds a turn to a
  history.
* `data_follows_history` is the result for every run from a new state.
-/

namespace FramesInFlight

variable {σ : Type}

namespace LightTurn

/-- The light records that a turn writes: those of the lights that fit, if it packs. -/
def packed (turn : LightTurn) : List Record :=
  match turn.operation with
  | .pack => turn.lights.recordsOf turn.lights.fitting.counts
  | _ => []

/-- The viewport records that a turn writes, if there is room for them all. -/
def stored (turn : LightTurn) : List Record :=
  match turn.operation with
  | .setViewports viewports => viewports.map fun p => ⟨p.x, p.y, p.width, p.height⟩
  | _ => []

/-- The numbers of records and lights that a turn packs, if it does. -/
def reported? (turn : LightTurn) : Option (Nat × PerKind Nat) :=
  match turn.operation with
  | .pack => some (turn.packed.length, turn.lights.fitting.counts)
  | _ => none

end LightTurn

/-- The value of the last turn that has one. -/
def latest? {α : Type} (turns : List LightTurn) (value? : LightTurn → Option α) : Option α :=
  turns.reverse.findSome? value?

theorem latest?_concat {α : Type} (turns : List LightTurn) (turn : LightTurn)
    (value? : LightTurn → Option α) :
    latest? (turns ++ [turn]) value? = (value? turn).or (latest? turns value?) := by
  rw [latest?, List.reverse_concat, List.findSome?_cons]
  cases value? turn <;> rfl

/-- A light state after some turns that started from a new state with room for these numbers of
records and viewports. -/
structure ViewLights.FollowsHistory (v : ViewLights) (records viewports : Nat)
    (turns : List LightTurn) : Prop where
  lightLength : v.lightData.length = max records 1
  viewportLength : v.viewportData.length = max viewports 1
  light : ∀ slot < max records 1,
    v.lightData[slot]? = some ((latest? turns (·.packed[slot]?)).getD .zero)
  viewport : ∀ slot < max viewports 1,
    v.viewportData[slot]? = some ((latest? turns (·.stored[slot]?)).getD .zero)
  reported : (v.packedRecords, v.packedCounts) =
    (latest? turns LightTurn.reported?).getD (0, .replicate 0)
  total : (∃ turn ∈ turns, turn.operation = .pack) →
    v.packedRecords = 1 + v.packedCounts.recordTotal

/-! ## What one turn leaves -/

namespace LightTurn

/-- What the operation of a turn leaves of the lights that it found: the records it writes, and of
everything else what there was. -/
structure Leaves (turn : LightTurn) (v : ViewLights) : Prop where
  lightLength : 0 < turn.lights.lightData.length →
    v.lightData.length = turn.lights.lightData.length
  viewportLength : v.viewportData.length = turn.lights.viewportData.length
  light : ∀ slot : Nat, v.lightData[slot]? = turn.packed[slot]?.or turn.lights.lightData[slot]?
  viewport : ∀ slot < turn.lights.viewportData.length,
    v.viewportData[slot]? = turn.stored[slot]?.or turn.lights.viewportData[slot]?
  reported : (v.packedRecords, v.packedCounts) =
    turn.reported?.getD (turn.lights.packedRecords, turn.lights.packedCounts)

theorem Leaves.pack (v : ViewLights) : Leaves ⟨.pack, v⟩ v.pack where
  lightLength := v.pack_length
  viewportLength := rfl
  light := v.pack_getElem?
  viewport _ _ := (Option.none_or).symm
  reported := rfl

theorem Leaves.setViewports (v : ViewLights) (viewports : List Viewport) :
    Leaves ⟨.setViewports viewports, v⟩ (v.setViewports viewports) where
  lightLength _ := rfl
  viewportLength := by
    simp only [ViewLights.setViewports, List.length_append, List.length_drop, List.length_map,
      List.length_take]
    omega
  light _ := (Option.none_or).symm
  viewport slot hslot := by
    refine (getElem?_overwrite _ _ slot).trans ?_
    rw [List.map_take, List.getElem?_take_of_lt hslot]
    rfl
  reported := rfl

theorem Leaves.of_sameData {turn : LightTurn} {v : ViewLights} (hpacked : turn.packed = [])
    (hstored : turn.stored = []) (hreported : turn.reported? = none)
    (hsame : v.SameData turn.lights) : turn.Leaves v where
  lightLength _ := by rw [hsame.lightData]
  viewportLength := by rw [hsame.viewportData]
  light slot := by rw [hpacked, List.getElem?_nil, Option.none_or, hsame.lightData]
  viewport slot _ := by rw [hstored, List.getElem?_nil, Option.none_or, hsame.viewportData]
  reported := by rw [hreported, Option.getD_none, hsame.packedRecords, hsame.packedCounts]

/-- Every operation leaves what its turn says, from any stage. -/
theorem leaves_perform (env : LightSurroundings σ) (stage : LightStage σ)
    (operation : LightOperation) :
    Leaves ⟨operation, stage.lights⟩ (operation.perform env stage).lights := by
  cases operation with
  | pack => exact .pack stage.lights
  | setViewports viewports => exact .setViewports stage.lights viewports
  | _ => exact .of_sameData rfl rfl rfl (LightOperation.perform_sameData env stage rfl)

/-- What is reported of a pack agrees with itself: the records are those of the lights and one that
has their numbers. -/
theorem reported?_total {turn : LightTurn} {records : Nat} {counts : PerKind Nat}
    (hreported : turn.reported? = some (records, counts)) :
    records = 1 + counts.recordTotal := by
  unfold reported? packed at hreported
  split at hreported
  · simp only [Option.some.injEq, Prod.mk.injEq] at hreported
    obtain ⟨rfl, rfl⟩ := hreported
    exact ViewLights.recordsOf_length turn.lights.fitting_le.1
  · cases hreported

theorem reported?_of_pack {turn : LightTurn} (hpack : turn.operation = .pack) :
    turn.reported? ≠ none := by
  simp [reported?, hpack]

end LightTurn

/-! ## Runs -/

namespace ViewLights.FollowsHistory

variable {v w : ViewLights} {records viewports : Nat} {turns : List LightTurn} {turn : LightTurn}

theorem ofCapacities (records viewports : Nat) :
    (ViewLights.ofCapacities records viewports).FollowsHistory records viewports [] where
  lightLength := List.length_replicate
  viewportLength := List.length_replicate
  light _ hslot := List.getElem?_replicate_of_lt hslot
  viewport _ hslot := List.getElem?_replicate_of_lt hslot
  reported := rfl
  total := by simp

/-- A slot that a turn writes has what the turn wrote, and every other slot what it had. -/
theorem slot_concat {data data' : List Record} {value? : LightTurn → Option Record} {slot : Nat}
    (hdata : data[slot]? = some ((latest? turns value?).getD .zero))
    (hturn : data'[slot]? = (value? turn).or data[slot]?) :
    data'[slot]? = some ((latest? (turns ++ [turn]) value?).getD .zero) := by
  rw [hturn, hdata, latest?_concat]
  cases value? turn <;> rfl

theorem concat (h : turn.lights.FollowsHistory records viewports turns) (hleaves : turn.Leaves v) :
    v.FollowsHistory records viewports (turns ++ [turn]) where
  lightLength := by
    have hroom : 0 < turn.lights.lightData.length := by
      rw [h.lightLength]
      omega
    rw [hleaves.lightLength hroom, h.lightLength]
  viewportLength := by rw [hleaves.viewportLength, h.viewportLength]
  light slot hslot := slot_concat (h.light slot hslot) (hleaves.light slot)
  viewport slot hslot :=
    slot_concat (h.viewport slot hslot) (hleaves.viewport slot (by rwa [h.viewportLength]))
  reported := by
    rw [hleaves.reported, h.reported, latest?_concat]
    cases turn.reported? <;> rfl
  total := by
    rintro ⟨packing, hmem, hpack⟩
    have hreported := hleaves.reported
    cases hturn : turn.reported? with
    | some report =>
      rw [hturn, Option.getD_some] at hreported
      rw [← hreported] at hturn
      exact LightTurn.reported?_total hturn
    | none =>
      rw [hturn, Option.getD_none, Prod.mk.injEq] at hreported
      rw [hreported.1, hreported.2]
      rcases List.mem_append.mp hmem with hmem | hmem
      · exact h.total ⟨packing, hmem, hpack⟩
      · cases List.mem_singleton.mp hmem
        cases LightTurn.reported?_of_pack hpack hturn

end ViewLights.FollowsHistory

/-- Take a light state made with any capacities and any operations on it, in surroundings that
answer as they like.  A slot of the light data has the record of the last pack that wrote so many
records, and a slot of the viewport data the corner and the size of its viewport in the last list
that had so many; slots that none wrote are zero.  The numbers reported are those of the last
pack. -/
theorem data_follows_history (env : LightSurroundings σ) (records viewports : Nat) (world : World σ)
    (operations : List LightOperation) :
    (LightStage.run env ⟨.ofCapacities records viewports, world⟩ operations).lights.FollowsHistory
      records viewports
      (LightStage.history env ⟨.ofCapacities records viewports, world⟩ operations) := by
  refine LightStage.run_induction (motive := fun turns stage =>
    stage.lights.FollowsHistory records viewports turns) ?_ ?_ operations
  · exact .ofCapacities records viewports
  · intro turns stage operation h
    exact h.concat (LightTurn.leaves_perform env stage operation)

end FramesInFlight
