import Mathlib.Data.List.DropRight
import FramesInFlight.Proofs.Light.Run

/-!
# Uploads of light data

One flag tells an uploader that the light data or the viewport data changed.  Packs and calls that
store viewports raise it, and the uploader lowers it when it takes the data.  An uploader that copies
both arrays in full whenever the flag is up misses no change.

* `sinceTaken` are the turns since the data was last taken.
* `Copies.follow` is what an uploader has copied by the end of a history.
* `LightOperation.perform_dirty` says what each operation does to the flag.
* `Followed.perform` is one step of the invariant: a flag that is down means copies that agree.
* `uploads_follow_data` is the result for every poll of every run.
-/

namespace FramesInFlight

variable {σ : Type}

/-! ## The flag -/

/-- The data is taken. -/
def LightOperation.takes : LightOperation → Bool
  | takeDirty => true
  | _ => false

/-- What a turn that takes the data answers: the flag that it found. -/
def LightTurn.taken? (turn : LightTurn) : Option Bool :=
  if turn.operation.takes then some turn.lights.dirty else none

/-- The turns since the data was last taken, or since the state was made. -/
def sinceTaken (turns : List LightTurn) : List LightTurn :=
  turns.rtakeWhile (!·.operation.takes)

theorem sinceTaken_of_takes {turns : List LightTurn} {turn : LightTurn}
    (htakes : turn.operation.takes = true) : sinceTaken (turns ++ [turn]) = [] :=
  List.rtakeWhile_concat_neg _ _ _ (by simp [htakes])

theorem sinceTaken_of_other {turns : List LightTurn} {turn : LightTurn}
    (htakes : turn.operation.takes = false) :
    sinceTaken (turns ++ [turn]) = sinceTaken turns ++ [turn] :=
  List.rtakeWhile_concat_pos _ _ _ (by simp [htakes])

theorem ViewLights.compile_dirty (v : ViewLights) (device : Device σ)
    (pool lightBuffer viewportBuffer : Nat) (world : World σ) :
    (v.compile device pool lightBuffer viewportBuffer world).2.1.dirty = v.dirty := by
  rw [compile]
  split
  · rfl
  split
  · rfl
  split <;> rfl

/-- Taking the data lowers the flag, what may change the data raises it, and nothing else touches
it. -/
theorem LightOperation.perform_dirty (env : LightSurroundings σ) (stage : LightStage σ)
    (operation : LightOperation) :
    (operation.perform env stage).lights.dirty =
      (!operation.takes && (stage.lights.dirty || !operation.keepsData)) := by
  have hsame : stage.lights.dirty = (!false && (stage.lights.dirty || !true)) := by simp
  cases operation with
  | takeDirty => rfl
  | pack | setViewports _ =>
    rw [keepsData, Bool.not_false, Bool.or_true]
    rfl
  | add light _ => cases light <;> exact hsame
  | compile pool lightBuffer viewportBuffer =>
    exact (stage.lights.compile_dirty env.toDevice pool lightBuffer viewportBuffer
      stage.world).trans hsame
  | bind command encoder =>
    rw [perform]
    split <;> exact hsame
  | addAmbient | addDirectional | addPoint | addSpot | clear | log => exact hsame

/-! ## The copies -/

/-- Copies of the light data and of the viewport data. -/
structure Copies where
  light : List Record
  viewport : List Record
  deriving DecidableEq, Repr

namespace Copies

/-- The current data of a light state. -/
def of (v : ViewLights) : Copies := ⟨v.lightData, v.viewportData⟩

/-- Copies of zeros, of the size that a state of these capacities has. -/
def zero (records viewports : Nat) : Copies :=
  ⟨List.replicate (max records 1) .zero, List.replicate (max viewports 1) .zero⟩

/-- A turn of the uploader takes the data, and copies both arrays if the answer is that they
changed. -/
def after (copies : Copies) (turn : LightTurn) : Copies :=
  if turn.taken? = some true then .of turn.lights else copies

/-- The copies by the end of a history. -/
def follow (copies : Copies) (turns : List LightTurn) : Copies := turns.foldl after copies

theorem follow_concat (copies : Copies) (turns : List LightTurn) (turn : LightTurn) :
    copies.follow (turns ++ [turn]) = (copies.follow turns).after turn := by
  rw [follow, List.foldl_append]
  rfl

theorem of_congr {v w : ViewLights} (hsame : v.SameData w) : of v = of w := by
  rw [of, of, hsame.lightData, hsame.viewportData]

end Copies

/-- After some turns the flag of a light state says whether the data may have changed since it was
taken, and while it is down the copies agree with the data. -/
structure Followed (turns : List LightTurn) (copies : Copies) (v : ViewLights) : Prop where
  flag : v.dirty = (sinceTaken turns).any (!·.operation.keepsData)
  agrees : v.dirty = false → copies = .of v

/-- One operation keeps both.  While the data is left alone, so are the flag and the copies. -/
theorem Followed.perform {turns : List LightTurn} {copies : Copies} {stage : LightStage σ}
    (h : Followed turns copies stage.lights) (env : LightSurroundings σ)
    (operation : LightOperation) :
    Followed (turns ++ [⟨operation, stage.lights⟩]) (copies.after ⟨operation, stage.lights⟩)
      (operation.perform env stage).lights := by
  have hdirty := operation.perform_dirty env stage
  cases htakes : operation.takes with
  | true =>
    have hkeeps : operation.keepsData = true := by
      cases operation <;> first | rfl | cases htakes
    rw [htakes, Bool.not_true, Bool.false_and] at hdirty
    refine ⟨by rw [sinceTaken_of_takes htakes, hdirty]; rfl, fun _ => ?_⟩
    rw [Copies.of_congr (LightOperation.perform_sameData env stage hkeeps), Copies.after]
    split
    · rfl
    · rename_i hunchanged
      exact h.agrees (by simpa [LightTurn.taken?, htakes] using hunchanged)
  | false =>
    have hcopies : copies.after ⟨operation, stage.lights⟩ = copies := by
      simp [Copies.after, LightTurn.taken?, htakes]
    rw [htakes, Bool.not_false, Bool.true_and] at hdirty
    rw [hcopies]
    refine ⟨?_, fun hclean => ?_⟩
    · rw [sinceTaken_of_other htakes, List.any_append, ← h.flag, hdirty]
      simp
    · rw [hdirty, Bool.or_eq_false_iff, Bool.not_eq_false'] at hclean
      rw [Copies.of_congr (LightOperation.perform_sameData env stage hclean.2)]
      exact h.agrees hclean.1

/-! ## Runs -/

theorem LightStage.run_followed (env : LightSurroundings σ) (records viewports : Nat)
    (world : World σ) (operations : List LightOperation) :
    Followed (LightStage.history env ⟨.ofCapacities records viewports, world⟩ operations)
      ((Copies.zero records viewports).follow
        (LightStage.history env ⟨.ofCapacities records viewports, world⟩ operations))
      (LightStage.run env ⟨.ofCapacities records viewports, world⟩ operations).lights := by
  refine LightStage.run_induction (motive := fun turns stage =>
    Followed turns ((Copies.zero records viewports).follow turns) stage.lights) ?_ ?_ operations
  · exact ⟨rfl, fun _ => rfl⟩
  · intro turns stage operation h
    rw [Copies.follow_concat]
    exact h.perform env operation

theorem LightOperation.keepsData_eq_false {operation : LightOperation} :
    operation.keepsData = false ↔
      operation = .pack ∨ ∃ viewports, operation = .setViewports viewports := by
  cases operation <;> simp [keepsData]

/-- Take a light state made with any capacities, and take its data after any operations, some of
which may have taken it before.  The answer is that the data changed just when it was packed or
viewports were stored since the data was last taken.  An uploader that starts from zeros, and copies
both arrays in full whenever that is the answer, then has the data as it is. -/
theorem uploads_follow_data (env : LightSurroundings σ) (records viewports : Nat) (world : World σ)
    (operations : List LightOperation) :
    (LightTurn.taken? ⟨.takeDirty, (LightStage.run env ⟨.ofCapacities records viewports, world⟩
        operations).lights⟩ = some true ↔
      ∃ turn ∈ sinceTaken (LightStage.history env ⟨.ofCapacities records viewports, world⟩
          operations),
        turn.operation = .pack ∨ ∃ viewports, turn.operation = .setViewports viewports) ∧
    (Copies.zero records viewports).follow (LightStage.history env
        ⟨.ofCapacities records viewports, world⟩ (operations ++ [.takeDirty])) =
      .of (LightStage.run env ⟨.ofCapacities records viewports, world⟩
        (operations ++ [.takeDirty])).lights := by
  constructor
  · have hflag := (LightStage.run_followed env records viewports world operations).flag
    generalize LightStage.run env _ operations = stage at hflag ⊢
    change some stage.lights.dirty = some true ↔ _
    rw [Option.some.injEq, hflag, List.any_eq_true]
    simp only [Bool.not_eq_true', LightOperation.keepsData_eq_false]
  · have hfollowed :=
      LightStage.run_followed env records viewports world (operations ++ [.takeDirty])
    refine hfollowed.agrees ?_
    rw [LightStage.run_concat]
    rfl

end FramesInFlight
