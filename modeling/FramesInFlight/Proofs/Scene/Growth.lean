import Mathlib.Data.List.Forall2
import FramesInFlight.Proofs.Frame.Likeness
import FramesInFlight.Proofs.Scene.Run

/-!
# What changes make of loops

Changes raise the slot counts of graphs and assign data to transfer tasks, early data to early tasks
and late data to late ones.  Apart from the pager, nothing else of a loop moves.

* `FrameLoop.grown` is a loop with the slots and the data of some changes.
* `FrameLoop.GrowsTo` says what some changes make of a loop, `growsTo_prepare` is about one change
  and `SceneTurn.run_grows` about a run.
* `Lane.assigning` and `FrameLoop.raising` are the calls that this takes, and `SceneTurn.run_calls`
  says which of them the next change of a run makes.
* `FrameLoop.ActsLike` says that two loops do the same.  `GrowsTo.actsLike` rests on
  `Stage.Like.history_events`, since frames do not read what grows.
* `changes_grow_loops` is the result.
-/

namespace FramesInFlight

variable {σ : Type}

/-! ## Slots and data -/

/-- A graph whose slot count was raised to each of `slots` that was higher. -/
def Graph.raised (graph : Graph) (slots : List Nat) : Graph :=
  { graph with maxSlot := slots.foldl max graph.maxSlot }

/-- A lane whose task, if there is one, got `data` after what it had. -/
def Lane.given (lane : Lane) (data : List DynamicData) : Lane :=
  { lane with task := lane.task.map fun task => { task with assigned := task.assigned ++ data } }

namespace FrameLoop

/-- A loop with the slots and the data of some changes. -/
def grown (loop : FrameLoop) (changes : List SceneChange) : FrameLoop :=
  { loop with
    graphs := loop.graphs.map (·.raised (changes.map (·.maxSlot)))
    early := loop.early.given (changes.filterMap (·.early))
    late := loop.late.given (changes.filterMap (·.late)) }

theorem grown_nil (loop : FrameLoop) : loop.grown [] = loop := by
  simp [grown, Graph.raised, Lane.given]

theorem grown_append (loop : FrameLoop) (earlier later : List SceneChange) :
    loop.grown (earlier ++ later) = (loop.grown earlier).grown later := by
  simp [grown, Graph.raised, Lane.given, Option.map_map, Function.comp_def]

/-- Growing changes nothing that a frame reads. -/
theorem grown_bare (loop : FrameLoop) (changes : List SceneChange) :
    (loop.grown changes).bare = loop.bare := by
  have hlane (lane : Lane) (data : List DynamicData) : (lane.given data).bare = lane.bare := by
    rcases lane with ⟨_ | _, _⟩ <;> rfl
  have hgraphs (slots : List Nat) : Graph.bare ∘ (·.raised slots) = Graph.bare := rfl
  simp only [bare, grown, hlane, List.map_map, hgraphs]

/-- What changes make of a loop: it grows, and may get a pager if it has none. -/
structure GrowsTo (before : FrameLoop) (changes : List SceneChange) (after : FrameLoop) : Prop where
  grown : after = { before.grown changes with pager := after.pager }
  pager : after.pager = before.pager ∨
    before.pager = none ∧ ∃ change ∈ changes, change.paged = true

/-- The loops act alike whatever is done with them, edits by hand apart: turn by turn they ask the
same of others, every batch included.  The surroundings may be any in which graphs record the same
with the one's pager as with the other's, so they may be those that the collaborators become once
they have more slots and data. -/
def ActsLike (loop loop' : FrameLoop) : Prop :=
  ∀ {τ : Type} (env : Surroundings τ) (world : World τ) (recorded : List CommandBuffer)
    (operations : List Operation), (∀ operation ∈ operations, operation.isEdit = false) →
    (∀ graph time, env.record graph time loop.pager = env.record graph time loop'.pager) →
    (Stage.history env ⟨loop, world, recorded⟩ operations).map (·.events.map Event.bare) =
      (Stage.history env ⟨loop', world, recorded⟩ operations).map (·.events.map Event.bare)

end FrameLoop

namespace SceneChange

theorem raiseGraph_eq (change : SceneChange) (graph : Graph) :
    change.raiseGraph graph = graph.raised [change.maxSlot] := by
  unfold raiseGraph Graph.raised
  split
  · rw [List.foldl_cons, List.foldl_nil, Nat.max_eq_right (by omega)]
  · rw [List.foldl_cons, List.foldl_nil, Nat.max_eq_left (by omega)]

theorem assign_eq (change : SceneChange) (loop : FrameLoop) :
    change.assign loop =
      { loop with
        early := loop.early.given change.early.toList
        late := loop.late.given change.late.toList } := by
  unfold assign assignPhase data
  cases change.early <;> cases change.late <;> simp [FrameLoop.mapTask, Lane.given]

theorem prepare_eq (change : SceneChange) (loop : FrameLoop) :
    change.prepare loop = loop.grown [change] := by
  have hdata {f : SceneChange → Option DynamicData} : (f change).toList = [change].filterMap f := by
    cases h : f change <;> simp [h]
  rw [prepare, assign_eq, raise, FrameLoop.grown, ← hdata, ← hdata, funext change.raiseGraph_eq]
  rfl

end SceneChange

namespace FrameLoop

theorem growsTo_nil (loop : FrameLoop) : loop.GrowsTo [] loop :=
  ⟨by rw [grown_nil], Or.inl rfl⟩

theorem GrowsTo.append {before between after : FrameLoop} {earlier later : List SceneChange}
    (hearlier : before.GrowsTo earlier between) (hlater : between.GrowsTo later after) :
    before.GrowsTo (earlier ++ later) after where
  grown := by
    refine hlater.grown.trans ?_
    rw [hearlier.grown, grown_append]
    rfl
  pager := by
    rcases hearlier.pager with hkept | ⟨hnone, change, hmem, hpaged⟩
    · rw [← hkept]
      refine hlater.pager.imp_right fun ⟨hnone, change, hmem, hpaged⟩ => ?_
      exact ⟨hnone, change, List.mem_append_right _ hmem, hpaged⟩
    · exact Or.inr ⟨hnone, change, List.mem_append_left _ hmem, hpaged⟩

/-- One change: the loop grows, and paged content gives it a pager. -/
theorem growsTo_prepare (change : SceneChange) (loop : FrameLoop) (pager : Nat) :
    loop.GrowsTo [change]
      (if change.paged then SceneChange.givePager pager (change.prepare loop)
        else change.prepare loop) := by
  rw [SceneChange.prepare_eq, SceneChange.givePager]
  split
  · rename_i hpaged
    split
    · rename_i hnone
      exact ⟨rfl, Or.inr ⟨Option.isNone_iff_eq_none.mp hnone, change,
        List.mem_singleton_self change, hpaged⟩⟩
    · exact ⟨rfl, Or.inl rfl⟩
  · exact ⟨rfl, Or.inl rfl⟩

/-- A loop that has grown acts as it would have acted before, with any pager. -/
theorem GrowsTo.actsLike {before after : FrameLoop} {changes : List SceneChange}
    (h : before.GrowsTo changes after) (pager : Option Nat) :
    ({ before with pager := pager }).ActsLike after := by
  intro τ env world recorded operations hedit hrecord
  refine Stage.Like.history_events ⟨?_, hrecord⟩ hedit
  rw [h.grown]
  exact congrArg (Stage.mk · _ _) (before.grown_bare changes).symm

end FrameLoop

/-! ## Calls -/

/-- The call by which the task of a lane is assigned data, if there are both. -/
def Lane.assigning (lane : Lane) (data : Option DynamicData) : List Event :=
  lane.task.toList.flatMap fun task => data.toList.map (.dataAssigned task.toCollaborator ·)

/-- The calls that raise slot counts: for the graphs that have fewer slots, and for no other. -/
def FrameLoop.raising (loop : FrameLoop) (slots : Nat) : List Event :=
  (loop.graphs.filter (·.maxSlot < slots)).map (.slotsRaised ·.toCollaborator slots)

/-- A task is told of data in the same way whatever it had before. -/
theorem Lane.given_assigning (lane : Lane) (had : List DynamicData) (data : Option DynamicData) :
    (lane.given had).assigning data = lane.assigning data := by
  rcases lane with ⟨_ | _, _⟩ <;> rfl

namespace SceneChange

theorem assignEvents_eq (change : SceneChange) (loop : FrameLoop) :
    change.assignEvents loop =
      loop.early.assigning change.early ++ loop.late.assigning change.late := by
  have hphase (phase : Phase) :
      change.assignPhaseEvents phase loop = (loop.lane phase).assigning (change.data phase) := by
    unfold assignPhaseEvents Lane.assigning
    cases change.data phase <;> cases (loop.lane phase).task <;> rfl
  exact congrArg₂ (· ++ ·) (hphase .early) (hphase .late)

/-- Slots are raised after data was assigned, which makes no difference to them. -/
theorem raiseEvents_assign (change : SceneChange) (loop : FrameLoop) :
    change.raiseEvents (change.assign loop) = loop.raising change.maxSlot := by
  rw [assign_eq]
  rfl

end SceneChange

/-! ## Runs -/

/-- Calls that apply changes to the same loops, each with the pager that it would create. -/
def SceneUpdate.ofChanges (changes : List (SceneChange × Nat)) : List SceneUpdate :=
  changes.map fun (change, fresh) => { change, fresh }

namespace SceneTurn

/-- What is left when one more change is applied. -/
theorem run_ofChanges_concat (target : SceneChange.Target σ) (changes : List (SceneChange × Nat))
    (change : SceneChange) (fresh : Nat) :
    run target (SceneUpdate.ofChanges (changes ++ [(change, fresh)])) =
      change.apply fresh (run target (SceneUpdate.ofChanges changes)) := by
  rw [SceneUpdate.ofChanges, List.map_append, run_append]
  rfl

/-- Each change makes the loops grow a little more. -/
theorem run_grows (target : SceneChange.Target σ) (changes : List (SceneChange × Nat)) :
    List.Forall₂ (fun before after => before.GrowsTo (changes.map (·.1)) after) target.loops
      (run target (SceneUpdate.ofChanges changes)).loops := by
  induction changes using List.reverseRecOn with
  | nil => exact List.forall₂_same.mpr fun (loop : FrameLoop) _ => loop.growsTo_nil
  | append_singleton changes last ih =>
    rw [run_ofChanges_concat, SceneChange.apply_loops, List.forall₂_map_right_iff, List.map_append]
    exact ih.imp fun before between hgrows =>
      hgrows.append (FrameLoop.growsTo_prepare last.1 between _)

/-- What is asked of the loops that a run leaves, when it can be told from the loops at first. -/
theorem run_flatMap (target : SceneChange.Target σ) (changes : List (SceneChange × Nat))
    {asked calls : FrameLoop → List Event}
    (hloop : ∀ before after, before.GrowsTo (changes.map (·.1)) after →
      calls before = asked after) :
    (run target (SceneUpdate.ofChanges changes)).loops.flatMap asked =
      target.loops.flatMap calls := by
  have hmap : target.loops.map calls =
      (run target (SceneUpdate.ofChanges changes)).loops.map asked := by
    rw [← List.forall₂_eq_eq_eq, List.forall₂_map_left_iff, List.forall₂_map_right_iff]
    exact (run_grows target changes).imp hloop
  rw [List.flatMap_def, List.flatMap_def, hmap]

/-- The calls that the next change makes, told from the loops at first. -/
theorem run_calls (target : SceneChange.Target σ) (changes : List (SceneChange × Nat))
    (change : SceneChange) :
    change.prepareEvents (run target (SceneUpdate.ofChanges changes)).loops =
      target.loops.flatMap (fun loop =>
        loop.early.assigning change.early ++ loop.late.assigning change.late) ++
      target.loops.flatMap fun loop =>
        (loop.grown (changes.map (·.1))).raising change.maxSlot := by
  rw [SceneChange.prepareEvents, List.flatMap_map]
  refine congrArg₂ (· ++ ·) (run_flatMap target changes fun before after hgrows => ?_)
    (run_flatMap target changes fun before after hgrows => ?_)
  · rw [SceneChange.assignEvents_eq, hgrows.grown]
    exact congrArg₂ (· ++ ·) (before.early.given_assigning _ _).symm
      (before.late.given_assigning _ _).symm
  · rw [SceneChange.raiseEvents_assign, hgrows.grown]
    rfl

end SceneTurn

/-- Apply any changes one after the other to any loops.  Each loop has the most slots that it or a
change had, and its early and late tasks the early and the late data, in the order of the changes.
It acts as it would have acted before, if it had had the pager that it has now or one that its
graphs do not tell from it.  The next change assigns its data to the tasks of each phase, and raises
the slots of those graphs that have fewer. -/
theorem changes_grow_loops (target : SceneChange.Target σ) (changes : List (SceneChange × Nat)) :
    List.Forall₂
      (fun before after => before.GrowsTo (changes.map (·.1)) after ∧
        ∀ pager, ({ before with pager := pager }).ActsLike after)
      target.loops (SceneTurn.run target (SceneUpdate.ofChanges changes)).loops ∧
    ∀ change fresh,
      (SceneTurn.run target (SceneUpdate.ofChanges (changes ++ [(change, fresh)]))).world.events =
        (SceneTurn.run target (SceneUpdate.ofChanges changes)).world.events ++
        target.loops.flatMap (fun loop =>
          loop.early.assigning change.early ++ loop.late.assigning change.late) ++
        target.loops.flatMap (fun loop =>
          (loop.grown (changes.map (·.1))).raising change.maxSlot) ++
        change.pagerEvents fresh (SceneTurn.run target (SceneUpdate.ofChanges changes)) := by
  refine ⟨?_, fun change fresh => ?_⟩
  · exact (SceneTurn.run_grows target changes).imp fun before after hgrows =>
      ⟨hgrows, fun pager => hgrows.actsLike pager⟩
  · rw [SceneTurn.run_ofChanges_concat, SceneChange.apply_events, SceneTurn.run_calls]
    simp only [List.append_assoc]

/-- A bench with a copy and a graph. -/
def drawingBench : Bench where
  transfers := [(⟨0, "copy"⟩, { produces := some ⟨100, .transfer, .bench⟩ })]
  graphs := [(⟨0, "draw"⟩, { buffers := [⟨10, .primary⟩] })]

/-- A loop with an early task and with a graph that has three slots. -/
def drawingLoop : FrameLoop :=
  { Bench.newLoop with
    early := { Bench.newLoop.early with task := some { number := 0, name := "copy" } }
    graphs := [{ number := 0, name := "draw", maxSlot := 3 }] }

/-- A change with more slots and data for both phases, and a paged one with fewer slots. -/
def twoChanges : List (SceneChange × Nat) :=
  [({ maxSlot := 5, early := some ⟨[⟨1, 0, 64⟩]⟩, late := some ⟨[⟨2, 0, 64⟩]⟩ }, 1),
    ({ maxSlot := 4, paged := true }, 2)]

/-- The loop has no late task, so the late data goes nowhere, and a frame is submitted as before. -/
theorem two_changes_grow_loop :
    ∃ after,
      (SceneTurn.run ⟨[drawingLoop], none, [], { state := drawingBench }⟩
        (SceneUpdate.ofChanges twoChanges)).loops = [after] ∧
      after = { drawingLoop with
        early := drawingLoop.early.given [⟨[⟨1, 0, 64⟩]⟩]
        graphs := [{ number := 0, name := "draw", maxSlot := 5 }]
        pager := some 2 } ∧
      (∀ operation ∈ [.advance, .submit (.first 0)], Operation.isEdit operation = false) ∧
      (Stage.history (Bench.surroundings .bench) ⟨drawingLoop, { state := drawingBench }, []⟩
        [.advance, .submit (.first 0)]).map (·.events.map Event.bare) =
      (Stage.history (Bench.surroundings .bench) ⟨after, { state := drawingBench }, []⟩
        [.advance, .submit (.first 0)]).map (·.events.map Event.bare) := by
  have hedit : ∀ operation ∈ [.advance, .submit (.first 0)],
      Operation.isEdit operation = false := by simp [Operation.isEdit]
  have hgrows := (changes_grow_loops ⟨[drawingLoop], none, [], { state := drawingBench }⟩
    twoChanges).1
  refine ⟨_, rfl, rfl, hedit, ?_⟩
  exact (List.forall₂_cons.mp hgrows).1.2 none (Bench.surroundings .bench)
    { state := drawingBench } [] [.advance, .submit (.first 0)] hedit fun _ _ => rfl

end FramesInFlight
