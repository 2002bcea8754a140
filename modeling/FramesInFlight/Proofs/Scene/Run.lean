import Mathlib.Data.List.Induction
import FramesInFlight.Scene.Change

/-!
# Runs of scene changes

An application applies scene changes one after the other.  Before each it does with its loops what it
likes, makes and drops some, and picks those that the change is for; what the loops share and the
views stay from one change to the next.  A run leaves a history with a `SceneTurn` for each change:
the change and what it found.

* `apply_loops`, `apply_shared` and `apply_events` say what one change does, whichever passes it
  takes.
* `SceneTurn.run_induction` is the one induction over runs.
-/

namespace FramesInFlight

variable {σ : Type}

namespace SceneChange

/-! ## What one change does -/

/-- A loop with data assigned and slot counts raised. -/
def prepare (change : SceneChange) (loop : FrameLoop) : FrameLoop :=
  change.raise (change.assign loop)

/-- What a change asks of the tasks and the graphs of loops: first all data, then all slots. -/
def prepareEvents (change : SceneChange) (loops : List FrameLoop) : List Event :=
  loops.flatMap change.assignEvents ++ (loops.map change.assign).flatMap change.raiseEvents

/-- What a change asks of pagers. -/
def pagerEvents (change : SceneChange) (fresh : Nat) (target : Target σ) : List Event :=
  if change.paged = true ∧ existingPager target.shared target.loops = none then
    [.pagerCreated fresh, .pagerStarted fresh]
  else
    []

theorem prepare_pager (change : SceneChange) (loop : FrameLoop) :
    (change.prepare loop).pager = loop.pager := by
  unfold prepare raise assign assignPhase
  cases change.data .early <;> cases change.data .late <;> rfl

theorem existingPager_prepare (change : SceneChange) (shared : Option Nat)
    (loops : List FrameLoop) :
    existingPager shared (loops.map change.prepare) = existingPager shared loops := by
  simp only [existingPager, List.findSome?_map, Function.comp_def, prepare_pager]

theorem applyPager_eq (fresh : Nat) (target : Target σ) :
    (applyPager fresh target).shared =
        some ((existingPager target.shared target.loops).getD fresh) ∧
      (applyPager fresh target).loops = target.loops.map
        (givePager ((existingPager target.shared target.loops).getD fresh)) ∧
      (applyPager fresh target).views = target.views ∧
      (applyPager fresh target).world.events = target.world.events ++
        if existingPager target.shared target.loops = none then
          [.pagerCreated fresh, .pagerStarted fresh]
        else
          [] := by
  rw [applyPager]
  cases existingPager target.shared target.loops with
  | some pager => simp
  | none => simp [World.emit, World.notice]

/-- Adding bins is about views, and asks nothing. -/
theorem applyBins_frame (bins : List (Nat × List Int)) (target : Target σ) :
    (bins.foldl applyBins target).loops = target.loops ∧
      (bins.foldl applyBins target).shared = target.shared ∧
      (bins.foldl applyBins target).world.events = target.world.events := by
  induction bins generalizing target with
  | nil => exact ⟨rfl, rfl, rfl⟩
  | cons entry rest ih =>
    obtain ⟨hloops, hshared, hevents⟩ := ih (applyBins target entry)
    rw [List.foldl_cons, hloops, hshared, hevents, applyBins]
    split <;> exact ⟨rfl, rfl, rfl⟩

theorem foldl_emit_events (events : List Event) (world : World σ) :
    (events.foldl World.emit world).events = world.events ++ events := by
  induction events generalizing world with
  | nil => exact (List.append_nil _).symm
  | cons event later ih =>
    rw [List.foldl_cons, ih, World.emit, List.append_assoc, List.singleton_append]

/-- The target once data is assigned and slot counts are raised. -/
def prepared (change : SceneChange) (target : Target σ) : Target σ :=
  { target with
    loops := target.loops.map change.prepare
    world := (change.prepareEvents target.loops).foldl World.emit target.world }

theorem apply_eq (change : SceneChange) (fresh : Nat) (target : Target σ) :
    change.apply fresh target = change.bins.foldl applyBins
      (if change.paged then applyPager fresh (change.prepared target)
        else change.prepared target) := by
  simp only [apply, prepared, prepareEvents, List.map_map]
  rfl

/-- What the loops share afterwards. -/
theorem apply_shared (change : SceneChange) (fresh : Nat) (target : Target σ) :
    (change.apply fresh target).shared =
      if change.paged then some ((existingPager target.shared target.loops).getD fresh)
      else target.shared := by
  rw [apply_eq, (applyBins_frame _ _).2.1]
  split
  · rw [(applyPager_eq fresh _).1]
    exact congrArg (fun pager => some (Option.getD pager fresh)) (change.existingPager_prepare _ _)
  · rfl

/-- The loops afterwards, in the same order. -/
theorem apply_loops (change : SceneChange) (fresh : Nat) (target : Target σ) :
    (change.apply fresh target).loops = target.loops.map fun loop =>
      if change.paged then
        givePager ((existingPager target.shared target.loops).getD fresh) (change.prepare loop)
      else
        change.prepare loop := by
  rw [apply_eq, (applyBins_frame _ _).1]
  split
  · rw [(applyPager_eq fresh _).2.1]
    simp only [prepared, existingPager_prepare, List.map_map, Function.comp_def]
  · rfl

/-- What is asked of others. -/
theorem apply_events (change : SceneChange) (fresh : Nat) (target : Target σ) :
    (change.apply fresh target).world.events =
      target.world.events ++
        (change.prepareEvents target.loops ++ change.pagerEvents fresh target) := by
  have hprepared : (change.prepared target).world.events =
      target.world.events ++ change.prepareEvents target.loops := foldl_emit_events _ _
  rw [apply_eq, (applyBins_frame _ _).2.2, pagerEvents]
  cases change.paged with
  | false => simpa using hprepared
  | true =>
    rw [if_pos rfl, (applyPager_eq fresh _).2.2.2, hprepared, List.append_assoc]
    simp only [prepared, existingPager_prepare, true_and]

end SceneChange

/-! ## Runs -/

/-- A call that applies a change. -/
structure SceneUpdate where
  change : SceneChange
  /-- The pager that is created if one is. -/
  fresh : Nat
  /-- The loops that the change is for, from those that the call before left.  They may be any. -/
  loops : List FrameLoop → List FrameLoop := id

/-- What a call finds, the loops being those that the change is for. -/
def SceneUpdate.finds (update : SceneUpdate) (target : SceneChange.Target σ) :
    SceneChange.Target σ :=
  { target with loops := update.loops target.loops }

/-- One call of a run and what it found. -/
structure SceneTurn (σ : Type) where
  update : SceneUpdate
  found : SceneChange.Target σ

namespace SceneTurn

/-- What the call leaves. -/
def left (turn : SceneTurn σ) : SceneChange.Target σ :=
  turn.update.change.apply turn.update.fresh turn.found

/-- What the call asks of others, in order. -/
def events (turn : SceneTurn σ) : List Event :=
  turn.left.world.events.drop turn.found.world.events.length

theorem events_eq (turn : SceneTurn σ) :
    turn.events = turn.update.change.prepareEvents turn.found.loops ++
      turn.update.change.pagerEvents turn.update.fresh turn.found := by
  rw [events, left, SceneChange.apply_events, List.drop_left]

theorem left_events (turn : SceneTurn σ) :
    turn.left.world.events = turn.found.world.events ++ turn.events := by
  rw [events_eq, left, SceneChange.apply_events]

/-- What some calls leave. -/
def run (target : SceneChange.Target σ) (updates : List SceneUpdate) : SceneChange.Target σ :=
  updates.foldl (fun target update => left ⟨update, update.finds target⟩) target

/-- The turns of some calls. -/
def history (target : SceneChange.Target σ) : List SceneUpdate → List (SceneTurn σ)
  | [] => []
  | update :: later =>
    ⟨update, update.finds target⟩ :: history (left ⟨update, update.finds target⟩) later

theorem run_append (target : SceneChange.Target σ) (earlier later : List SceneUpdate) :
    run target (earlier ++ later) = run (run target earlier) later :=
  List.foldl_append

theorem history_concat (target : SceneChange.Target σ) (updates : List SceneUpdate)
    (last : SceneUpdate) :
    history target (updates ++ [last]) =
      history target updates ++ [⟨last, last.finds (run target updates)⟩] := by
  induction updates generalizing target with
  | nil => rfl
  | cons update later ih =>
    rw [List.cons_append, history, ih, history]
    rfl

/-- What holds at first and is kept by each call holds after every run. -/
theorem run_induction {first : SceneChange.Target σ}
    {motive : List (SceneTurn σ) → SceneChange.Target σ → Prop} (nil : motive [] first)
    (step : ∀ turns target update, motive turns target →
      motive (turns ++ [⟨update, update.finds target⟩]) (left ⟨update, update.finds target⟩))
    (updates : List SceneUpdate) :
    motive (history first updates) (run first updates) := by
  induction updates using List.reverseRecOn with
  | nil => exact nil
  | append_singleton updates last ih =>
    rw [run_append, history_concat]
    exact step _ _ last ih

end SceneTurn

end FramesInFlight
