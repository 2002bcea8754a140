import Mathlib.Data.List.Forall2
import FramesInFlight.Proofs.Scene.Run

/-!
# The shared pager

Loops that record paged content need a pager, and one serves them all.  A change with paged content
takes the one that is shared already, else the first that one of its loops brings along, else it
creates and starts one, and gives it to the loops that have none.

* `prepareEvents_quiet` says that pagers hear nothing of data and slots.
* `SceneTurn.SharesPager` is what one call does about pagers, and `sharesPager` proves it of every
  call.
* `SceneTurn.OnePager` is the invariant of runs: a pager is created once, and from then on shared.
* `one_pager_is_shared` is the result for every run.
-/

namespace FramesInFlight

variable {σ : Type}

/-- A pager is created or started. -/
def Event.isPager : Event → Bool
  | pagerCreated _ | pagerStarted _ => true
  | _ => false

namespace SceneChange

theorem prepareEvents_quiet (change : SceneChange) (loops : List FrameLoop) :
    (change.prepareEvents loops).filter Event.isPager = [] := by
  have hassign (phase : Phase) (loop : FrameLoop) :
      ∀ event ∈ change.assignPhaseEvents phase loop, event.isPager = false := by
    intro event hevent
    unfold assignPhaseEvents at hevent
    split at hevent
    · rw [List.mem_singleton.mp hevent]
      rfl
    · cases hevent
  rw [List.filter_eq_nil_iff]
  intro event hevent
  rw [Bool.not_eq_true]
  rcases List.mem_append.mp hevent with hevent | hevent
  · obtain ⟨loop, -, hevent⟩ := List.mem_flatMap.mp hevent
    rcases List.mem_append.mp hevent with hevent | hevent
    · exact hassign .early loop event hevent
    · exact hassign .late loop event hevent
  · obtain ⟨loop, -, hevent⟩ := List.mem_flatMap.mp hevent
    obtain ⟨graph, -, rfl⟩ := List.mem_map.mp hevent
    rfl

theorem pagerEvents_filter (change : SceneChange) (fresh : Nat) (target : Target σ) :
    (change.pagerEvents fresh target).filter Event.isPager = change.pagerEvents fresh target := by
  unfold pagerEvents
  split <;> rfl

theorem existingPager_eq_none {shared : Option Nat} {loops : List FrameLoop} :
    existingPager shared loops = none ↔ shared = none ∧ ∀ loop ∈ loops, loop.pager = none := by
  rw [existingPager, Option.or_eq_none_iff, List.findSome?_eq_none_iff]

/-- A loop keeps the pager it has, and gets the one given if it has none. -/
theorem givePager_pager (pager : Nat) (loop : FrameLoop) :
    (givePager pager loop).pager = some (loop.pager.getD pager) := by
  unfold givePager
  cases hpager : loop.pager with
  | none => rfl
  | some old => simpa using hpager

end SceneChange

namespace SceneTurn

/-! ## One call -/

/-- What a call does about pagers. -/
structure SharesPager (turn : SceneTurn σ) : Prop where
  /-- A pager is created, and started then, for paged content and when there is none yet.  Nothing
  else is asked of pagers. -/
  asked : turn.events.filter Event.isPager =
    if turn.update.change.paged = true ∧ turn.found.shared = none ∧
        ∀ loop ∈ turn.found.loops, loop.pager = none then
      [.pagerCreated turn.update.fresh, .pagerStarted turn.update.fresh]
    else
      []
  /-- Paged content leaves a pager that is shared, and each loop with the pager it had, or with the
  shared one if it had none. -/
  paged : turn.update.change.paged = true → ∃ pager, turn.left.shared = some pager ∧
    List.Forall₂ (fun before after => after.pager = some (before.pager.getD pager))
      turn.found.loops turn.left.loops
  /-- The pager shared stays. -/
  keeps : ∀ pager, turn.found.shared = some pager → turn.left.shared = some pager
  /-- When none was shared, it is the first that a loop has from then on. -/
  adopts : turn.update.change.paged = true → turn.found.shared = none →
    ∀ pager, turn.found.loops.findSome? (·.pager) = some pager → turn.left.shared = some pager
  /-- When no loop has one either, it is the one created. -/
  creates : turn.update.change.paged = true → turn.found.shared = none →
    (∀ loop ∈ turn.found.loops, loop.pager = none) → turn.left.shared = some turn.update.fresh
  /-- Other content changes no pager. -/
  unpaged : turn.update.change.paged = false → turn.left.shared = turn.found.shared ∧
    List.Forall₂ (fun before after => after.pager = before.pager) turn.found.loops turn.left.loops

theorem left_shared_of_paged {turn : SceneTurn σ} (hpaged : turn.update.change.paged = true) :
    turn.left.shared = some
      ((SceneChange.existingPager turn.found.shared turn.found.loops).getD turn.update.fresh) := by
  rw [left, SceneChange.apply_shared, if_pos hpaged]

theorem left_shared_of_unpaged {turn : SceneTurn σ} (hunpaged : turn.update.change.paged = false) :
    turn.left.shared = turn.found.shared := by
  rw [left, SceneChange.apply_shared, if_neg (by simp [hunpaged])]

theorem sharesPager (turn : SceneTurn σ) : turn.SharesPager where
  asked := by
    rw [events_eq, List.filter_append, SceneChange.prepareEvents_quiet,
      SceneChange.pagerEvents_filter, List.nil_append, SceneChange.pagerEvents]
    simp only [SceneChange.existingPager_eq_none]
  paged hpaged := by
    refine ⟨_, left_shared_of_paged hpaged, ?_⟩
    rw [left, SceneChange.apply_loops, List.forall₂_map_right_iff, List.forall₂_same]
    intro loop _
    rw [if_pos hpaged, SceneChange.givePager_pager, SceneChange.prepare_pager]
  keeps pager hshared := by
    cases hpaged : turn.update.change.paged with
    | false => rw [left_shared_of_unpaged hpaged, hshared]
    | true => rw [left_shared_of_paged hpaged, hshared, SceneChange.existingPager]; rfl
  adopts hpaged hnone pager hfirst := by
    rw [left_shared_of_paged hpaged, hnone, SceneChange.existingPager, hfirst]
    rfl
  creates hpaged hnone hbare := by
    rw [left_shared_of_paged hpaged, SceneChange.existingPager_eq_none.mpr ⟨hnone, hbare⟩]
    rfl
  unpaged hunpaged := by
    refine ⟨left_shared_of_unpaged hunpaged, ?_⟩
    rw [left, SceneChange.apply_loops, List.forall₂_map_right_iff, List.forall₂_same]
    intro loop _
    rw [if_neg (by simp [hunpaged]), SceneChange.prepare_pager]

/-! ## Runs -/

/-- What was asked since `first`, and who shares what, after some turns. -/
structure OnePager (first : SceneChange.Target σ) (turns : List (SceneTurn σ))
    (target : SceneChange.Target σ) : Prop where
  shares : ∀ turn ∈ turns, turn.SharesPager
  events : target.world.events = first.world.events ++ turns.flatMap SceneTurn.events
  keeps : ∀ pager, first.shared = some pager → target.shared = some pager
  /-- No pager was created, or one was and something is shared: the next call will create none. -/
  once : (turns.flatMap SceneTurn.events).filter Event.isPager = [] ∨
    target.shared ≠ none ∧ ∃ turn ∈ turns,
      (turns.flatMap SceneTurn.events).filter Event.isPager =
        [.pagerCreated turn.update.fresh, .pagerStarted turn.update.fresh]

theorem OnePager.concat {first target : SceneChange.Target σ} {turns : List (SceneTurn σ)}
    (h : OnePager first turns target) (update : SceneUpdate) :
    OnePager first (turns ++ [⟨update, update.finds target⟩])
      (left ⟨update, update.finds target⟩) := by
  have hturn : SharesPager ⟨update, update.finds target⟩ := sharesPager _
  refine ⟨?_, ?_, fun pager hfirst => hturn.keeps pager (h.keeps pager hfirst), ?_⟩
  · intro turn hmem
    rcases List.mem_append.mp hmem with hmem | hmem
    · exact h.shares turn hmem
    · rw [List.mem_singleton.mp hmem]
      exact hturn
  · rw [left_events, List.flatMap_append, List.flatMap_singleton, ← List.append_assoc, ← h.events]
    rfl
  · rw [List.flatMap_append, List.flatMap_singleton, List.filter_append]
    rcases h.once with hnone | ⟨hshared, earlier, hmem, hevents⟩
    · rw [hnone, List.nil_append, hturn.asked]
      split
      · rename_i hneeded
        obtain ⟨hpaged, hempty, hbare⟩ := hneeded
        refine Or.inr ⟨?_, _, List.mem_concat_self, rfl⟩
        rw [hturn.creates hpaged hempty hbare]
        exact Option.some_ne_none _
      · exact Or.inl rfl
    · obtain ⟨pager, hpager⟩ := Option.ne_none_iff_exists'.mp hshared
      have hquiet := hturn.asked
      rw [if_neg fun hneeded => hshared hneeded.2.1] at hquiet
      rw [hquiet, List.append_nil, hturn.keeps pager hpager]
      exact Or.inr ⟨Option.some_ne_none _, earlier, List.mem_append_left _ hmem, hevents⟩

theorem run_onePager (target : SceneChange.Target σ) (updates : List SceneUpdate) :
    OnePager target (history target updates) (run target updates) :=
  run_induction ⟨by simp, by simp, fun _ => id, Or.inl rfl⟩ (fun _ _ update h => h.concat update)
    updates

end SceneTurn

/-- Apply any changes one after the other, each to any loops, whatever is shared at first and
whatever pagers the loops bring along.  Every call gives each loop the pager that it should have.
In all, either nothing is asked of pagers, or one is created and then started.  A pager that was
shared at some time is the one that is shared from then on. -/
theorem one_pager_is_shared (target : SceneChange.Target σ) (updates : List SceneUpdate) :
    (∀ turn ∈ SceneTurn.history target updates, turn.SharesPager) ∧
    (∃ events,
      (SceneTurn.run target updates).world.events = target.world.events ++ events ∧
      (events.filter Event.isPager = [] ∨ ∃ turn ∈ SceneTurn.history target updates,
        events.filter Event.isPager =
          [.pagerCreated turn.update.fresh, .pagerStarted turn.update.fresh])) ∧
    ∀ earlier later, updates = earlier ++ later → ∀ pager,
      (SceneTurn.run target earlier).shared = some pager →
        (SceneTurn.run target updates).shared = some pager := by
  have hrun := SceneTurn.run_onePager target updates
  refine ⟨hrun.shares, ⟨_, hrun.events, hrun.once.imp_right And.right⟩, ?_⟩
  rintro earlier later rfl pager hshared
  rw [SceneTurn.run_append]
  exact (SceneTurn.run_onePager _ later).keeps pager hshared

end FramesInFlight
