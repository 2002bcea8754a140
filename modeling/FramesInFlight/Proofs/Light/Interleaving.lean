import FramesInFlight.Proofs.Light.Compiling
import FramesInFlight.Proofs.Light.Overflow

/-!
# The order of discovery

A traversal finds lights of different kinds one after the other, and how they follow each other is
the order of the scene.  A pack sees nothing of it but the order of the lights of each kind, also
where not all of them fit.

* `LightOperation.found?` is the light that an operation collects.  `foundAlong` has the lights of
  a kind that several operations collect.
* `ViewLights.collect` is one more light, and `collect_foundOf` says that it goes behind those of
  its kind.  `LightStage.run_collects` is the induction over a traversal.
* `ViewLights.eq_of_foundOf` says that a light state is its lights, kind by kind, and the rest.
* `packing_ignores_interleaving` puts both together.
-/

namespace FramesInFlight

variable {σ : Type}

/-! ## One more light -/

/-- The light that an operation collects, if it collects one.  The matrix of an ambient light is no
part of it, and a light that is handed over as one of any kind is the same as one of its own. -/
def LightOperation.found? : LightOperation → Option FoundLight
  | add (.ambient light) _ | addAmbient light => some (.ambient light)
  | add (.directional light) matrix | addDirectional matrix light =>
    some (.directional ⟨matrix, light⟩)
  | add (.point light) matrix | addPoint matrix light => some (.point ⟨matrix, light⟩)
  | add (.spot light) matrix | addSpot matrix light => some (.spot ⟨matrix, light⟩)
  | _ => none

namespace ViewLights

/-- The state with one more light. -/
def collect (v : ViewLights) : FoundLight → ViewLights
  | .ambient light => v.addAmbient light
  | .directional placed => v.addDirectional placed.modelView placed.light
  | .point placed => v.addPoint placed.modelView placed.light
  | .spot placed => v.addSpot placed.modelView placed.light

/-- What a state has beside its lights does not change with them. -/
theorem collect_clear (v : ViewLights) (light : FoundLight) :
    (v.collect light).clear = v.clear := by
  cases light <;> rfl

theorem collect_foundOf (v : ViewLights) (light : FoundLight) (kind : LightKind) :
    (v.collect light).foundOf kind = v.foundOf kind ++ [light].filter (·.kind = kind) := by
  cases light <;> cases kind <;>
    simp [collect, addAmbient, addDirectional, addPoint, addSpot, foundOf, FoundLight.kind]

/-- States that have the same lights of each kind, and are the same without lights, are the same. -/
theorem eq_of_foundOf {v w : ViewLights} (hrest : v.clear = w.clear)
    (hfound : ∀ kind, v.foundOf kind = w.foundOf kind) : v = w := by
  have hambient : v.ambient = w.ambient :=
    List.map_injective_iff.mpr (fun _ _ => FoundLight.ambient.inj) (hfound .ambient)
  have hdirectional : v.directional = w.directional :=
    List.map_injective_iff.mpr (fun _ _ => FoundLight.directional.inj) (hfound .directional)
  have hpoint : v.point = w.point :=
    List.map_injective_iff.mpr (fun _ _ => FoundLight.point.inj) (hfound .point)
  have hspot : v.spot = w.spot :=
    List.map_injective_iff.mpr (fun _ _ => FoundLight.spot.inj) (hfound .spot)
  calc v = { v.clear with
          ambient := v.ambient, directional := v.directional, point := v.point, spot := v.spot } :=
        rfl
    _ = { w.clear with
          ambient := w.ambient, directional := w.directional, point := w.point,
          spot := w.spot } := by
        rw [hrest, hambient, hdirectional, hpoint, hspot]
    _ = w := rfl

end ViewLights

theorem LightOperation.perform_of_found? (env : LightSurroundings σ) (stage : LightStage σ)
    {operation : LightOperation} {light : FoundLight} (hfound : operation.found? = some light) :
    operation.perform env stage = { stage with lights := stage.lights.collect light } := by
  cases operation with
  | add given matrix => cases given <;> cases hfound <;> rfl
  | addAmbient | addDirectional | addPoint | addSpot =>
    cases hfound
    rfl
  | clear | pack | setViewports | takeDirty | compile | bind | log => cases hfound

/-! ## Traversals -/

/-- Whether operations do nothing but collect lights. -/
def Collects (operations : List LightOperation) : Prop :=
  ∀ operation ∈ operations, operation.found?.isSome = true

/-- The lights of a kind that operations collect, in the order they come. -/
def foundAlong (operations : List LightOperation) (kind : LightKind) : List FoundLight :=
  (operations.filterMap LightOperation.found?).filter (·.kind = kind)

/-- A traversal asks nothing of the surroundings and changes nothing but the lights, which go
behind those of their kind. -/
theorem LightStage.run_collects (env : LightSurroundings σ) (stage : LightStage σ)
    {operations : List LightOperation} (hcollects : Collects operations) :
    (stage.run env operations).world = stage.world ∧
      (stage.run env operations).lights.clear = stage.lights.clear ∧
      ∀ kind, (stage.run env operations).lights.foundOf kind =
        stage.lights.foundOf kind ++ foundAlong operations kind := by
  induction operations generalizing stage with
  | nil => exact ⟨rfl, rfl, fun _ => (List.append_nil _).symm⟩
  | cons operation later ih =>
    obtain ⟨hfirst, hlater⟩ := List.forall_mem_cons.mp hcollects
    obtain ⟨light, hlight⟩ := Option.isSome_iff_exists.mp hfirst
    obtain ⟨hworld, hrest, hfound⟩ :=
      ih { stage with lights := stage.lights.collect light } hlater
    have hrun : stage.run env (operation :: later) =
        LightStage.run env { stage with lights := stage.lights.collect light } later := by
      rw [run, List.foldl_cons, operation.perform_of_found? env stage hlight, run]
    rw [hrun]
    refine ⟨hworld, hrest.trans (stage.lights.collect_clear light), fun kind => ?_⟩
    have halong : foundAlong (operation :: later) kind =
        [light].filter (·.kind = kind) ++ foundAlong later kind := by
      rw [foundAlong, List.filterMap_cons_some hlight, ← List.singleton_append, List.filter_append,
        foundAlong]
    rw [hfound kind, ViewLights.collect_foundOf, halong, List.append_assoc]

theorem LightStage.run_eq_of_foundAlong (env : LightSurroundings σ) (stage : LightStage σ)
    {first second : List LightOperation} (hfirst : Collects first) (hsecond : Collects second)
    (hsame : ∀ kind, foundAlong first kind = foundAlong second kind) :
    stage.run env first = stage.run env second := by
  obtain ⟨hworld, hrest, hfound⟩ := stage.run_collects env hfirst
  obtain ⟨hworld', hrest', hfound'⟩ := stage.run_collects env hsecond
  have hlights : (stage.run env first).lights = (stage.run env second).lights := by
    apply ViewLights.eq_of_foundOf
    · rw [hrest, hrest']
    · intro kind
      rw [hfound, hfound', hsame]
  calc stage.run env first
      = ⟨(stage.run env first).lights, (stage.run env first).world⟩ := rfl
    _ = ⟨(stage.run env second).lights, (stage.run env second).world⟩ := by
        rw [hlights, hworld, hworld']
    _ = stage.run env second := rfl

/-- Take any light state and two traversals that find the same lights of each kind in the same
order.  It does not matter how they mix the kinds, which of the ways to hand over a light they
choose, or what matrices come with ambient lights: after a pack the light data, all numbers, the
lights collected and the reports are the same, whatever there is room for.  What was collected of a
kind are the lights from before and then those of the traversal. -/
theorem packing_ignores_interleaving (env : LightSurroundings σ) (stage : LightStage σ)
    {first second : List LightOperation} (hfirst : Collects first) (hsecond : Collects second)
    (hsame : ∀ kind, foundAlong first kind = foundAlong second kind) :
    stage.run env (first ++ [.pack]) = stage.run env (second ++ [.pack]) ∧
      ∀ kind, (stage.run env (first ++ [.pack])).lights.foundOf kind =
        stage.lights.foundOf kind ++ foundAlong first kind := by
  have hrun : stage.run env first = stage.run env second :=
    stage.run_eq_of_foundAlong env hfirst hsecond hsame
  rw [LightStage.run_concat, LightStage.run_concat]
  refine ⟨by rw [hrun], fun kind => ?_⟩
  obtain ⟨-, -, hfound⟩ := stage.run_collects env hfirst
  -- A pack leaves the lights collected alone.
  have hpack : (LightOperation.pack.perform env (stage.run env first)).lights.foundOf kind =
      (stage.run env first).lights.foundOf kind := by
    cases kind <;> rfl
  rw [hpack, hfound]

/-- A traversal that finds a point light first, and then lights of the kinds packed before it. -/
def pointFirst : List LightOperation :=
  [.addPoint .identity ⟨⟨⟨1⟩, ⟨2⟩, ⟨3⟩, ⟨4⟩⟩, ⟨1, 2, 3⟩⟩,
    .add (.ambient ⟨⟨⟨5⟩, ⟨6⟩, ⟨7⟩, ⟨8⟩⟩⟩) .identity,
    .add (.directional ⟨⟨⟨9⟩, ⟨10⟩, ⟨11⟩, ⟨12⟩⟩, ⟨0, 0, 1⟩⟩) .identity,
    .addAmbient ⟨⟨⟨13⟩, ⟨14⟩, ⟨15⟩, ⟨16⟩⟩⟩]

/-- A traversal that finds the same lights with the point light last, and hands them over in other
ways. -/
def pointLast : List LightOperation :=
  [.addDirectional .identity ⟨⟨⟨9⟩, ⟨10⟩, ⟨11⟩, ⟨12⟩⟩, ⟨0, 0, 1⟩⟩,
    .addAmbient ⟨⟨⟨5⟩, ⟨6⟩, ⟨7⟩, ⟨8⟩⟩⟩,
    .add (.ambient ⟨⟨⟨13⟩, ⟨14⟩, ⟨15⟩, ⟨16⟩⟩⟩) default,
    .add (.point ⟨⟨⟨1⟩, ⟨2⟩, ⟨3⟩, ⟨4⟩⟩, ⟨1, 2, 3⟩⟩) .identity]

/-- In six slots there is no room for the point light after the others, whether it was found first
or last. -/
theorem point_light_is_dropped_in_any_order :
    Collects pointFirst ∧ Collects pointLast ∧
      (∀ kind, foundAlong pointFirst kind = foundAlong pointLast kind) ∧
      (LightStage.run Bench.crowded ⟨.ofCapacities 6 1, { state := 0 }⟩
          (pointFirst ++ [.pack])).lights.packedCounts = ⟨2, 1, 0, 0⟩ ∧
      LightStage.run Bench.crowded ⟨.ofCapacities 6 1, { state := 0 }⟩ (pointFirst ++ [.pack]) =
        LightStage.run Bench.crowded ⟨.ofCapacities 6 1, { state := 0 }⟩ (pointLast ++ [.pack]) := by
  have hfirst : Collects pointFirst := by
    simp [Collects, pointFirst, LightOperation.found?]
  have hlast : Collects pointLast := by
    simp [Collects, pointLast, LightOperation.found?]
  have hsame : ∀ kind, foundAlong pointFirst kind = foundAlong pointLast kind := by
    intro kind
    cases kind <;> rfl
  exact ⟨hfirst, hlast, hsame, rfl,
    (packing_ignores_interleaving Bench.crowded _ hfirst hlast hsame).1⟩

end FramesInFlight
