import FramesInFlight.Proofs.Light.History

/-!
# The descriptor set of a light state

Compiling a light state takes two steps that the device may refuse, and the first leaves a layout
behind.  A compile that fails gives it back and changes nothing, so that the next one starts over,
and a compiled state is never compiled again.

* `ViewLights.Compiling` are the ways in which one compile can go, with what it asks of the device.
* `layoutsAlive` are the layouts created and not destroyed by some events.
* `ViewLights.HoldsDescriptors` says what a light state has to show for what was asked so far, and
  `HoldsDescriptors.perform` is one operation.
* `descriptors_are_made_once` is the result for every run.
-/

namespace FramesInFlight

variable {σ : Type}

/-! ## One compile -/

/-- Allocating sets gives one for each layout, if it succeeds. -/
def Device.OneSetPerLayout (device : Device σ) : Prop :=
  ∀ pool layouts state sets, (device.allocateSets pool layouts state).1 = .ok sets →
    sets.length = layouts.length

theorem Device.OneSetPerLayout.single {device : Device σ} (h : device.OneSetPerLayout)
    {pool layout : Nat} {state state' : σ} {sets : List Nat}
    (hsets : device.allocateSets pool [layout] state = (.ok sets, state')) :
    ∃ set, sets = [set] :=
  List.length_eq_one_iff.mp (h pool [layout] state sets (congrArg Prod.fst hsets))

/-- Asking notes one event, which has the answer given. -/
theorem World.ask_eq {ε α : Type} {world world' : World σ} {act : σ → Except ε α × σ}
    {event : Except ε α → Event} {answer : Except ε α}
    (h : world.ask act event = (answer, world')) :
    act world.state = (answer, world'.state) ∧ world'.events = world.events ++ [event answer] := by
  cases h
  exact ⟨rfl, rfl⟩

namespace ViewLights

/-- The update that points a set at the buffers, each from its beginning and as long as the data. -/
def setUpdate (v : ViewLights) (set lightBuffer viewportBuffer : Nat) : Event :=
  .setWritten set [⟨0, lightBuffer, 0, v.lightBytes.length⟩,
    ⟨1, viewportBuffer, 0, v.viewportBytes.length⟩]

/-- How a compile can go: what is asked of the device, the answer, and the state that is left. -/
inductive Compiling (v : ViewLights) (pool lightBuffer viewportBuffer : Nat) :
    List Event → Except Failure Unit → ViewLights → Prop
  | already (hcompiled : v.compiled ≠ none) :
    Compiling v pool lightBuffer viewportBuffer [] (.ok ()) v
  | noLayout (hnone : v.compiled = none) (status : Status) :
    Compiling v pool lightBuffer viewportBuffer [.layoutCreated layoutBindings (.error status)]
      (.error (.device status)) v
  | noSet (hnone : v.compiled = none) (layout : Nat) (status : Status) :
    Compiling v pool lightBuffer viewportBuffer
      [.layoutCreated layoutBindings (.ok layout), .setsAllocated pool [layout] (.error status),
        .layoutDestroyed layout]
      (.error (.device status)) v
  | made (hnone : v.compiled = none) (layout set : Nat) :
    Compiling v pool lightBuffer viewportBuffer
      [.layoutCreated layoutBindings (.ok layout), .setsAllocated pool [layout] (.ok [set]),
        v.setUpdate set lightBuffer viewportBuffer]
      (.ok ()) { v with compiled := some ⟨layout, set⟩ }

theorem bytes_length (records : List Record) :
    (records.flatMap Record.bytes).length = records.length * Record.size := by
  induction records with
  | nil => rfl
  | cons record rest ih =>
    rw [List.flatMap_cons, List.length_append, ih, List.length_cons, Nat.succ_mul, Nat.add_comm]
    rfl

theorem compile_of_compiled {v : ViewLights} (hcompiled : v.compiled ≠ none) (device : Device σ)
    (pool lightBuffer viewportBuffer : Nat) (world : World σ) :
    v.compile device pool lightBuffer viewportBuffer world = (.ok (), v, world) := by
  rw [compile, if_pos (Option.isSome_iff_ne_none.mpr hcompiled)]

theorem compile_goes {device : Device σ} (hsets : device.OneSetPerLayout) (v : ViewLights)
    (pool lightBuffer viewportBuffer : Nat) (world : World σ) :
    ∃ events,
      (v.compile device pool lightBuffer viewportBuffer world).2.2.events =
        world.events ++ events ∧
      v.Compiling pool lightBuffer viewportBuffer events
        (v.compile device pool lightBuffer viewportBuffer world).1
        (v.compile device pool lightBuffer viewportBuffer world).2.1 := by
  by_cases hcompiled : v.compiled ≠ none
  · rw [compile_of_compiled hcompiled]
    exact ⟨[], (List.append_nil _).symm, .already hcompiled⟩
  have hnone : v.compiled = none := not_not.mp hcompiled
  rw [compile, hnone, if_neg (by simp)]
  -- The device may refuse the layout first, and then the set.
  split
  · next status world₁ hlayout =>
    exact ⟨_, (World.ask_eq hlayout).2, .noLayout hnone status⟩
  next layout world₁ hlayout =>
  have hcreated := (World.ask_eq hlayout).2
  split
  · next status world₂ hset =>
    refine ⟨_, ?_, .noSet hnone layout status⟩
    rw [World.emit, (World.ask_eq hset).2, hcreated]
    simp only [World.notice, List.append_assoc, List.cons_append, List.nil_append]
  · next world₂ hset =>
    obtain ⟨set, hsingle⟩ := hsets.single (World.ask_eq hset).1
    cases hsingle
  · next set rest world₂ hset =>
    obtain ⟨hanswer, hallocated⟩ := World.ask_eq hset
    obtain ⟨_, hsingle⟩ := hsets.single hanswer
    cases hsingle
    refine ⟨_, ?_, .made hnone layout set⟩
    rw [World.emit, hallocated, hcreated, setUpdate, lightBytes, viewportBytes, bytes_length,
      bytes_length]
    simp only [World.notice, List.append_assoc, List.cons_append, List.nil_append]
    rfl

end ViewLights

/-! ## What was asked so far -/

namespace Event

/-- A layout comes to life. -/
def isLayoutCreated : Event → Bool
  | layoutCreated _ (.ok _) => true
  | _ => false

def isLayoutDestroyed : Event → Bool
  | layoutDestroyed _ => true
  | _ => false

def isSetWritten : Event → Bool
  | setWritten _ _ => true
  | _ => false

/-- The layouts alive after an event. -/
def keepAlive (alive : List Nat) : Event → List Nat
  | layoutCreated _ (.ok layout) => alive ++ [layout]
  | layoutDestroyed layout => alive.erase layout
  | _ => alive

end Event

/-- The layouts created by some events and not destroyed by later ones. -/
def layoutsAlive (events : List Event) : List Nat := events.foldl Event.keepAlive []

theorem layoutsAlive_append (earlier later : List Event) :
    layoutsAlive (earlier ++ later) = later.foldl Event.keepAlive (layoutsAlive earlier) :=
  List.foldl_append

/-- A light state and everything that was asked for it. -/
structure ViewLights.HoldsDescriptors (v : ViewLights) (events : List Event) : Prop where
  /-- The layout of a compiled state is alive, and no other. -/
  alive : layoutsAlive events = (v.compiled.map (·.layout)).toList
  /-- As many layouts were destroyed as created, but for the one of a compiled state. -/
  count : events.countP Event.isLayoutCreated =
    events.countP Event.isLayoutDestroyed + if v.compiled.isSome then 1 else 0
  /-- No set is written before the state is compiled. -/
  unwritten : v.compiled = none → events.filter Event.isSetWritten = []
  /-- The set of a compiled state was written once, and it still covers all of the data. -/
  written : ∀ descriptors, v.compiled = some descriptors → ∃ lightBuffer viewportBuffer,
    events.filter Event.isSetWritten =
      [v.setUpdate descriptors.set lightBuffer viewportBuffer]

namespace ViewLights.HoldsDescriptors

variable {v w : ViewLights} {events : List Event}

/-- Nothing is asked, and the data keeps its size. -/
theorem of_same (h : v.HoldsDescriptors events) (hcompiled : w.compiled = v.compiled)
    (hlight : w.lightBytes.length = v.lightBytes.length)
    (hviewport : w.viewportBytes.length = v.viewportBytes.length) : w.HoldsDescriptors events where
  alive := by rw [hcompiled, h.alive]
  count := by rw [hcompiled, h.count]
  unwritten hnone := h.unwritten (hcompiled.symm.trans hnone)
  written descriptors hdescriptors := by
    obtain ⟨lightBuffer, viewportBuffer, hwritten⟩ :=
      h.written descriptors (hcompiled.symm.trans hdescriptors)
    refine ⟨lightBuffer, viewportBuffer, ?_⟩
    rw [hwritten, setUpdate, setUpdate, hlight, hviewport]

theorem bound (h : v.HoldsDescriptors events) (encoder : Option Nat) (binding : SetBinding)
    (answer : Except Failure Unit) :
    v.HoldsDescriptors (events ++ [.setsBound encoder binding answer]) where
  alive := by rw [layoutsAlive_append, ← h.alive]; rfl
  count := by simpa [Event.isLayoutCreated, Event.isLayoutDestroyed] using h.count
  unwritten hnone := by simpa [Event.isSetWritten] using h.unwritten hnone
  written descriptors hdescriptors := by
    simpa [Event.isSetWritten] using h.written descriptors hdescriptors

theorem compile (h : v.HoldsDescriptors events) {pool lightBuffer viewportBuffer : Nat}
    {asked : List Event} {answer : Except Failure Unit}
    (hgoes : v.Compiling pool lightBuffer viewportBuffer asked answer w) :
    w.HoldsDescriptors (events ++ asked) := by
  cases hgoes with
  | already _ => rwa [List.append_nil]
  | noLayout hnone status =>
    refine ⟨?_, ?_, fun _ => ?_, fun _ hsome => ?_⟩
    · rw [layoutsAlive_append, ← h.alive]; rfl
    · simpa [Event.isLayoutCreated, Event.isLayoutDestroyed] using h.count
    · simpa [Event.isSetWritten] using h.unwritten hnone
    · cases hnone.symm.trans hsome
  | noSet hnone layout status =>
    have halive := h.alive
    have hcount := h.count
    rw [hnone] at halive hcount
    refine ⟨?_, ?_, fun _ => ?_, fun _ hsome => ?_⟩
    · rw [layoutsAlive_append, halive, hnone]
      simp [Event.keepAlive]
    · rw [hnone, List.countP_append, List.countP_append, hcount]
      rfl
    · simpa [Event.isSetWritten] using h.unwritten hnone
    · cases hnone.symm.trans hsome
  | made hnone layout set =>
    have halive := h.alive
    have hcount := h.count
    have hunwritten := h.unwritten hnone
    rw [hnone] at halive hcount
    refine ⟨?_, ?_, fun hnone' => ?_, fun descriptors hdescriptors => ?_⟩
    · rw [layoutsAlive_append, halive]
      rfl
    · rw [List.countP_append, List.countP_append, hcount]
      rfl
    · cases hnone'
    · cases hdescriptors
      refine ⟨lightBuffer, viewportBuffer, ?_⟩
      rw [List.filter_append, hunwritten]
      rfl

end ViewLights.HoldsDescriptors

/-! ## Runs -/

/-- The binder of a surrounding, with every binding noted. -/
def LightSurroundings.binder (env : LightSurroundings σ) (encoder : Option Nat)
    (binding : SetBinding) (world : World σ) : Except Failure Unit × World σ :=
  world.ask (env.bind encoder binding) (.setsBound encoder binding)

theorem LightSurroundings.binder_events (env : LightSurroundings σ) (encoder : Option Nat)
    (binding : SetBinding) (world : World σ) :
    (env.binder encoder binding world).2.events =
      world.events ++ [.setsBound encoder binding (env.bind encoder binding world.state).1] :=
  rfl

/-- What a command asks a binder to bind for a set. -/
def BindLights.binding (command : BindLights) (set : Nat) : SetBinding :=
  ⟨command.bindPoint, command.layout, command.firstSet, [set]⟩

namespace BindLights

variable {v : ViewLights} (command : BindLights)
  (bind : SetBinding → World σ → Except Failure Unit × World σ) (world : World σ)

theorem record_of_uncompiled (hnone : v.compiled = none) :
    command.record v bind world = (.error (.notCompiled "ViewDependentState"), world) := by
  rw [record, setBinding?, ViewLights.setBinding?, hnone]

theorem record_of_compiled {descriptors : LightDescriptors}
    (hcompiled : v.compiled = some descriptors) :
    command.record v bind world =
      bind (command.binding descriptors.set) world := by
  rw [record, setBinding?, ViewLights.setBinding?, hcompiled]
  rfl

end BindLights

/-- To perform the command that binds is to record it. -/
theorem LightOperation.perform_bind (env : LightSurroundings σ) (stage : LightStage σ)
    (command : BindLights) (encoder : Option Nat) :
    (bind command encoder).perform env stage =
      ⟨stage.lights, (command.record stage.lights (env.binder encoder) stage.world).2⟩ := by
  rw [perform, BindLights.setBinding?, ViewLights.setBinding?]
  cases hcompiled : stage.lights.compiled with
  | none => rw [BindLights.record_of_uncompiled _ _ _ hcompiled]
  | some descriptors => rw [BindLights.record_of_compiled _ _ _ hcompiled]; rfl

namespace LightStage

/-- How the next compile at a stage goes. -/
structure Compiles (env : LightSurroundings σ) (stage : LightStage σ)
    (pool lightBuffer viewportBuffer : Nat) (answer : Except Failure Unit) (left : LightStage σ) :
    Prop where
  /-- A compiled state stays as it is, and the device hears nothing. -/
  again : stage.lights.compiled ≠ none → answer = .ok () ∧ left = stage
  /-- A failure is what the device reported.  The state stays as it is, no set is written, and a
  layout that was created is destroyed. -/
  failed : ∀ failure, answer = .error failure → left.lights = stage.lights ∧
    ∃ status, failure = .device status ∧
      (left.world.events =
        stage.world.events ++ [.layoutCreated ViewLights.layoutBindings (.error status)] ∨
      ∃ layout, left.world.events =
        stage.world.events ++ [.layoutCreated ViewLights.layoutBindings (.ok layout),
          .setsAllocated pool [layout] (.error status), .layoutDestroyed layout])
  /-- A success makes a layout and a set of it, and points the set at all of the data. -/
  made : stage.lights.compiled = none → answer = .ok () → ∃ layout set,
    left.lights = { stage.lights with compiled := some ⟨layout, set⟩ } ∧
    left.world.events =
      stage.world.events ++ [.layoutCreated ViewLights.layoutBindings (.ok layout),
        .setsAllocated pool [layout] (.ok [set]),
        .setWritten set [⟨0, lightBuffer, 0, stage.lights.lightBytes.length⟩,
          ⟨1, viewportBuffer, 0, stage.lights.viewportBytes.length⟩]]
  /-- Nothing but the device can make it fail. -/
  succeeds : ∀ layout state sets state',
    env.createLayout stage.world.state = (.ok layout, state) →
      env.allocateSets pool [layout] state = (.ok sets, state') → answer = .ok ()

/-- How the next bind at a stage goes. -/
structure Binds (env : LightSurroundings σ) (stage : LightStage σ) (command : BindLights)
    (encoder : Option Nat) (answer : Except Failure Unit) (world : World σ) : Prop where
  /-- A state that is not compiled is not bound, and the binder hears nothing. -/
  unbound : stage.lights.compiled = none →
    answer = .error (.notCompiled "ViewDependentState") ∧ world = stage.world
  /-- The binder gets the set of a compiled state, and its answer is the answer. -/
  bound : ∀ descriptors, stage.lights.compiled = some descriptors →
    answer = (env.bind encoder (command.binding descriptors.set) stage.world.state).1 ∧
    world.events =
      stage.world.events ++ [.setsBound encoder (command.binding descriptors.set) answer]

end LightStage

/-- Operations other than compiling ask nothing about layouts and sets, and keep the size of the
data. -/
theorem ViewLights.HoldsDescriptors.perform {env : LightSurroundings σ}
    (hsets : env.toDevice.OneSetPerLayout) {first : World σ} {stage : LightStage σ}
    {events : List Event} (hevents : stage.world.events = first.events ++ events)
    (h : stage.lights.HoldsDescriptors events) (hroom : 0 < stage.lights.lightData.length)
    (operation : LightOperation) :
    ∃ later, (operation.perform env stage).world.events = first.events ++ later ∧
      (operation.perform env stage).lights.HoldsDescriptors later := by
  have hleaves := LightTurn.leaves_perform env stage operation
  have hlight : (operation.perform env stage).lights.lightBytes.length =
      stage.lights.lightBytes.length := by
    rw [lightBytes, lightBytes, bytes_length, bytes_length, hleaves.lightLength hroom]
  have hviewport : (operation.perform env stage).lights.viewportBytes.length =
      stage.lights.viewportBytes.length := by
    rw [viewportBytes, viewportBytes, bytes_length, bytes_length, hleaves.viewportLength]
  have hquiet (hsame : (operation.perform env stage).world.events = stage.world.events)
      (hcompiled : (operation.perform env stage).lights.compiled = stage.lights.compiled) :
      ∃ later, (operation.perform env stage).world.events = first.events ++ later ∧
        (operation.perform env stage).lights.HoldsDescriptors later :=
    ⟨events, hsame.trans hevents, h.of_same hcompiled hlight hviewport⟩
  cases operation with
  | compile pool lightBuffer viewportBuffer =>
    obtain ⟨asked, hasked, hgoes⟩ :=
      compile_goes hsets stage.lights pool lightBuffer viewportBuffer stage.world
    exact ⟨events ++ asked, by rw [← List.append_assoc, ← hevents]; exact hasked, h.compile hgoes⟩
  | bind command encoder =>
    rw [LightOperation.perform_bind]
    cases hcompiled : stage.lights.compiled with
    | none =>
      rw [BindLights.record_of_uncompiled _ _ _ hcompiled]
      exact ⟨events, hevents, h⟩
    | some descriptors =>
      rw [BindLights.record_of_compiled _ _ _ hcompiled]
      exact ⟨_, by rw [env.binder_events, hevents, List.append_assoc],
        h.bound encoder (command.binding descriptors.set) _⟩
  | add light _ => cases light <;> exact hquiet rfl rfl
  | addAmbient | addDirectional | addPoint | addSpot | clear | pack | setViewports | takeDirty
  | log => exact hquiet rfl rfl

namespace LightStage

/-- A compiled state stays compiled, with the same layout and the same set. -/
theorem perform_compiled (env : LightSurroundings σ) {stage : LightStage σ}
    {descriptors : LightDescriptors} (hcompiled : stage.lights.compiled = some descriptors)
    (operation : LightOperation) :
    (operation.perform env stage).lights.compiled = some descriptors := by
  cases operation with
  | compile pool lightBuffer viewportBuffer =>
    rw [LightOperation.perform, ViewLights.compile_of_compiled (by simp [hcompiled])]
    exact hcompiled
  | bind command encoder =>
    rw [LightOperation.perform_bind]
    exact hcompiled
  | add light _ => cases light <;> exact hcompiled
  | addAmbient | addDirectional | addPoint | addSpot | clear | pack | setViewports | takeDirty
  | log => exact hcompiled

theorem run_compiled (env : LightSurroundings σ) {stage : LightStage σ}
    {descriptors : LightDescriptors} (hcompiled : stage.lights.compiled = some descriptors)
    (operations : List LightOperation) :
    (stage.run env operations).lights.compiled = some descriptors := by
  induction operations generalizing stage with
  | nil => exact hcompiled
  | cons operation later ih => exact ih (perform_compiled env hcompiled operation)

theorem compiles {env : LightSurroundings σ} (hsets : env.toDevice.OneSetPerLayout)
    (stage : LightStage σ) (pool lightBuffer viewportBuffer : Nat) :
    stage.Compiles env pool lightBuffer viewportBuffer
      (stage.lights.compile env.toDevice pool lightBuffer viewportBuffer stage.world).1
      ((LightOperation.compile pool lightBuffer viewportBuffer).perform env stage) := by
  rw [LightOperation.perform]
  obtain ⟨asked, hasked, hgoes⟩ :=
    ViewLights.compile_goes hsets stage.lights pool lightBuffer viewportBuffer stage.world
  refine ⟨fun hcompiled => ?_, ?_, ?_, fun layout state sets state' hlayout hallocated => ?_⟩
  · rw [ViewLights.compile_of_compiled hcompiled]
    exact ⟨rfl, rfl⟩
  · generalize stage.lights.compile env.toDevice pool lightBuffer viewportBuffer stage.world =
      result at hasked hgoes
    obtain ⟨answer, lights, world⟩ := result
    rintro failure rfl
    cases hgoes with
    | noLayout _ status => exact ⟨rfl, status, rfl, .inl hasked⟩
    | noSet _ layout status => exact ⟨rfl, status, rfl, .inr ⟨layout, hasked⟩⟩
  · generalize stage.lights.compile env.toDevice pool lightBuffer viewportBuffer stage.world =
      result at hasked hgoes
    obtain ⟨answer, lights, world⟩ := result
    rintro hnone rfl
    cases hgoes with
    | already hcompiled => exact absurd hnone hcompiled
    | made _ layout set => exact ⟨layout, set, rfl, hasked⟩
  · by_cases hcompiled : stage.lights.compiled ≠ none
    · rw [ViewLights.compile_of_compiled hcompiled]
    obtain ⟨set, rfl⟩ := hsets.single hallocated
    rw [ViewLights.compile, not_not.mp hcompiled, if_neg (by simp)]
    simp only [Device.layout, Device.sets, World.ask, World.notice, World.emit, hlayout,
      hallocated]

theorem binds (env : LightSurroundings σ) (stage : LightStage σ) (command : BindLights)
    (encoder : Option Nat) :
    stage.Binds env command encoder
      (command.record stage.lights (env.binder encoder) stage.world).1
      ((LightOperation.bind command encoder).perform env stage).world := by
  rw [LightOperation.perform_bind]
  refine ⟨fun hnone => ?_, fun descriptors hcompiled => ?_⟩
  · rw [BindLights.record_of_uncompiled _ _ _ hnone]
    exact ⟨rfl, rfl⟩
  · rw [BindLights.record_of_compiled _ _ _ hcompiled]
    exact ⟨rfl, env.binder_events encoder _ _⟩

end LightStage

/-- Make a light state of any capacities and do anything with it, in surroundings that answer as they
like, except that allocating sets gives one for each layout if it succeeds.  At every time the layout
of a compiled state is the only one alive, and its set was written once, all of the data being
covered.  The next compile makes layout and set if there are none yet and otherwise does nothing,
and if it fails leaves everything as it was.  The next bind hands over the set, if there is one.
A compiled state keeps its layout and its set. -/
theorem descriptors_are_made_once (env : LightSurroundings σ)
    (hsets : env.toDevice.OneSetPerLayout) (records viewports : Nat) (world : World σ)
    (operations : List LightOperation) :
    ∃ stage events,
      stage = LightStage.run env ⟨.ofCapacities records viewports, world⟩ operations ∧
      stage.world.events = world.events ++ events ∧
      stage.lights.HoldsDescriptors events ∧
      (∀ pool lightBuffer viewportBuffer,
        stage.Compiles env pool lightBuffer viewportBuffer
          (stage.lights.compile env.toDevice pool lightBuffer viewportBuffer stage.world).1
          ((LightOperation.compile pool lightBuffer viewportBuffer).perform env stage)) ∧
      (∀ command encoder,
        stage.Binds env command encoder
          (command.record stage.lights (env.binder encoder) stage.world).1
          ((LightOperation.bind command encoder).perform env stage).world) ∧
      ∀ later descriptors, stage.lights.compiled = some descriptors →
        (stage.run env later).lights.compiled = some descriptors := by
  let first : LightStage σ := ⟨.ofCapacities records viewports, world⟩
  have hrun : 0 < (first.run env operations).lights.lightData.length ∧
      ∃ events, (first.run env operations).world.events = world.events ++ events ∧
        (first.run env operations).lights.HoldsDescriptors events := by
    refine LightStage.run_induction (motive := fun _ stage => 0 < stage.lights.lightData.length ∧
      ∃ events, stage.world.events = world.events ++ events ∧
        stage.lights.HoldsDescriptors events) ?_ ?_ operations
    · refine ⟨?_, [], (List.append_nil _).symm, rfl, rfl, fun _ => rfl, fun _ h => nomatch h⟩
      exact List.length_replicate.symm ▸ by omega
    · rintro _ stage operation ⟨hroom, events, hevents, hholds⟩
      exact ⟨(LightTurn.leaves_perform env stage operation).lightLength hroom ▸ hroom,
        hholds.perform hsets hevents hroom operation⟩
  obtain ⟨-, events, hevents, hholds⟩ := hrun
  exact ⟨_, events, rfl, hevents, hholds, LightStage.compiles hsets _, LightStage.binds env _,
    fun later _ hcompiled => LightStage.run_compiled env hcompiled later⟩

/-- Surroundings whose state counts the attempts to allocate sets, the first of which finds no room.
Nothing else fails. -/
def Bench.crowded : LightSurroundings Nat where
  provider := .device
  createFence attempts := (.ok 1, attempts)
  createSemaphore attempts := (.ok 1000, attempts)
  waitFence _ _ attempts := (.ok (), attempts)
  resetFence _ attempts := (.ok (), attempts)
  submit _ _ attempts := (.ok (), attempts)
  createLayout attempts := (.ok (2000 + attempts), attempts)
  createPool attempts := (.ok 3000, attempts)
  allocateSets _ layouts attempts :=
    (if attempts = 0 then .error ⟨-1000069000⟩ else .ok (List.range' 4000 layouts.length),
      attempts + 1)
  bind _ _ attempts := (.ok (), attempts)

theorem Bench.crowded_oneSetPerLayout : Bench.crowded.toDevice.OneSetPerLayout := by
  intro pool layouts attempts sets hsets
  change (if attempts = 0 then _ else _) = _ at hsets
  split at hsets
  · cases hsets
  · cases hsets
    exact List.length_range'

/-- The second of three compiles goes through, and the state is bound then. -/
theorem second_compile_makes_descriptors :
    Bench.crowded.toDevice.OneSetPerLayout ∧ ∃ stage events,
      stage = LightStage.run Bench.crowded ⟨.ofCapacities 4 1, { state := 0 }⟩
        [.bind ⟨7, 0, 0⟩ none, .compile 3000 5 6, .pack, .compile 3000 5 6, .compile 3000 8 9,
          .bind ⟨7, 0, 1⟩ (some 12)] ∧
      stage.lights.HoldsDescriptors events ∧ stage.lights.compiled = some ⟨2001, 4000⟩ ∧
      events = [.layoutCreated ViewLights.layoutBindings (.ok 2000),
        .setsAllocated 3000 [2000] (.error ⟨-1000069000⟩), .layoutDestroyed 2000,
        .layoutCreated ViewLights.layoutBindings (.ok 2001),
        .setsAllocated 3000 [2001] (.ok [4000]),
        .setWritten 4000 [⟨0, 5, 0, 64⟩, ⟨1, 6, 0, 16⟩],
        .setsBound (some 12) ⟨0, 7, 1, [4000]⟩ (.ok ())] := by
  obtain ⟨stage, events, hstage, hevents, hholds, -⟩ :=
    descriptors_are_made_once Bench.crowded Bench.crowded_oneSetPerLayout 4 1 { state := 0 }
      [.bind ⟨7, 0, 0⟩ none, .compile 3000 5 6, .pack, .compile 3000 5 6, .compile 3000 8 9,
        .bind ⟨7, 0, 1⟩ (some 12)]
  refine ⟨Bench.crowded_oneSetPerLayout, stage, events, hstage, hholds, ?_, ?_⟩
  · rw [hstage]
    rfl
  · rw [← List.nil_append events]
    refine hevents.symm.trans ?_
    rw [hstage]
    rfl

end FramesInFlight
