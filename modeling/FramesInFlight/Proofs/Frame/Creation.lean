import Mathlib.Data.List.Infix
import FramesInFlight.Proofs.Frame.Run

/-!
# Making a loop

A loop is made of objects of the device: a fence for each slot, and a semaphore for each lane.  Each
of them can be refused, and nobody else knows of those made by then, so they have to go before the
call ends.

* `Device.supply` asks the device for parts, one after the other, up to the first that it refuses.
* `Device.fence_eq`, `Device.semaphore_eq` and `FrameLoop.makeFences_eq` say that making objects
  asks for such parts and nothing else.
* `FrameLoop.AllOrNothing` says how making a loop can go, and what is left on the device in the end.
* `creation_is_all_or_nothing` is the result.
-/

namespace FramesInFlight

variable {σ : Type}

/-! ## Parts and objects -/

/-- What a loop is made of. -/
inductive Part where
  | fence
  | semaphore
  deriving DecidableEq, Repr

/-- An object of the device. -/
structure DeviceObject where
  part : Part
  handle : Nat
  deriving DecidableEq, Repr

/-- What the device answers when it is asked for a part. -/
def Device.make (device : Device σ) : Part → σ → Except Status Nat × σ
  | .fence => device.createFence
  | .semaphore => device.createSemaphore

/-- The device is asked for a part: a fence is not signaled, and a semaphore is waited on by
transfers. -/
def Part.asked (answer : Except Status Nat) : Part → Event
  | fence => .fenceCreated .device false answer
  | semaphore => .semaphoreCreated .device .transfer answer

namespace DeviceObject

/-- The object was made. -/
def created (object : DeviceObject) : Event := object.part.asked (.ok object.handle)

/-- The object is destroyed. -/
def destroyed (object : DeviceObject) : Event :=
  match object.part with
  | .fence => .fenceDestroyed object.handle
  | .semaphore => .semaphoreDestroyed object.handle

end DeviceObject

/-- What becomes of asking for parts: the objects made, the part that was refused, if one was, and
the state that the device is left in. -/
structure Supply (σ : Type) where
  made : List DeviceObject
  refused : Option (Part × Status)
  state : σ

namespace Supply

/-- The parts asked for, the refused one included. -/
def attempts (supply : Supply σ) : List Part :=
  supply.made.map (·.part) ++ supply.refused.toList.map (·.1)

/-- The calls to the device, with its answers. -/
def events (supply : Supply σ) : List Event :=
  supply.made.map DeviceObject.created ++
    supply.refused.toList.map fun (part, status) => part.asked (.error status)

end Supply

/-- Ask the device for parts one after the other, up to the first that it refuses. -/
def Device.supply (device : Device σ) : List Part → σ → Supply σ
  | [], state => ⟨[], none, state⟩
  | part :: later, state =>
    match device.make part state with
    | (.error status, state) => ⟨[], some (part, status), state⟩
    | (.ok handle, state) =>
      { device.supply later state with made := ⟨part, handle⟩ :: (device.supply later state).made }

namespace Device

variable (device : Device σ)

/-- No part is asked for after one that was refused. -/
theorem supply_attempts (parts : List Part) (state : σ) :
    (device.supply parts state).attempts <+: parts ∧
      ((device.supply parts state).refused = none →
        (device.supply parts state).attempts = parts) := by
  induction parts generalizing state with
  | nil => exact ⟨List.prefix_rfl, fun _ => rfl⟩
  | cons part later ih =>
    rw [supply]
    split
    · exact ⟨⟨later, rfl⟩, fun hnone => nomatch hnone⟩
    · rename_i handle state' _
      obtain ⟨hbegins, hall⟩ := ih state'
      refine ⟨List.cons_prefix_cons.mpr ⟨rfl, hbegins⟩, fun hnone => ?_⟩
      exact congrArg (part :: ·) (hall hnone)

/-- More parts are asked for when none was refused. -/
theorem supply_append (parts more : List Part) (state : σ) :
    device.supply (parts ++ more) state =
      if (device.supply parts state).refused = none then
        { device.supply more (device.supply parts state).state with
          made := (device.supply parts state).made ++
            (device.supply more (device.supply parts state).state).made }
      else
        device.supply parts state := by
  induction parts generalizing state with
  | nil => rfl
  | cons part later ih =>
    rw [List.cons_append, supply, supply]
    split
    · rfl
    · rw [ih]
      split <;> rfl

end Device

/-- A world after some parts were asked for. -/
def World.supplied (world : World σ) (supply : Supply σ) : World σ :=
  { world with state := supply.state, events := world.events ++ supply.events }

@[simp] theorem World.supplied_state (world : World σ) (supply : Supply σ) :
    (world.supplied supply).state = supply.state := rfl

/-- More parts are asked for after some that were all made. -/
theorem World.supplied_supplied (world : World σ) {earlier : Supply σ} (later : Supply σ)
    (hmade : earlier.refused = none) :
    (world.supplied earlier).supplied later =
      world.supplied { later with made := earlier.made ++ later.made } := by
  simp [supplied, Supply.events, hmade]

/-- A world after some objects were destroyed. -/
def World.destroying (world : World σ) (objects : List DeviceObject) : World σ :=
  { world with events := world.events ++ objects.map DeviceObject.destroyed }

theorem World.destroying_destroying (world : World σ) (objects more : List DeviceObject) :
    (world.destroying objects).destroying more = world.destroying (objects ++ more) := by
  simp [destroying]

/-- A fence of the device that holds nothing. -/
def Fence.ofDevice (handle : Nat) : Fence := { handle, provider := .device }

/-- Fences of the device that go are destroyed, in their order. -/
theorem World.foldl_dropFence (handles : List Nat) (world : World σ) :
    (handles.map Fence.ofDevice).foldl World.dropFence world =
      world.destroying (handles.map (DeviceObject.mk .fence)) := by
  induction handles generalizing world with
  | nil => simp [World.destroying]
  | cons handle later ih =>
    rw [List.map_cons, List.foldl_cons, ih]
    simp [World.destroying, World.dropFence, Fence.ofDevice, World.emit, DeviceObject.destroyed]

/-- A semaphore of the device that transfers wait on. -/
def Semaphore.ofDevice (handle : Nat) : Semaphore := ⟨handle, .transfer, .device⟩

/-- A semaphore of the device that goes is destroyed. -/
theorem World.dropSemaphore_eq (handle : Nat) (world : World σ) :
    world.dropSemaphore (.ofDevice handle) = world.destroying [⟨.semaphore, handle⟩] := rfl

/-- Asking for a fence asks for that part. -/
theorem Device.fence_eq {device : Device σ} (hdevice : device.provider = .device)
    (world : World σ) :
    device.fence false world =
      ((device.createFence world.state).1.map Fence.ofDevice,
        world.supplied (device.supply [.fence] world.state)) := by
  rcases hcreate : device.createFence world.state with ⟨_ | _, _⟩ <;>
    simp only [fence, World.ask, supply, make, hcreate, hdevice] <;> rfl

/-- Asking for the semaphore of a lane asks for that part. -/
theorem Device.semaphore_eq {device : Device σ} (hdevice : device.provider = .device)
    (world : World σ) :
    device.semaphore .transfer world =
      ((device.createSemaphore world.state).1.map Semaphore.ofDevice,
        world.supplied (device.supply [.semaphore] world.state)) := by
  rcases hcreate : device.createSemaphore world.state with ⟨_ | _, _⟩ <;>
    simp only [semaphore, World.ask, supply, make, hcreate, hdevice] <;> rfl

namespace FrameLoop

/-- What a loop with `slots` slots is made of, in the order of asking. -/
def parts (slots : Nat) : List Part := List.replicate slots .fence ++ [.semaphore, .semaphore]

/-- Making fences asks the device for them.  When one is refused, those made by then go. -/
theorem makeFences_eq {device : Device σ} (hdevice : device.provider = .device)
    (made : List Nat) (n : Nat) (world : World σ) {supply : Supply σ}
    (hsupply : device.supply (List.replicate n .fence) world.state = supply) :
    ∃ handles, supply.made = handles.map (DeviceObject.mk .fence) ∧
      makeFences device (made.map Fence.ofDevice) n world =
        match supply.refused with
        | none => (.ok ((made ++ handles).map Fence.ofDevice), world.supplied supply)
        | some (_, status) =>
          (.error status,
            (world.supplied supply).destroying
              ((made ++ handles).map (DeviceObject.mk .fence))) := by
  induction n generalizing made world supply with
  | zero =>
    subst hsupply
    exact ⟨[], rfl, by simp [makeFences, Device.supply, World.supplied, Supply.events]⟩
  | succ n ih =>
    rw [List.replicate_succ, Device.supply, Device.make] at hsupply
    rw [makeFences, Device.fence_eq hdevice, Device.supply, Device.make]
    rcases hcreate : device.createFence world.state with ⟨status | handle, state⟩
    · rw [hcreate] at hsupply
      subst hsupply
      refine ⟨[], rfl, ?_⟩
      simp only [Except.map, List.append_nil, World.foldl_dropFence]
    · rw [hcreate] at hsupply
      subst hsupply
      obtain ⟨handles, hmade, hfences⟩ :=
        ih (made ++ [handle]) (world.supplied ⟨[⟨.fence, handle⟩], none, state⟩) rfl
      refine ⟨handle :: handles, congrArg (_ :: ·) hmade, ?_⟩
      rw [List.map_append, World.supplied_supplied _ _ rfl, ← List.append_cons] at hfences
      exact hfences

/-- A loop with `slots` slots that was made of `objects`: nothing was done with it yet. -/
structure MadeOf (loop : FrameLoop) (slots : Nat) (objects : List DeviceObject) : Prop where
  /-- The fence of each slot, in the order of the slots, and the semaphore of each lane. -/
  objects : objects = loop.fences.map (fun fence => ⟨.fence, fence.handle⟩) ++
    [⟨.semaphore, loop.early.consumed.handle⟩, ⟨.semaphore, loop.late.consumed.handle⟩]
  slots : loop.fences.length = slots ∧ loop.slots = slots
  fences : ∀ fence ∈ loop.fences,
    fence.provider = .device ∧ fence.buffers = [] ∧ fence.semaphores = []
  semaphores : ∀ phase, (loop.lane phase).consumed.stage = .transfer ∧
    (loop.lane phase).consumed.provider = .device
  unused : ∀ k, loop.slot? k = none

/-- All or nothing: how a call that makes a loop with `slots` slots goes, when asking the device for
its parts gives `supply`. -/
structure AllOrNothing (slots : Nat) (world : World σ) (supply : Supply σ)
    (answer : Except Failure FrameLoop) (left : World σ) : Prop where
  /-- The parts are asked for in order. -/
  order : supply.attempts <+: parts slots
  /-- Nothing but them is asked of the device. -/
  state : left.state = supply.state
  /-- The first refusal ends the call, and each object made by then is destroyed once. -/
  refused : ∀ part status, supply.refused = some (part, status) →
    answer = .error (.device status) ∧ ∃ dropped : List DeviceObject, dropped.Perm supply.made ∧
      left.events = world.events ++ supply.events ++ dropped.map DeviceObject.destroyed
  /-- Without one, all parts are made and kept. -/
  made : supply.refused = none → supply.attempts = parts slots ∧
    left.events = world.events ++ supply.events ∧
    ∃ loop, answer = .ok loop ∧ loop.MadeOf slots supply.made

/-- A loop is as it was made when its fields are. -/
theorem MadeOf.of_fields {loop : FrameLoop} {slots early late : Nat} {handles : List Nat}
    (hring : loop.ring = .ofSize slots) (hfences : loop.fences = handles.map Fence.ofDevice)
    (hlength : handles.length = slots)
    (hearly : loop.early.consumed = ⟨early, .transfer, .device⟩)
    (hlate : loop.late.consumed = ⟨late, .transfer, .device⟩) :
    loop.MadeOf slots (handles.map (DeviceObject.mk .fence) ++
      [⟨.semaphore, early⟩, ⟨.semaphore, late⟩]) where
  objects := by
    rw [hfences, hearly, hlate, List.map_map]
    rfl
  slots := by
    rw [hfences, List.length_map, FrameLoop.slots, hring, SlotRing.ofSize, SlotRing.size,
      List.length_replicate]
    exact ⟨hlength, rfl⟩
  fences fence hfence := by
    rw [hfences] at hfence
    obtain ⟨_, -, rfl⟩ := List.mem_map.mp hfence
    exact ⟨rfl, rfl, rfl⟩
  semaphores phase := by
    cases phase with
    | early => exact hearly ▸ ⟨rfl, rfl⟩
    | late => exact hlate ▸ ⟨rfl, rfl⟩
  unused k := by
    rw [slot?, hring, SlotRing.slot?, SlotRing.ofSize, List.getElem?_replicate]
    split <;> rfl

/-- A call ended by a refusal, after it destroyed what was made. -/
theorem AllOrNothing.of_refused {slots : Nat} {world : World σ} {supply : Supply σ}
    {part : Part} {status : Status} {dropped : List DeviceObject}
    (horder : supply.attempts <+: parts slots) (hrefused : supply.refused = some (part, status))
    (hdropped : dropped.Perm supply.made) :
    AllOrNothing slots world supply (.error (.device status))
      ((world.supplied supply).destroying dropped) where
  order := horder
  state := rfl
  refused part' status' hrefused' := by
    cases hrefused.symm.trans hrefused'
    exact ⟨rfl, dropped, hdropped, rfl⟩
  made hnone := by cases hrefused.symm.trans hnone

/-- A call that got all parts. -/
theorem AllOrNothing.of_made {slots : Nat} {world : World σ} {supply : Supply σ}
    {loop : FrameLoop} (hall : supply.attempts = parts slots) (hnone : supply.refused = none)
    (hmade : loop.MadeOf slots supply.made) (notice : Notice) :
    AllOrNothing slots world supply (.ok loop) ((world.supplied supply).notice notice) where
  order := hall ▸ List.prefix_rfl
  state := rfl
  refused part status hrefused := by cases hnone.symm.trans hrefused
  made _ := ⟨hall, rfl, loop, rfl, hmade⟩

/-- Making a loop with slots is all or nothing. -/
theorem create_of_slots {device : Device σ} (hdevice : device.provider = .device) (queue : Nat)
    {settings : FrameSettings} (hslots : settings.numBuffers ≠ 0) (world : World σ) :
    AllOrNothing settings.numBuffers.toNat world
      (device.supply (parts settings.numBuffers.toNat) world.state)
      (create device queue settings world).1 (create device queue settings world).2 := by
  obtain ⟨horder, hall⟩ :=
    device.supply_attempts (parts settings.numBuffers.toNat) world.state
  generalize hsupply : device.supply (parts settings.numBuffers.toNat) world.state = supply at *
  rw [parts, Device.supply_append] at hsupply
  generalize hfirst : device.supply (List.replicate settings.numBuffers.toNat .fence) world.state
    = first at hsupply
  obtain ⟨handles, hmade, hfences⟩ := makeFences_eq hdevice [] _ world hfirst
  rw [List.map_nil, List.nil_append] at hfences
  simp only [create, FrameSettings.validate, if_neg hslots, hfences]
  rcases hrefused : first.refused with _ | ⟨part, status⟩
  · rw [if_pos hrefused] at hsupply
    simp only [Device.supply, Device.make] at hsupply
    simp only [Device.semaphore_eq hdevice, Device.supply, Device.make, World.supplied_state]
    rcases hearly : device.createSemaphore first.state with ⟨status | early, state⟩
    · -- The first semaphore is refused.
      simp only [hearly] at hsupply
      subst hsupply
      simp only [Except.map, World.foldl_dropFence, World.supplied_supplied world _ hrefused]
      exact .of_refused horder rfl (.of_eq (by rw [hmade, List.append_nil]))
    rcases hlate : device.createSemaphore state with ⟨status | late, state'⟩
    · -- The second semaphore is refused, and the first one goes before the fences.
      simp only [hearly, hlate] at hsupply
      subst hsupply
      simp only [Except.map, World.supplied_supplied world _ hrefused, World.supplied_state, hlate,
        World.dropSemaphore_eq, World.foldl_dropFence, World.destroying_destroying]
      rw [World.supplied_supplied world _ rfl, List.append_nil]
      refine .of_refused horder rfl ?_
      rw [hmade]
      exact List.perm_append_comm
    · simp only [hearly, hlate] at hsupply
      subst hsupply
      simp only [Except.map, World.supplied_supplied world _ hrefused, World.supplied_state, hlate]
      rw [World.supplied_supplied world _ rfl, List.append_assoc]
      have hlength : handles.length = settings.numBuffers.toNat := by
        have hparts := congrArg List.length (hall rfl)
        simpa [Supply.attempts, hmade, parts] using hparts
      refine .of_made (hall rfl) rfl ?_ _
      rw [hmade]
      exact .of_fields rfl rfl hlength rfl rfl
  · -- A fence is refused.
    rw [if_neg (by simp [hrefused])] at hsupply
    subst hsupply
    exact .of_refused horder hrefused (.of_eq hmade.symm)

end FrameLoop

/-- Whatever the device answers to each call: without slots, making a loop fails and asks nothing
of it.  With slots, the device is asked for a fence for each slot and for two semaphores, in this
order.  The first that it refuses ends the call with its status, and what was made by then is
destroyed, each object once and nothing else.  When it refuses none, nothing is destroyed, and the
loop has them all. -/
theorem creation_is_all_or_nothing (device : Device σ) (hdevice : device.provider = .device)
    (queue : Nat) (settings : FrameSettings) (world : World σ) :
    (settings.numBuffers = 0 → FrameLoop.create device queue settings world =
      (.error (.invalidConfiguration "Invalid configuration: num_buffers must be at least 1"),
        world)) ∧
    (settings.numBuffers ≠ 0 → FrameLoop.AllOrNothing settings.numBuffers.toNat world
      (device.supply (FrameLoop.parts settings.numBuffers.toNat) world.state)
      (FrameLoop.create device queue settings world).1
      (FrameLoop.create device queue settings world).2) := by
  refine ⟨fun hnone => ?_, fun hslots => FrameLoop.create_of_slots hdevice queue hslots world⟩
  simp only [FrameLoop.create, FrameSettings.validate, if_pos hnone]
  rfl

/-- A bench of the device that makes one semaphore and no second one. -/
def oneSemaphoreBench : Bench where
  faults := [(.createSemaphore, ⟨⟨-2⟩, 1⟩)]

/-- Both fences and the first semaphore are destroyed when the second semaphore is refused. -/
theorem second_semaphore_is_refused :
    (Bench.device .device).provider = .device ∧ (FrameSettings.ofSlots 2).numBuffers ≠ 0 ∧
    ((Bench.device .device).supply (FrameLoop.parts 2) oneSemaphoreBench).refused =
      some (.semaphore, ⟨-2⟩) ∧
    ((Bench.device .device).supply (FrameLoop.parts 2) oneSemaphoreBench).made =
      [⟨.fence, 1⟩, ⟨.fence, 2⟩, ⟨.semaphore, 1000⟩] ∧
    FrameLoop.AllOrNothing 2 { state := oneSemaphoreBench }
      ((Bench.device .device).supply (FrameLoop.parts 2) oneSemaphoreBench)
      (FrameLoop.create (Bench.device .device) 7 (.ofSlots 2) { state := oneSemaphoreBench }).1
      (FrameLoop.create (Bench.device .device) 7 (.ofSlots 2) { state := oneSemaphoreBench }).2 :=
  ⟨rfl, by decide, rfl, rfl,
    (creation_is_all_or_nothing (Bench.device .device) rfl 7 (.ofSlots 2) _).2 (by decide)⟩

end FramesInFlight
