import Mathlib.Data.List.Forall2
import FramesInFlight.Proofs.Light.Overflow

/-!
# What depends on translations

A model-view matrix moves positions, and turns positions and directions.  Two states that have the
same lights under matrices with the same upper blocks are compared here, whatever their matrices
have in the translation column and the bottom row.

* `FoundLight.SameLinear` relates the lights of both states, and `ViewLights.SameUpperBlocks` the
  states.
* `SameLinear.records` compares the records of one light, and `SameLinear.notices` the reports of
  it.
* `SameUpperBlocks.fitting` says that the same lights are packed.  `PerKind.exists_slot` finds the
  light of a slot, so that `SameUpperBlocks.record` is about every slot.
* `only_positions_see_translations` is the result for a pack.
-/

namespace FramesInFlight

/-! ## One light in two states -/

namespace FoundLight

/-- One light in two states, under matrices with the same upper block. -/
inductive SameLinear : FoundLight → FoundLight → Prop
  | ambient (light : AmbientLight) : SameLinear (.ambient light) (.ambient light)
  | directional {m m' : ModelView} (hlinear : m.linear = m'.linear) (light : DirectionalLight) :
      SameLinear (.directional ⟨m, light⟩) (.directional ⟨m', light⟩)
  | point {m m' : ModelView} (hlinear : m.linear = m'.linear) (light : PointLight) :
      SameLinear (.point ⟨m, light⟩) (.point ⟨m', light⟩)
  | spot {m m' : ModelView} (hlinear : m.linear = m'.linear) (light : SpotLight) :
      SameLinear (.spot ⟨m, light⟩) (.spot ⟨m', light⟩)

/-- Reports of packing a light. -/
def notices : FoundLight → List Notice
  | directional placed => placed.modelView.directionNotices placed.light.direction
  | spot placed => placed.modelView.directionNotices placed.light.direction
  | _ => []

end FoundLight

/-- The place of the position among the records of a light, if lights of the kind have one. -/
def LightKind.positionPlace? : LightKind → Option Nat
  | ambient | directional => none
  | point | spot => some 1

/-- Records that may differ in the first three components, and in these only at the place of a
position. -/
def Record.AgreesBeside (isPosition : Prop) (r r' : Record) : Prop :=
  r.w = r'.w ∧ (¬isPosition → r = r')

@[simp] theorem Vec3.toRecord_w (v : Vec3) (w : Single) : (v.toRecord w).w = w := rfl

theorem Record.AgreesBeside.of_eq {isPosition : Prop} {r r' : Record} (h : r = r') :
    r.AgreesBeside isPosition r' :=
  ⟨congrArg Record.w h, fun _ => h⟩

theorem Record.AgreesBeside.of_position {isPosition : Prop} (hposition : isPosition) (v v' : Vec3)
    (w : Single) : (v.toRecord w).AgreesBeside isPosition (v'.toRecord w) :=
  ⟨by rw [Vec3.toRecord_w, Vec3.toRecord_w], fun h => absurd hposition h⟩

namespace ModelView

variable {m m' : ModelView}

theorem eyeDirection_of_linear (hlinear : m.linear = m'.linear) (direction : Vec3) :
    m.eyeDirection direction = m'.eyeDirection direction := by
  rw [eyeDirection, eyeDirection, direction?, direction?, hlinear]

theorem directionNotices_of_linear (hlinear : m.linear = m'.linear) (direction : Vec3) :
    m.directionNotices direction = m'.directionNotices direction := by
  rw [directionNotices, directionNotices, direction?, direction?, hlinear]

end ModelView

namespace FoundLight.SameLinear

variable {a b : FoundLight}

theorem notices (h : a.SameLinear b) : a.notices = b.notices := by
  cases h with
  | ambient | point => rfl
  | directional hlinear light | spot hlinear light =>
    exact ModelView.directionNotices_of_linear hlinear light.direction

/-- Records of a light differ in its position at most, and there not in the fourth component. -/
theorem records (h : a.SameLinear b) {j : Nat} (hj : j < a.kind.recordCount) :
    ∃ r r', a.records[j]? = some r ∧ b.records[j]? = some r' ∧
      r.AgreesBeside (a.kind.positionPlace? = some j) r' := by
  cases h with
  | ambient light =>
    have hj' : j = 0 := Nat.lt_one_iff.mp hj
    subst hj'
    exact ⟨_, _, rfl, rfl, .of_eq rfl⟩
  | directional hlinear light =>
    have hj' : j = 0 ∨ j = 1 := by
      change j < 2 at hj
      omega
    rcases hj' with rfl | rfl
    · exact ⟨_, _, rfl, rfl, .of_eq rfl⟩
    · refine ⟨_, _, rfl, rfl, .of_eq ?_⟩
      rw [ModelView.eyeDirection_of_linear hlinear]
  | point hlinear light =>
    have hj' : j = 0 ∨ j = 1 := by
      change j < 2 at hj
      omega
    rcases hj' with rfl | rfl
    · exact ⟨_, _, rfl, rfl, .of_eq rfl⟩
    · exact ⟨_, _, rfl, rfl, .of_position rfl _ _ _⟩
  | spot hlinear light =>
    have hj' : j = 0 ∨ j = 1 ∨ j = 2 := by
      change j < 3 at hj
      omega
    rcases hj' with rfl | rfl | rfl
    · exact ⟨_, _, rfl, rfl, .of_eq rfl⟩
    · exact ⟨_, _, rfl, rfl, .of_position rfl _ _ _⟩
    · refine ⟨_, _, rfl, rfl, .of_eq ?_⟩
      rw [ModelView.eyeDirection_of_linear hlinear]

end FoundLight.SameLinear

/-! ## The light of a slot -/

namespace PerKind

variable {counts : PerKind Nat} {slot : Nat}

/-- A slot in the part of a kind belongs to one of its lights. -/
theorem exists_slot_of_kind {kind : LightKind} (hstart : counts.start kind ≤ slot)
    (hstop : slot < counts.start kind + kind.recordCount * counts.get kind) :
    ∃ i j, i < counts.get kind ∧ j < kind.recordCount ∧ slot = counts.slot kind i j := by
  refine ⟨(slot - counts.start kind) / kind.recordCount,
    (slot - counts.start kind) % kind.recordCount, ?_, Nat.mod_lt _ kind.recordCount_pos, ?_⟩
  · rw [Nat.div_lt_iff_lt_mul kind.recordCount_pos, Nat.mul_comm]
    omega
  · rw [PerKind.slot, Nat.div_add_mod]
    omega

/-- Every slot in use but the first one has a record of some light. -/
theorem exists_slot (hfirst : 0 < slot) (hslot : slot < 1 + counts.recordTotal) :
    ∃ kind i j, i < counts.get kind ∧ j < kind.recordCount ∧ slot = counts.slot kind i j := by
  rw [recordTotal_eq] at hslot
  have hparts : ∃ kind, counts.start kind ≤ slot ∧
      slot < counts.start kind + kind.recordCount * counts.get kind := by
    rcases Nat.lt_or_ge slot (counts.start .directional) with hambient | hambient
    · refine ⟨.ambient, hfirst, ?_⟩
      simp only [start, LightKind.recordCount, get] at *
      omega
    rcases Nat.lt_or_ge slot (counts.start .point) with hdirectional | hdirectional
    · exact ⟨.directional, hambient, hdirectional⟩
    rcases Nat.lt_or_ge slot (counts.start .spot) with hpoint | hpoint
    · exact ⟨.point, hdirectional, hpoint⟩
    · refine ⟨.spot, hpoint, ?_⟩
      simp only [start, LightKind.recordCount, get] at *
      omega
  obtain ⟨kind, hstart, hstop⟩ := hparts
  exact ⟨kind, exists_slot_of_kind hstart hstop⟩

/-- Whether a slot has the position of a light. -/
def IsPosition (counts : PerKind Nat) (slot : Nat) : Prop :=
  (∃ i < counts.point, slot = counts.slot .point i 1) ∨
    ∃ i < counts.spot, slot = counts.slot .spot i 1

theorem isPosition_of_place {kind : LightKind} {i j : Nat} (hi : i < counts.get kind)
    (hplace : kind.positionPlace? = some j) : counts.IsPosition (counts.slot kind i j) := by
  cases kind <;> cases hplace
  · exact .inl ⟨i, hi, rfl⟩
  · exact .inr ⟨i, hi, rfl⟩

end PerKind

/-! ## Packs of two states -/

namespace ViewLights

/-- Two states with the same room that collected the same lights, each light under matrices with the
same upper block.  All else may differ, what the data of the states has included. -/
structure SameUpperBlocks (v w : ViewLights) : Prop where
  room : v.lightData.length = w.lightData.length
  lights : ∀ kind, List.Forall₂ FoundLight.SameLinear (v.foundOf kind) (w.foundOf kind)

theorem blocks_eq (v : ViewLights) (kind : LightKind) :
    v.blocks kind = (v.foundOf kind).map FoundLight.records := by
  cases kind <;> simp [blocks, foundOf, FoundLight.records]

/-- A pack reports what does not fit, and then what there is to say of the lights that it packs. -/
theorem packNotices_eq (v : ViewLights) :
    v.packNotices = (v.fitting.overflow.toList.map fun (kind, dropped) =>
      .capacityExceeded v.lightData.length dropped kind) ++
        v.packedLights.flatMap FoundLight.notices := by
  have hlights : v.packedLights.flatMap FoundLight.notices =
      ((v.directional.take v.fitting.counts.directional).flatMap fun p =>
        p.modelView.directionNotices p.light.direction) ++
      (v.spot.take v.fitting.counts.spot).flatMap fun p =>
        p.modelView.directionNotices p.light.direction := by
    have hquiet {α : Type} (lights : List α) : lights.flatMap (fun _ => ([] : List Notice)) = [] :=
      List.flatMap_eq_nil_iff.mpr fun _ _ => rfl
    rw [packedLights, foundFirst, pack_packedCounts]
    simp [LightKind.all, foundOf, PerKind.get, ← List.map_take, List.flatMap_map,
      FoundLight.notices, hquiet]
  rw [hlights, packNotices]
  cases v.fitting.overflow <;> simp

namespace SameUpperBlocks

variable {v w : ViewLights}

theorem counts (h : v.SameUpperBlocks w) : v.counts = w.counts := by
  have hkinds : ∀ kind, v.counts.get kind = w.counts.get kind := by
    intro kind
    rw [← v.foundOf_length, ← w.foundOf_length, (h.lights kind).length_eq]
  exact PerKind.mk.injEq .. ▸
    ⟨hkinds .ambient, hkinds .directional, hkinds .point, hkinds .spot⟩

/-- Which lights fit depends on their numbers and the room alone. -/
theorem fitting (h : v.SameUpperBlocks w) : v.fitting = w.fitting := by
  rw [ViewLights.fitting, ViewLights.fitting, h.room, h.counts]

theorem packedCounts (h : v.SameUpperBlocks w) : v.pack.packedCounts = w.pack.packedCounts := by
  rw [pack_packedCounts, pack_packedCounts, h.fitting]

theorem packedRecords (h : v.SameUpperBlocks w) : v.pack.packedRecords = w.pack.packedRecords := by
  rw [pack_packedRecords, pack_packedRecords, h.packedCounts]

theorem packedLights (h : v.SameUpperBlocks w) :
    List.Forall₂ FoundLight.SameLinear v.packedLights w.packedLights := by
  rw [ViewLights.packedLights, ViewLights.packedLights, foundFirst, foundFirst, h.packedCounts]
  have hkinds : List.Forall₂ Eq LightKind.all LightKind.all := List.forall₂_same.mpr fun _ _ => rfl
  refine List.rel_flatMap hkinds fun kind kind' hkind => ?_
  cases hkind
  exact List.forall₂_take _ (h.lights kind)

theorem packNotices (h : v.SameUpperBlocks w) : v.packNotices = w.packNotices := by
  have hlights : v.packedLights.flatMap FoundLight.notices =
      w.packedLights.flatMap FoundLight.notices := by
    refine List.forall₂_eq_eq_eq ▸ List.rel_flatMap h.packedLights fun a b hab => ?_
    exact List.forall₂_eq_eq_eq ▸ hab.notices
  rw [packNotices_eq, packNotices_eq, h.fitting, h.room, hlights]

/-- Records of a packed light in both states. -/
theorem record_of_light (h : v.SameUpperBlocks w) {kind : LightKind} {i j : Nat}
    (hi : i < v.pack.packedCounts.get kind) (hj : j < kind.recordCount) :
    ∃ r r', v.pack.lightData[v.pack.packedCounts.slot kind i j]? = some r ∧
      w.pack.lightData[v.pack.packedCounts.slot kind i j]? = some r' ∧
      r.AgreesBeside (v.pack.packedCounts.IsPosition (v.pack.packedCounts.slot kind i j)) r' := by
  have hi' : i < v.fitting.counts.get kind := hi
  have hslot : v.pack.packedCounts.slot kind i j < v.pack.packedRecords := by
    rw [pack_packedRecords]
    exact PerKind.slot_lt hi hj
  have hfound : i < (v.foundOf kind).length := by
    rw [v.foundOf_length]
    exact Nat.lt_of_lt_of_le hi (v.fitting_le.1 kind)
  have hfound' : i < (w.foundOf kind).length := by
    rwa [← (h.lights kind).length_eq]
  have hlight : ((v.foundOf kind)[i]).SameLinear (w.foundOf kind)[i] :=
    (h.lights kind).get hfound hfound'
  have hkind : ((v.foundOf kind)[i]).kind = kind := kind_of_mem_foundOf (List.getElem_mem hfound)
  obtain ⟨r, r', hr, hr', hagrees⟩ := hlight.records (hkind.symm ▸ hj)
  refine ⟨r, r', ?_, ?_, hagrees.1, fun hposition => hagrees.2 fun hplace => ?_⟩
  · rw [v.pack_getElem?_of_lt hslot]
    refine (recordsOf_getElem? v.fitting_le.1 hi hj).trans ?_
    rw [blocks_eq, List.getElem?_map, List.getElem?_eq_getElem hfound]
    exact hr
  · rw [w.pack_getElem?_of_lt (h.packedRecords ▸ hslot), h.packedCounts]
    refine (recordsOf_getElem? w.fitting_le.1 (h.fitting ▸ hi') hj).trans ?_
    rw [blocks_eq, List.getElem?_map, List.getElem?_eq_getElem hfound']
    exact hr'
  · exact hposition (PerKind.isPosition_of_place hi (hkind ▸ hplace))

theorem record (h : v.SameUpperBlocks w) {slot : Nat} (hslot : slot < v.pack.packedRecords) :
    ∃ r r', v.pack.lightData[slot]? = some r ∧ w.pack.lightData[slot]? = some r' ∧
      r.AgreesBeside (v.pack.packedCounts.IsPosition slot) r' := by
  rcases Nat.eq_zero_or_pos slot with rfl | hfirst
  · refine ⟨_, _, v.pack_header, w.pack_header, .of_eq ?_⟩
    rw [h.packedCounts]
  · rw [pack_packedRecords] at hslot
    obtain ⟨kind, i, j, hi, hj, rfl⟩ := PerKind.exists_slot hfirst hslot
    exact h.record_of_light hi hj

end SameUpperBlocks

/-- What packs of two states have in common, and where their records may differ. -/
structure PacksAlike (v w : ViewLights) : Prop where
  counts : v.pack.packedCounts = w.pack.packedCounts
  records : v.pack.packedRecords = w.pack.packedRecords
  notices : v.packNotices = w.packNotices
  /-- Performed in any two worlds, the packs report the same to them. -/
  reported : ∀ {σ τ : Type} (env : LightSurroundings σ) (env' : LightSurroundings τ)
    (world : World σ) (world' : World τ),
      (LightOperation.pack.perform env ⟨v, world⟩).world.notices =
        world.notices ++ v.packNotices ∧
      (LightOperation.pack.perform env' ⟨w, world'⟩).world.notices =
        world'.notices ++ v.packNotices
  /-- A slot that is written has the same record, except for the position of a point light or a spot
  light, and of that the fourth component is the same. -/
  slots : ∀ slot < v.pack.packedRecords, ∃ r r', v.pack.lightData[slot]? = some r ∧
    w.pack.lightData[slot]? = some r' ∧
    r.AgreesBeside (v.pack.packedCounts.IsPosition slot) r'
  /-- The fourth component beside the position of a point light is zero. -/
  point : ∀ i < v.pack.packedCounts.point, ∃ r,
    v.pack.lightData[v.pack.packedCounts.slot .point i 1]? = some r ∧ r.w = .zero
  /-- The fourth component beside the position of a spot light is the cosine of its inner angle. -/
  spot : ∀ i < v.pack.packedCounts.spot, ∃ m light r, v.spot[i]? = some ⟨m, light⟩ ∧
    v.pack.lightData[v.pack.packedCounts.slot .spot i 1]? = some r ∧
    r.w = .ofFloat light.innerAngle.cos

end ViewLights

/-- Take two states with the same room, whatever it is, that collected the same lights under
matrices with the same upper blocks, whatever else the matrices have.  A pack takes the same lights
in both and reports the same.  The records it writes differ in the first three components of
positions at most: neither directions, those under singular matrices included, nor cosines depend
on the translation column or the bottom row. -/
theorem only_positions_see_translations {v w : ViewLights} (h : v.SameUpperBlocks w) :
    v.PacksAlike w where
  counts := h.packedCounts
  records := h.packedRecords
  notices := h.packNotices
  reported _ _ _ world' := ⟨rfl, congrArg (world'.notices ++ ·) h.packNotices.symm⟩
  slots _ hslot := h.record hslot
  point i hi := by
    obtain ⟨placed, -, hrecords⟩ := v.pack_block .point rfl hi
    exact ⟨_, hrecords 1 (by decide), Vec3.toRecord_w _ _⟩
  spot i hi := by
    obtain ⟨⟨m, light⟩, hplaced, hrecords⟩ := v.pack_block .spot rfl hi
    exact ⟨m, light, _, hplaced, hrecords 1 (by decide), Vec3.toRecord_w _ _⟩

/-- A light of each kind, all found under one matrix. -/
def oneOfEach (m : ModelView) : ViewLights :=
  { ViewLights.ofCapacities 9 1 with
    ambient := [⟨⟨⟨1⟩, ⟨2⟩, ⟨3⟩, ⟨4⟩⟩⟩]
    directional := [⟨m, ⟨⟨⟨5⟩, ⟨6⟩, ⟨7⟩, ⟨8⟩⟩, ⟨0, 3, 4⟩⟩⟩]
    point := [⟨m, ⟨⟨⟨9⟩, ⟨10⟩, ⟨11⟩, ⟨12⟩⟩, ⟨1, 2, 3⟩⟩⟩]
    spot := [⟨m, ⟨⟨⟨13⟩, ⟨14⟩, ⟨15⟩, ⟨16⟩⟩, ⟨1, 2, 3⟩, ⟨0, 0, -1⟩, 0, 1⟩⟩] }

theorem oneOfEach_sameUpperBlocks {m m' : ModelView} (hlinear : m.linear = m'.linear) :
    (oneOfEach m).SameUpperBlocks (oneOfEach m') where
  room := rfl
  lights kind := by
    cases kind with
    | ambient => exact .cons (.ambient _) .nil
    | directional => exact .cons (.directional hlinear _) .nil
    | point => exact .cons (.point hlinear _) .nil
    | spot => exact .cons (.spot hlinear _) .nil

/-- There is just room for all four lights. -/
theorem oneOfEach_packedCounts (m : ModelView) :
    (oneOfEach m).pack.packedCounts = ⟨1, 1, 1, 1⟩ := by
  have hfitting : (oneOfEach m).fitting = .ofCapacity 9 ⟨1, 1, 1, 1⟩ := rfl
  rw [ViewLights.pack_packedCounts, hfitting]
  rfl

theorem oneOfEach_position (m : ModelView) :
    (oneOfEach m).pack.lightData[5]? = some ((m.position ⟨1, 2, 3⟩).toRecord .zero) := by
  have hpoint : 0 < (oneOfEach m).pack.packedCounts.get .point := by
    rw [oneOfEach_packedCounts]
    decide
  obtain ⟨placed, hplaced, hrecords⟩ := (oneOfEach m).pack_block .point rfl hpoint
  cases hplaced
  have hrecord := hrecords 1 (by decide)
  rw [oneOfEach_packedCounts] at hrecord
  exact hrecord

/-- The identity with a translation and a bottom row. -/
def ModelView.shift (translation perspective : Vec3) : ModelView :=
  { identity with translation, perspective }

theorem ModelView.shift_linear (translation perspective : Vec3) :
    identity.linear = (shift translation perspective).linear := rfl

/-- The records of the four lights agree, but not in the position of the point light. -/
theorem shifted_positions_differ :
    (oneOfEach .identity).SameUpperBlocks (oneOfEach (.shift ⟨4, 5, 6⟩ ⟨0, 0, 1⟩)) ∧
      (oneOfEach .identity).pack.packedCounts = ⟨1, 1, 1, 1⟩ ∧
      (oneOfEach .identity).PacksAlike (oneOfEach (.shift ⟨4, 5, 6⟩ ⟨0, 0, 1⟩)) ∧
      (oneOfEach .identity).pack.lightData[5]? ≠
        (oneOfEach (.shift ⟨4, 5, 6⟩ ⟨0, 0, 1⟩)).pack.lightData[5]? := by
  have hblocks : (oneOfEach .identity).SameUpperBlocks (oneOfEach (.shift ⟨4, 5, 6⟩ ⟨0, 0, 1⟩)) :=
    oneOfEach_sameUpperBlocks (ModelView.shift_linear _ _)
  have hposition : (ModelView.identity.position ⟨1, 2, 3⟩).toRecord .zero ≠
      ((ModelView.shift ⟨4, 5, 6⟩ ⟨0, 0, 1⟩).position ⟨1, 2, 3⟩).toRecord .zero := by
    decide +kernel
  refine ⟨hblocks, oneOfEach_packedCounts _, only_positions_see_translations hblocks, ?_⟩
  rw [oneOfEach_position, oneOfEach_position]
  exact mt Option.some.inj hposition

end FramesInFlight
