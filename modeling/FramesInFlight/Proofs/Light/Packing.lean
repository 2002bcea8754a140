import FramesInFlight.Proofs.Light.EyeSpace

/-!
# Where packed lights are

Four kinds of light share one array.  A light of a kind takes as many records as every other of that
kind, so where it is follows from the numbers of lights packed before it.

* `Fitting.take_le` bounds the lights that are taken by those collected and by the room for them,
  and `Fitting.take_full` says that a light is left out only when there is no room for it.
* `ViewLights.blocks` has the records of each light of a kind, and `recordsOf_split` cuts what a
  pack writes at the first record of a kind, `PerKind.start`.  `recordsOf_getElem?` is the address
  of a record that follows from it.
* `pack_getElem?` says what a slot has after a pack: a record of the pack, or what it had.
* `pack_lays_out_lights` puts this together, kind by kind, with the positions and directions that
  the entries of the matrices give.
-/

namespace FramesInFlight

/-! ## Lights that fit -/

theorem LightKind.recordCount_pos (kind : LightKind) : 0 < kind.recordCount := by
  cases kind <;> decide

namespace PerKind

theorem recordTotal_eq (counts : PerKind Nat) :
    counts.recordTotal =
      counts.ambient + 2 * counts.directional + 2 * counts.point + 3 * counts.spot := by
  simp only [recordTotal, LightKind.all, List.foldl_cons, List.foldl_nil, get,
    LightKind.recordCount]
  omega

theorem get_set {α : Type} (p : PerKind α) (kind other : LightKind) (a : α) :
    (p.set kind a).get other = if other = kind then a else p.get other := by
  cases kind <;> cases other <;> rfl

/-- Lights of one kind add no more than their own records. -/
theorem recordTotal_set_le (counts : PerKind Nat) (kind : LightKind) (n : Nat) :
    (counts.set kind n).recordTotal ≤ counts.recordTotal + n * kind.recordCount := by
  rw [recordTotal_eq, recordTotal_eq]
  cases kind <;> simp only [set, LightKind.recordCount] <;> omega

/-- Where there was no light of the kind, they add just their own records. -/
theorem recordTotal_set_of_none {counts : PerKind Nat} {kind : LightKind}
    (hnone : counts.get kind = 0) (n : Nat) :
    (counts.set kind n).recordTotal = counts.recordTotal + n * kind.recordCount := by
  rw [recordTotal_eq, recordTotal_eq]
  cases kind <;> simp only [get] at hnone <;> simp only [set, LightKind.recordCount] <;> omega

end PerKind

/-- No more lights are taken than there are, and no more than have room.  The induction is on the
kinds still to come; what was taken before counts against neither. -/
theorem Fitting.take_le {available counts : PerKind Nat} (kinds : List LightKind) (room : Nat)
    (havailable : ∀ kind, counts.get kind ≤ available.get kind) :
    (∀ kind, (take available counts kinds room).counts.get kind ≤ available.get kind) ∧
      (take available counts kinds room).counts.recordTotal ≤ counts.recordTotal + room := by
  induction kinds generalizing counts room with
  | nil => exact ⟨havailable, Nat.le_add_right _ _⟩
  | cons kind later ih =>
    rw [take]
    generalize hfit : min (available.get kind) (room / kind.recordCount) = fit
    have hmore : ∀ other, (counts.set kind fit).get other ≤ available.get other := by
      intro other
      rw [PerKind.get_set]
      split
      · rename_i hother
        rw [hother, ← hfit]
        exact Nat.min_le_left _ _
      · exact havailable other
    have hroom : fit * kind.recordCount ≤ room := by
      rw [← hfit]
      exact Nat.le_trans (Nat.mul_le_mul_right _ (Nat.min_le_right _ _)) (Nat.div_mul_le_self _ _)
    have htotal := counts.recordTotal_set_le kind fit
    split
    · exact ⟨hmore, Nat.le_trans htotal (by omega)⟩
    · obtain ⟨hwithin, hlater⟩ := ih (room - fit * kind.recordCount) hmore
      exact ⟨hwithin, by omega⟩

/-- A light is left out only when there is no room for it.  Later kinds are at least as wide, so
where a light of one kind does not fit, one of a later kind would not either.  The induction also
keeps that of kinds outside the list, just what was taken before is taken. -/
theorem Fitting.take_full {available counts : PerKind Nat} {kinds : List LightKind} (room : Nat)
    (hkinds : kinds.Pairwise fun kind later => later ≠ kind ∧ kind.recordCount ≤ later.recordCount)
    (hnone : ∀ kind ∈ kinds, counts.get kind = 0) :
    (∀ kind ∉ kinds, (take available counts kinds room).counts.get kind = counts.get kind) ∧
      ∀ kind ∈ kinds,
        (take available counts kinds room).counts.get kind < available.get kind →
          counts.recordTotal + room <
            (take available counts kinds room).counts.recordTotal + kind.recordCount := by
  induction kinds generalizing counts room with
  | nil => exact ⟨fun _ _ => rfl, by simp⟩
  | cons kind later ih =>
    obtain ⟨hwidth, hlater⟩ := List.pairwise_cons.mp hkinds
    obtain ⟨hkind, hothers⟩ := List.forall_mem_cons.mp hnone
    rw [take]
    generalize hfit : min (available.get kind) (room / kind.recordCount) = fit
    have htotal := PerKind.recordTotal_set_of_none hkind fit
    split
    · rename_i hless
      refine ⟨fun other hother => ?_, fun other hother _ => ?_⟩
      · rw [PerKind.get_set, if_neg (List.ne_of_not_mem_cons hother)]
      · have hquotient : fit = room / kind.recordCount := by omega
        have hroom : room < fit * kind.recordCount + kind.recordCount := by
          rw [hquotient]
          exact Nat.lt_div_mul_add kind.recordCount_pos
        have hwide : kind.recordCount ≤ other.recordCount := by
          rcases List.mem_cons.mp hother with rfl | hother
          · exact Nat.le_refl _
          · exact (hwidth other hother).2
        dsimp only
        omega
    · rename_i hall
      have hother : ∀ other, other ≠ kind →
          (counts.set kind fit).get other = counts.get other := by
        intro other hother
        rw [PerKind.get_set, if_neg hother]
      have hlaterNone : ∀ other ∈ later, (counts.set kind fit).get other = 0 := by
        intro other hmem
        rw [hother other (hwidth other hmem).1]
        exact hothers other hmem
      obtain ⟨hkept, hfull⟩ := ih (room - fit * kind.recordCount) hlater hlaterNone
      refine ⟨fun other houtside => ?_, fun other hmem hless => ?_⟩
      · rw [hkept other (List.not_mem_of_not_mem_cons houtside),
          hother other (List.ne_of_not_mem_cons houtside)]
      · rcases List.mem_cons.mp hmem with rfl | hmem
        · -- Of this kind, all were taken.
          rw [hkept other fun hmem => (hwidth other hmem).1 rfl, PerKind.get_set, if_pos rfl]
            at hless
          exact absurd hless hall
        · have hlack := hfull other hmem hless
          omega

namespace ViewLights

/-- A pack takes no more lights than were collected, and leaves room for the record of counts. -/
theorem fitting_le (v : ViewLights) :
    (∀ kind, v.fitting.counts.get kind ≤ v.counts.get kind) ∧
      v.fitting.counts.recordTotal ≤ v.lightData.length - 1 := by
  have hnone : ∀ kind, (PerKind.replicate 0).get kind ≤ v.counts.get kind := by
    intro kind
    cases kind <;> exact Nat.zero_le _
  obtain ⟨hwithin, hroom⟩ := Fitting.take_le LightKind.all (v.lightData.length - 1) hnone
  have hnothing : (PerKind.replicate 0).recordTotal = 0 := rfl
  rw [hnothing, Nat.zero_add] at hroom
  exact ⟨hwithin, hroom⟩

/-- There is no room for a light that a pack leaves out. -/
theorem fitting_full (v : ViewLights) {kind : LightKind}
    (hless : v.fitting.counts.get kind < v.counts.get kind) :
    v.lightData.length - 1 < v.fitting.counts.recordTotal + kind.recordCount := by
  have hnone : ∀ kind ∈ LightKind.all, (PerKind.replicate 0).get kind = 0 := by decide
  have hall : kind ∈ LightKind.all := by cases kind <;> decide
  have hfull := (Fitting.take_full (v.lightData.length - 1) (by decide) hnone).2 kind hall hless
  have hnothing : (PerKind.replicate 0).recordTotal = 0 := rfl
  rwa [hnothing, Nat.zero_add] at hfull

/-! ## Records by kind -/

/-- The records of the lights collected of a kind, light by light. -/
def blocks (v : ViewLights) : LightKind → List (List Record)
  | .ambient => v.ambient.map AmbientLight.records
  | .directional => v.directional.map Placed.directionalRecords
  | .point => v.point.map Placed.pointRecords
  | .spot => v.spot.map Placed.spotRecords

theorem blocks_length (v : ViewLights) (kind : LightKind) :
    (v.blocks kind).length = v.counts.get kind := by
  cases kind <;> exact List.length_map _

/-- Lights of one kind take the same number of records. -/
theorem length_of_mem_blocks {v : ViewLights} {kind : LightKind} {block : List Record}
    (hblock : block ∈ v.blocks kind) : block.length = kind.recordCount := by
  cases kind <;>
    · obtain ⟨_, _, rfl⟩ := List.mem_map.mp hblock
      rfl

/-- The records of the first lights of a kind, as many as `counts` says. -/
def chunk (v : ViewLights) (counts : PerKind Nat) (kind : LightKind) : List Record :=
  ((v.blocks kind).take (counts.get kind)).flatten

theorem chunk_length {v : ViewLights} {counts : PerKind Nat} {kind : LightKind}
    (hcount : counts.get kind ≤ v.counts.get kind) :
    (v.chunk counts kind).length = counts.get kind * kind.recordCount := by
  have hwidths : ∀ width ∈ ((v.blocks kind).take (counts.get kind)).map List.length,
      width = kind.recordCount := by
    intro width hwidth
    obtain ⟨block, hblock, rfl⟩ := List.mem_map.mp hwidth
    exact length_of_mem_blocks (List.mem_of_mem_take hblock)
  have htaken : ((v.blocks kind).take (counts.get kind)).length = counts.get kind :=
    List.length_take_of_le (by rwa [v.blocks_length])
  rw [chunk, List.length_flatten, List.eq_replicate_of_mem hwidths, List.sum_replicate_nat,
    List.length_map, htaken]

theorem recordsOf_eq (v : ViewLights) (counts : PerKind Nat) :
    v.recordsOf counts = countsRecord counts ::
      (v.chunk counts .ambient ++ v.chunk counts .directional ++ v.chunk counts .point ++
        v.chunk counts .spot) := by
  simp only [recordsOf, chunk, blocks, PerKind.get, List.flatMap_def, List.map_take]

end ViewLights

/-! ## Addresses -/

/-- The slot of the first record of a kind. -/
def PerKind.start (counts : PerKind Nat) : LightKind → Nat
  | .ambient => 1
  | .directional => 1 + counts.ambient
  | .point => 1 + counts.ambient + 2 * counts.directional
  | .spot => 1 + counts.ambient + 2 * counts.directional + 2 * counts.point

/-- The slot of a record of a light of a kind. -/
def PerKind.slot (counts : PerKind Nat) (kind : LightKind) (i j : Nat) : Nat :=
  counts.start kind + (kind.recordCount * i + j)

theorem PerKind.slot_lt {counts : PerKind Nat} {kind : LightKind} {i j : Nat}
    (hi : i < counts.get kind) (hj : j < kind.recordCount) :
    counts.slot kind i j < 1 + counts.recordTotal := by
  rw [recordTotal_eq]
  cases kind <;> simp only [get, LightKind.recordCount, slot, start] at * <;> omega

/-- A record of blocks of one width, by the number of its block and its place there. -/
theorem getElem?_flatten_of_width {α : Type} {blocks : List (List α)} {width i j : Nat}
    (hwidth : ∀ block ∈ blocks, block.length = width) (hj : j < width) :
    blocks.flatten[width * i + j]? = blocks[i]?.bind (·[j]?) := by
  induction blocks generalizing i with
  | nil => simp
  | cons block later ih =>
    obtain ⟨hblock, hlater⟩ := List.forall_mem_cons.mp hwidth
    rw [List.flatten_cons]
    cases i with
    | zero =>
      rw [Nat.mul_zero, Nat.zero_add, List.getElem?_append_left (hblock ▸ hj)]
      rfl
    | succ i =>
      have hnext : width * (i + 1) + j = block.length + (width * i + j) := by
        rw [hblock, Nat.mul_succ]
        omega
      rw [hnext, List.getElem?_append_right (Nat.le_add_right _ _), Nat.add_sub_cancel_left,
        ih hlater]
      rfl

/-- A list whose first entries are overwritten. -/
theorem getElem?_overwrite {α : Type} (new old : List α) (i : Nat) :
    (new ++ old.drop new.length)[i]? = new[i]?.or old[i]? := by
  rcases Nat.lt_or_ge i new.length with hi | hi
  · rw [List.getElem?_append_left hi, List.getElem?_eq_getElem hi, Option.some_or]
  · rw [List.getElem?_append_right hi, List.getElem?_drop, Nat.add_sub_cancel' hi,
      List.getElem?_eq_none hi, Option.none_or]

namespace ViewLights

variable {v : ViewLights} {counts : PerKind Nat} {kind : LightKind} {i j slot : Nat}

theorem recordsOf_length (hcounts : ∀ kind, counts.get kind ≤ v.counts.get kind) :
    (v.recordsOf counts).length = 1 + counts.recordTotal := by
  rw [recordsOf_eq, PerKind.recordTotal_eq]
  simp only [List.length_cons, List.length_append, chunk_length (hcounts _), PerKind.get,
    LightKind.recordCount]
  omega

/-- What a pack writes, cut around the records of a kind. -/
theorem recordsOf_split (hcounts : ∀ kind, counts.get kind ≤ v.counts.get kind)
    (kind : LightKind) :
    ∃ before after, v.recordsOf counts = before ++ (v.chunk counts kind ++ after) ∧
      before.length = counts.start kind := by
  rw [recordsOf_eq]
  cases kind with
  | ambient =>
    refine ⟨[countsRecord counts], v.chunk counts .directional ++ (v.chunk counts .point ++
      v.chunk counts .spot), by simp, rfl⟩
  | directional =>
    refine ⟨countsRecord counts :: v.chunk counts .ambient, v.chunk counts .point ++
      v.chunk counts .spot, by simp, ?_⟩
    simp only [List.length_cons, chunk_length (hcounts _), PerKind.get, LightKind.recordCount,
      PerKind.start]
    omega
  | point =>
    refine ⟨countsRecord counts :: (v.chunk counts .ambient ++ v.chunk counts .directional),
      v.chunk counts .spot, by simp, ?_⟩
    simp only [List.length_cons, List.length_append, chunk_length (hcounts _), PerKind.get,
      LightKind.recordCount, PerKind.start]
    omega
  | spot =>
    refine ⟨countsRecord counts :: (v.chunk counts .ambient ++ v.chunk counts .directional ++
      v.chunk counts .point), [], by simp, ?_⟩
    simp only [List.length_cons, List.length_append, chunk_length (hcounts _), PerKind.get,
      LightKind.recordCount, PerKind.start]
    omega

/-- Record `j` of light `i` of a kind is in its slot. -/
theorem recordsOf_getElem? (hcounts : ∀ kind, counts.get kind ≤ v.counts.get kind)
    (hi : i < counts.get kind) (hj : j < kind.recordCount) :
    (v.recordsOf counts)[counts.slot kind i j]? = (v.blocks kind)[i]?.bind (·[j]?) := by
  obtain ⟨before, after, hsplit, hstart⟩ := recordsOf_split hcounts kind
  have hinside : kind.recordCount * i + j < (v.chunk counts kind).length := by
    rw [chunk_length (hcounts kind)]
    calc kind.recordCount * i + j < kind.recordCount * i + kind.recordCount := by omega
      _ = kind.recordCount * (i + 1) := (Nat.mul_succ _ _).symm
      _ ≤ kind.recordCount * counts.get kind := Nat.mul_le_mul_left _ hi
      _ = counts.get kind * kind.recordCount := Nat.mul_comm _ _
  rw [PerKind.slot, hsplit, ← hstart, List.getElem?_append_right (Nat.le_add_right _ _),
    Nat.add_sub_cancel_left, List.getElem?_append_left hinside, chunk,
    getElem?_flatten_of_width (fun block hblock =>
      length_of_mem_blocks (List.mem_of_mem_take hblock)) hj, List.getElem?_take_of_lt hi]

/-! ## What a slot has after a pack -/

theorem pack_packedCounts (v : ViewLights) : v.pack.packedCounts = v.fitting.counts := rfl

theorem pack_header (v : ViewLights) :
    v.pack.lightData[0]? = some (countsRecord v.pack.packedCounts) := rfl

theorem pack_packedRecords (v : ViewLights) :
    v.pack.packedRecords = 1 + v.pack.packedCounts.recordTotal :=
  recordsOf_length v.fitting_le.1

theorem pack_within (v : ViewLights) (hroom : 0 < v.lightData.length) :
    v.pack.packedRecords ≤ v.lightData.length := by
  have hfits := v.fitting_le.2
  rw [pack_packedRecords, pack_packedCounts]
  omega

/-- A pack overwrites slots and adds none. -/
theorem pack_length (v : ViewLights) (hroom : 0 < v.lightData.length) :
    v.pack.lightData.length = v.lightData.length := by
  have hwithin := v.pack_within hroom
  change (v.recordsOf v.fitting.counts).length ≤ _ at hwithin
  rw [pack, List.length_append, List.length_drop]
  omega

/-- A slot has a record of the last pack, if that wrote it, and what it had otherwise. -/
theorem pack_getElem? (v : ViewLights) (slot : Nat) :
    v.pack.lightData[slot]? =
      (v.recordsOf v.fitting.counts)[slot]?.or v.lightData[slot]? :=
  getElem?_overwrite _ _ slot

theorem pack_getElem?_of_lt (v : ViewLights) (hslot : slot < v.pack.packedRecords) :
    v.pack.lightData[slot]? = (v.recordsOf v.fitting.counts)[slot]? := by
  rw [pack_getElem?, List.getElem?_eq_getElem hslot, Option.some_or]

theorem pack_getElem?_of_le (v : ViewLights) (hslot : v.pack.packedRecords ≤ slot) :
    v.pack.lightData[slot]? = v.lightData[slot]? := by
  rw [pack_getElem?, List.getElem?_eq_none hslot, Option.none_or]

/-- The records of a packed light are in the slots of the light. -/
theorem pack_block (v : ViewLights) (kind : LightKind) {α : Type} {lights : List α}
    {records : α → List Record} (hblocks : v.blocks kind = lights.map records)
    (hi : i < v.pack.packedCounts.get kind) :
    ∃ light, lights[i]? = some light ∧ ∀ j < kind.recordCount,
      v.pack.lightData[v.pack.packedCounts.slot kind i j]? = (records light)[j]? := by
  have hlength : i < lights.length := by
    have hcollected := Nat.lt_of_lt_of_le hi (v.fitting_le.1 kind)
    rwa [← blocks_length, hblocks, List.length_map] at hcollected
  refine ⟨lights[i], List.getElem?_eq_getElem hlength, fun j hj => ?_⟩
  have hslot := PerKind.slot_lt hi hj
  rw [← pack_packedRecords] at hslot
  rw [pack_getElem?_of_lt v hslot]
  refine (recordsOf_getElem? v.fitting_le.1 hi hj).trans ?_
  rw [hblocks, List.getElem?_map, List.getElem?_eq_getElem hlength]
  rfl

end ViewLights

/-! ## The layout -/

/-- The lights `v`, of each kind the first ones that `counts` says, are laid out in the first
`records` slots of `data`; the slots after them are those of `v`.  Each light is in eye space, where
its own matrix takes it. -/
structure ViewLights.LaidOut (v : ViewLights) (counts : PerKind Nat) (records : Nat)
    (data : List Record) : Prop where
  within : ∀ kind, counts.get kind ≤ v.counts.get kind
  total : records =
    1 + counts.ambient + 2 * counts.directional + 2 * counts.point + 3 * counts.spot
  room : records ≤ data.length
  /-- A light that is left out has no room. -/
  full : ∀ kind, counts.get kind < v.counts.get kind → data.length < records + kind.recordCount
  length : data.length = v.lightData.length
  header : data[0]? = some
    ⟨.ofNat counts.ambient, .ofNat counts.directional, .ofNat counts.point, .ofNat counts.spot⟩
  ambient : ∀ i < counts.ambient, ∃ light, v.ambient[i]? = some light ∧
    data[1 + i]? = some ⟨light.emission.red, light.emission.green, light.emission.blue,
      light.emission.intensity⟩
  directional : ∀ i < counts.directional, ∃ m light eye,
    v.directional[i]? = some ⟨m, light⟩ ∧ m.TakesDirection light.direction eye ∧
    data[1 + counts.ambient + 2 * i]? = some ⟨light.emission.red, light.emission.green,
      light.emission.blue, light.emission.intensity⟩ ∧
    data[1 + counts.ambient + 2 * i + 1]? =
      some ⟨.ofFloat eye.x, .ofFloat eye.y, .ofFloat eye.z, .zero⟩
  point : ∀ i < counts.point, ∃ m light eye,
    v.point[i]? = some ⟨m, light⟩ ∧ m.TakesPosition light.position eye ∧
    data[1 + counts.ambient + 2 * counts.directional + 2 * i]? = some ⟨light.emission.red,
      light.emission.green, light.emission.blue, light.emission.intensity⟩ ∧
    data[1 + counts.ambient + 2 * counts.directional + 2 * i + 1]? =
      some ⟨.ofFloat eye.x, .ofFloat eye.y, .ofFloat eye.z, .zero⟩
  spot : ∀ i < counts.spot, ∃ m light place eye,
    v.spot[i]? = some ⟨m, light⟩ ∧ m.TakesPosition light.position place ∧
    m.TakesDirection light.direction eye ∧
    data[1 + counts.ambient + 2 * counts.directional + 2 * counts.point + 3 * i]? =
      some ⟨light.emission.red, light.emission.green, light.emission.blue,
        light.emission.intensity⟩ ∧
    data[1 + counts.ambient + 2 * counts.directional + 2 * counts.point + 3 * i + 1]? =
      some ⟨.ofFloat place.x, .ofFloat place.y, .ofFloat place.z, .ofFloat light.innerAngle.cos⟩ ∧
    data[1 + counts.ambient + 2 * counts.directional + 2 * counts.point + 3 * i + 2]? =
      some ⟨.ofFloat eye.x, .ofFloat eye.y, .ofFloat eye.z, .ofFloat light.outerAngle.cos⟩
  kept : ∀ slot, records ≤ slot → data[slot]? = v.lightData[slot]?

/-- Whatever lights were collected under whatever matrices, and whatever the light data of a state
of some capacity has, a pack lays out in it the lights that it counts, and leaves the slots after
them alone.  It leaves no light out that there is room for. -/
theorem pack_lays_out_lights (capacity : Nat) (v : ViewLights)
    (hcapacity : v.lightData.length = max capacity 1) :
    v.LaidOut v.pack.packedCounts v.pack.packedRecords v.pack.lightData := by
  have hroom : 0 < v.lightData.length := by omega
  have hlength := v.pack_length hroom
  refine ⟨v.fitting_le.1, ?_, hlength ▸ v.pack_within hroom, fun kind hless => ?_, hlength, rfl,
    fun i hi => ?_, fun i hi => ?_, fun i hi => ?_, fun i hi => ?_,
    fun slot => v.pack_getElem?_of_le⟩
  · rw [v.pack_packedRecords, PerKind.recordTotal_eq]
    omega
  · have hfull := v.fitting_full hless
    rw [hlength, v.pack_packedRecords, v.pack_packedCounts]
    omega
  · obtain ⟨light, hlight, hrecords⟩ := v.pack_block .ambient rfl hi
    refine ⟨light, hlight, ?_⟩
    have hslot : v.pack.packedCounts.slot .ambient i 0 = 1 + i :=
      congrArg (1 + ·) (Nat.one_mul i)
    rw [← hslot]
    exact hrecords 0 (by decide)
  · obtain ⟨⟨m, light⟩, hlight, hrecords⟩ := v.pack_block .directional rfl hi
    exact ⟨m, light, _, hlight, m.eyeDirection_takes _, hrecords 0 (by decide),
      hrecords 1 (by decide)⟩
  · obtain ⟨⟨m, light⟩, hlight, hrecords⟩ := v.pack_block .point rfl hi
    exact ⟨m, light, _, hlight, m.position_takes _, hrecords 0 (by decide),
      hrecords 1 (by decide)⟩
  · obtain ⟨⟨m, light⟩, hlight, hrecords⟩ := v.pack_block .spot rfl hi
    exact ⟨m, light, _, _, hlight, m.position_takes _, m.eyeDirection_takes _,
      hrecords 0 (by decide), hrecords 1 (by decide), hrecords 2 (by decide)⟩

/-- The fourth component of a record is beside the vector. -/
theorem Vec3.toRecord_of_zero {v : Vec3} {x y z : Single}
    (h : v.toRecord .zero = ⟨x, y, z, .zero⟩) (w : Single) : v.toRecord w = ⟨x, y, z, w⟩ := by
  simp only [toRecord, Record.mk.injEq, and_true] at h
  obtain ⟨rfl, rfl, rfl⟩ := h
  rfl

/-- A view that is stretched, shifted and seen in perspective. -/
def stretchedView : ModelView where
  linear := ⟨⟨2, 0, 0⟩, ⟨0, 1, 0⟩, ⟨0, 0, 1⟩⟩
  translation := ⟨1, 2, 3⟩
  perspective := ⟨0, 0, 1⟩
  corner := 1

/-- The same view, flattened. -/
def flatView : ModelView :=
  { stretchedView with linear := ⟨⟨0, 0, 0⟩, ⟨0, 1, 0⟩, ⟨0, 0, 1⟩⟩ }

/-- Lights of all kinds in an array of eleven slots that were written before.  There is room for one
of each kind, but not for the second spot light. -/
def crowdedLights : ViewLights where
  lightData := List.replicate 11 ⟨⟨1⟩, ⟨2⟩, ⟨3⟩, ⟨4⟩⟩
  viewportData := [.zero]
  ambient := [⟨⟨⟨5⟩, ⟨6⟩, ⟨7⟩, ⟨8⟩⟩⟩]
  directional := [⟨stretchedView, ⟨⟨⟨9⟩, ⟨10⟩, ⟨11⟩, ⟨12⟩⟩, ⟨6, 4, 0⟩⟩⟩]
  point := [⟨stretchedView, ⟨⟨⟨13⟩, ⟨14⟩, ⟨15⟩, ⟨16⟩⟩, ⟨1, 2, 3⟩⟩⟩]
  spot := [⟨flatView, ⟨⟨⟨17⟩, ⟨18⟩, ⟨19⟩, ⟨20⟩⟩, ⟨1, 2, 3⟩, ⟨0, 0, -2⟩, 0, 1⟩⟩,
    ⟨.identity, ⟨⟨⟨21⟩, ⟨22⟩, ⟨23⟩, ⟨24⟩⟩, ⟨1, 2, 3⟩, ⟨0, 0, -1⟩, 0, 1⟩⟩]

/-- The first nine slots are laid out and the other two keep what they had.  The direction and the
positions are those in eye space, and under the flattened view the direction is only scaled. -/
theorem crowded_lights_are_laid_out :
    crowdedLights.lightData.length = max 11 1 ∧
    crowdedLights.pack.packedCounts = ⟨1, 1, 1, 1⟩ ∧ crowdedLights.pack.packedRecords = 9 ∧
    crowdedLights.LaidOut crowdedLights.pack.packedCounts crowdedLights.pack.packedRecords
      crowdedLights.pack.lightData ∧
    -- (0.6, 0.8, 0, 0), (0.75, 1, 1.5, 0), (0.25, 1, 1.5, cos 0) and (0, 0, -1, cos 1)
    crowdedLights.pack.lightData[3]? = some ⟨⟨0x3f19999a⟩, ⟨0x3f4ccccd⟩, .zero, .zero⟩ ∧
    crowdedLights.pack.lightData[5]? = some ⟨⟨0x3f400000⟩, ⟨0x3f800000⟩, ⟨0x3fc00000⟩, .zero⟩ ∧
    crowdedLights.pack.lightData[7]? =
      some ⟨⟨0x3e800000⟩, ⟨0x3f800000⟩, ⟨0x3fc00000⟩, .ofFloat (Float.cos 0)⟩ ∧
    crowdedLights.pack.lightData[8]? =
      some ⟨.zero, .zero, ⟨0xbf800000⟩, .ofFloat (Float.cos 1)⟩ := by
  have hdirection : (stretchedView.eyeDirection ⟨6, 4, 0⟩).toRecord .zero =
      ⟨⟨0x3f19999a⟩, ⟨0x3f4ccccd⟩, .zero, .zero⟩ := by decide +kernel
  have hposition : (stretchedView.position ⟨1, 2, 3⟩).toRecord .zero =
      ⟨⟨0x3f400000⟩, ⟨0x3f800000⟩, ⟨0x3fc00000⟩, .zero⟩ := by decide +kernel
  have hplace : (flatView.position ⟨1, 2, 3⟩).toRecord .zero =
      ⟨⟨0x3e800000⟩, ⟨0x3f800000⟩, ⟨0x3fc00000⟩, .zero⟩ := by decide +kernel
  have hscaled : (flatView.eyeDirection ⟨0, 0, -2⟩).toRecord .zero =
      ⟨.zero, .zero, ⟨0xbf800000⟩, .zero⟩ := by decide +kernel
  refine ⟨rfl, rfl, rfl, pack_lays_out_lights 11 crowdedLights rfl, ?_, ?_, ?_, ?_⟩
  · exact congrArg some hdirection
  · exact congrArg some hposition
  · exact congrArg some (Vec3.toRecord_of_zero hplace _)
  · exact congrArg some (Vec3.toRecord_of_zero hscaled _)

end FramesInFlight
