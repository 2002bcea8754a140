import Mathlib.Algebra.Ring.Nat
import Mathlib.Data.List.Infix
import FramesInFlight.Proofs.Light.Packing
import FramesInFlight.Proofs.Light.Run

/-!
# What an overflow leaves out

When not all lights fit, a pack counts those that do kind by kind.  Seen as one sequence in packing
order, what it packs is cut off in one place.

* `ViewLights.found` is that sequence, and `FoundLight.recordTotal` the room that lights take.
* `Fitting.take_cuts` is the induction over the kinds: what is taken is a part of the sequence up to
  a first light that has no room, and the overflow names that light and counts what follows.
* `prefix_of_cut` says that such a part is the longest one that fits.
* `pack_keeps_longest_prefix` is the result for a pack performed in any world, with what it reports
  there.
-/

namespace FramesInFlight

variable {σ : Type}

/-! ## Lights in packing order -/

/-- A light as it was found, of any kind. -/
inductive FoundLight where
  | ambient (light : AmbientLight)
  | directional (placed : Placed DirectionalLight)
  | point (placed : Placed PointLight)
  | spot (placed : Placed SpotLight)

namespace FoundLight

/-- The kind of a light. -/
def kind : FoundLight → LightKind
  | ambient _ => .ambient
  | directional _ => .directional
  | point _ => .point
  | spot _ => .spot

/-- The records of a light. -/
def records : FoundLight → List Record
  | ambient light => light.records
  | directional placed => placed.directionalRecords
  | point placed => placed.pointRecords
  | spot placed => placed.spotRecords

theorem records_length (light : FoundLight) : light.records.length = light.kind.recordCount := by
  cases light <;> rfl

/-- Records that some lights take. -/
def recordTotal (lights : List FoundLight) : Nat := (lights.map (·.kind.recordCount)).sum

/-- The room that lights take is that of their records. -/
theorem length_records (lights : List FoundLight) :
    (lights.flatMap records).length = recordTotal lights := by
  rw [List.length_flatMap, recordTotal, funext records_length]

theorem recordTotal_append (lights more : List FoundLight) :
    recordTotal (lights ++ more) = recordTotal lights + recordTotal more := by
  rw [recordTotal, List.map_append, List.sum_append]
  rfl

/-- Lights of one kind take the same number of records each. -/
theorem recordTotal_of_kind {lights : List FoundLight} {kind : LightKind}
    (hkind : ∀ light ∈ lights, light.kind = kind) :
    recordTotal lights = lights.length * kind.recordCount := by
  have hcounts : ∀ count ∈ lights.map (·.kind.recordCount), count = kind.recordCount := by
    intro count hcount
    obtain ⟨light, hlight, rfl⟩ := List.mem_map.mp hcount
    rw [hkind light hlight]
  rw [recordTotal, List.eq_replicate_of_mem hcounts, List.sum_replicate_nat, List.length_map]

end FoundLight

theorem PerKind.lightTotal_eq (counts : PerKind Nat) (kinds : List LightKind) :
    counts.lightTotal kinds = (kinds.map counts.get).sum := by
  rw [lightTotal, List.sum_eq_foldl, List.foldl_map]

namespace ViewLights

/-- The lights of a kind, in the order they were found. -/
def foundOf (v : ViewLights) : LightKind → List FoundLight
  | .ambient => v.ambient.map .ambient
  | .directional => v.directional.map .directional
  | .point => v.point.map .point
  | .spot => v.spot.map .spot

/-- All lights in packing order. -/
def found (v : ViewLights) : List FoundLight :=
  v.ambient.map .ambient ++ v.directional.map .directional ++ v.point.map .point ++
    v.spot.map .spot

/-- The first lights of each of some kinds, as many as `counts` says. -/
def foundFirst (v : ViewLights) (counts : PerKind Nat) (kinds : List LightKind) :
    List FoundLight :=
  kinds.flatMap fun kind => (v.foundOf kind).take (counts.get kind)

theorem found_eq (v : ViewLights) : v.found = LightKind.all.flatMap v.foundOf := by
  simp [found, foundOf, LightKind.all]

theorem foundOf_length (v : ViewLights) (kind : LightKind) :
    (v.foundOf kind).length = v.counts.get kind := by
  cases kind <;> exact List.length_map _

theorem kind_of_mem_foundOf {v : ViewLights} {kind : LightKind} {light : FoundLight}
    (hlight : light ∈ v.foundOf kind) : light.kind = kind := by
  cases kind <;>
    · obtain ⟨_, _, rfl⟩ := List.mem_map.mp hlight
      rfl

theorem foundFirst_cons (v : ViewLights) (counts : PerKind Nat) (kind : LightKind)
    (later : List LightKind) :
    v.foundFirst counts (kind :: later) =
      (v.foundOf kind).take (counts.get kind) ++ v.foundFirst counts later := List.flatMap_cons

/-- Nothing is taken of kinds that are not counted. -/
theorem foundFirst_of_none (v : ViewLights) {counts : PerKind Nat} {kinds : List LightKind}
    (hnone : ∀ kind ∈ kinds, counts.get kind = 0) : v.foundFirst counts kinds = [] :=
  List.flatMap_eq_nil_iff.mpr fun kind hkind => by rw [hnone kind hkind, List.take_zero]

/-- The records of the first lights of a kind. -/
theorem recordTotal_take_foundOf (v : ViewLights) {kind : LightKind} {fit : Nat}
    (hfit : fit ≤ v.counts.get kind) :
    FoundLight.recordTotal ((v.foundOf kind).take fit) = fit * kind.recordCount := by
  rw [FoundLight.recordTotal_of_kind fun light hlight =>
    kind_of_mem_foundOf (List.mem_of_mem_take hlight), List.length_take_of_le]
  rwa [v.foundOf_length]

theorem length_flatMap_foundOf (v : ViewLights) (kinds : List LightKind) :
    (kinds.flatMap v.foundOf).length = v.counts.lightTotal kinds := by
  rw [List.length_flatMap, PerKind.lightTotal_eq]
  exact congrArg (fun f => (kinds.map f).sum) (funext v.foundOf_length)

end ViewLights

/-! ## One place to cut -/

/-- Taking lights cuts them off before a first one that has no room, which the overflow names
together with the number of those not taken.  Of the kinds before that light all are taken, and of
the kinds after it none.  The induction is on the kinds, in packing order. -/
theorem Fitting.take_cuts (v : ViewLights) {counts : PerKind Nat} {kinds : List LightKind}
    (room : Nat)
    (hkinds : kinds.Pairwise fun kind later => later ≠ kind ∧ kind.recordCount ≤ later.recordCount)
    (hnone : ∀ kind ∈ kinds, counts.get kind = 0) {fitting : Fitting}
    (hfitting : take v.counts counts kinds room = fitting) :
    ∃ left, kinds.flatMap v.foundOf = v.foundFirst fitting.counts kinds ++ left ∧
      FoundLight.recordTotal (v.foundFirst fitting.counts kinds) ≤ room ∧
      fitting.overflow = left.head?.map (fun next => (next.kind, left.length)) ∧
      ∀ next ∈ left.head?, room < FoundLight.recordTotal (v.foundFirst fitting.counts kinds) +
        next.kind.recordCount := by
  induction kinds generalizing counts room fitting with
  | nil =>
    subst hfitting
    exact ⟨[], rfl, Nat.zero_le _, rfl, by simp⟩
  | cons kind later ih =>
    obtain ⟨hwidth, hlater⟩ := List.pairwise_cons.mp hkinds
    obtain ⟨hkind, hothers⟩ := List.forall_mem_cons.mp hnone
    rw [take] at hfitting
    generalize hfit : min (v.counts.get kind) (room / kind.recordCount) = fit at hfitting
    have hset : ∀ other ∈ later, (counts.set kind fit).get other = 0 := by
      intro other hother
      rw [PerKind.get_set, if_neg (hwidth other hother).1]
      exact hothers other hother
    have htaken : FoundLight.recordTotal ((v.foundOf kind).take fit) = fit * kind.recordCount :=
      v.recordTotal_take_foundOf (hfit ▸ Nat.min_le_left _ _)
    have hroom : fit * kind.recordCount ≤ room := by
      rw [← hfit]
      exact Nat.le_trans (Nat.mul_le_mul_right _ (Nat.min_le_right _ _)) (Nat.div_mul_le_self _ _)
    split at hfitting
    · rename_i hless
      subst hfitting
      have hfirst : v.foundFirst (counts.set kind fit) (kind :: later) =
          (v.foundOf kind).take fit := by
        rw [ViewLights.foundFirst_cons, v.foundFirst_of_none hset, PerKind.get_set, if_pos rfl,
          List.append_nil]
      obtain ⟨next, rest, hdrop⟩ : ∃ next rest, (v.foundOf kind).drop fit = next :: rest :=
        ⟨_, _, List.drop_eq_getElem_cons (by rwa [v.foundOf_length])⟩
      have hnext : next.kind = kind :=
        ViewLights.kind_of_mem_foundOf (List.mem_of_mem_drop (hdrop ▸ List.mem_cons_self))
      refine ⟨(v.foundOf kind).drop fit ++ later.flatMap v.foundOf, ?_, ?_, ?_, ?_⟩
      · rw [hfirst, List.flatMap_cons, ← List.append_assoc, List.take_append_drop]
      · rwa [hfirst, htaken]
      · rw [← v.length_flatMap_foundOf, ← v.foundOf_length, ← List.length_drop,
          ← List.length_append, hdrop, ← hnext]
        rfl
      · intro first hhead
        rw [hdrop] at hhead
        cases hhead
        have hquotient : fit = room / kind.recordCount := by omega
        rw [hfirst, htaken, hnext, hquotient]
        exact Nat.lt_div_mul_add kind.recordCount_pos
    · rename_i hall
      obtain ⟨left, hcut, hfits, hoverflow, hfull⟩ :=
        ih (room - fit * kind.recordCount) hlater hset hfitting
      have hkept : (take v.counts (counts.set kind fit) later
          (room - fit * kind.recordCount)).counts.get kind = (counts.set kind fit).get kind :=
        (take_full _ hlater hset).1 kind fun hmem => (hwidth kind hmem).1 rfl
      rw [hfitting, PerKind.get_set, if_pos rfl] at hkept
      have hfirst : v.foundFirst fitting.counts (kind :: later) =
          (v.foundOf kind).take fit ++ v.foundFirst fitting.counts later := by
        rw [ViewLights.foundFirst_cons, hkept]
      have hwhole : (v.foundOf kind).take fit = v.foundOf kind := by
        refine List.take_of_length_le ?_
        rw [v.foundOf_length]
        omega
      rw [hfirst, FoundLight.recordTotal_append, htaken]
      refine ⟨left, ?_, by omega, hoverflow, fun next hnext => ?_⟩
      · rw [List.flatMap_cons, hcut, hwhole, List.append_assoc]
      · have hlack := hfull next hnext
        omega

/-- Lights cut off where the next one has no room are the longest that fit: each beginning of the
sequence that fits is a part of them. -/
theorem FoundLight.prefix_of_cut {packed left other : List FoundLight} {room : Nat}
    (hfull : ∀ next ∈ left.head?, room < recordTotal packed + next.kind.recordCount)
    (hother : other <+: packed ++ left) (hfits : recordTotal other ≤ room) : other <+: packed := by
  rcases List.prefix_or_prefix_of_prefix hother (List.prefix_append packed left) with
    hshort | ⟨more, rfl⟩
  · exact hshort
  · obtain ⟨rest, hrest⟩ := (List.prefix_append_right_inj packed).mp hother
    cases more with
    | nil => exact ⟨[], by simp⟩
    | cons next more =>
      have hlack := hfull next (by rw [← hrest]; rfl)
      rw [recordTotal_append] at hfits
      have hmore : next.kind.recordCount ≤ recordTotal (next :: more) := by
        rw [recordTotal, List.map_cons, List.sum_cons]
        exact Nat.le_add_right _ _
      omega

/-! ## What a pack does -/

/-- Some lights did not fit. -/
def Notice.isCapacity : Notice → Bool
  | capacityExceeded .. => true
  | _ => false

namespace ViewLights

/-- The lights that a pack writes: of each kind the first ones, as many as it counts. -/
def packedLights (v : ViewLights) : List FoundLight :=
  v.foundFirst v.pack.packedCounts LightKind.all

theorem pack_packed (v : ViewLights) : v.pack.packed = v.recordsOf v.fitting.counts :=
  List.take_left

theorem packed_eq (v : ViewLights) :
    v.pack.packed =
      countsRecord v.pack.packedCounts :: v.packedLights.flatMap FoundLight.records := by
  rw [pack_packed, pack_packedCounts, packedLights, foundFirst, recordsOf, pack_packedCounts]
  simp [LightKind.all, foundOf, PerKind.get, ← List.map_take, List.flatMap_map,
    FoundLight.records]

theorem packedRecords_eq (v : ViewLights) :
    v.pack.packedRecords = 1 + FoundLight.recordTotal v.packedLights := by
  have hwritten : v.pack.packedRecords = v.pack.packed.length :=
    congrArg List.length v.pack_packed.symm
  rw [hwritten, packed_eq, List.length_cons, FoundLight.length_records, Nat.add_comm]

theorem countP_packedLights (v : ViewLights) (kind : LightKind) :
    v.packedLights.countP (·.kind = kind) = v.pack.packedCounts.get kind := by
  have hfound := Nat.min_eq_left (v.fitting_le.1 kind)
  rw [← v.foundOf_length, ← v.pack_packedCounts] at hfound
  rw [packedLights, foundFirst]
  cases kind <;>
    simpa [LightKind.all, foundOf, ← List.map_take, List.countP_map, Function.comp_def,
      FoundLight.kind] using hfound

theorem length_packedLights (v : ViewLights) :
    v.packedLights.length = v.pack.packedCounts.lightTotal LightKind.all := by
  rw [packedLights, foundFirst, List.length_flatMap, PerKind.lightTotal_eq]
  refine congrArg (fun f => (LightKind.all.map f).sum) (funext fun kind => ?_)
  exact List.length_take_of_le (by rw [v.foundOf_length]; exact v.fitting_le.1 kind)

theorem packNotices_capacity (v : ViewLights) :
    v.packNotices.filter Notice.isCapacity = v.fitting.overflow.toList.map
      fun (kind, dropped) => .capacityExceeded v.lightData.length dropped kind := by
  have hquiet {α : Type} (lights : List (Placed α)) (direction : α → Vec3) :
      (lights.flatMap fun p => p.modelView.directionNotices (direction p.light)).filter
        Notice.isCapacity = [] := by
    rw [List.filter_flatMap, List.flatMap_eq_nil_iff]
    intro p _
    rw [ModelView.directionNotices]
    split <;> rfl
  rw [packNotices]
  simp only [List.filter_append]
  rw [hquiet _ DirectionalLight.direction, hquiet _ SpotLight.direction, List.append_nil,
    List.append_nil]
  cases v.fitting.overflow <;> rfl

/-- A pack of `v` that leaves `after` writes the lights `packed` of those found, leaves out `left`
and reports `emitted`. -/
structure Cuts (v after : ViewLights) (emitted : List Notice) (packed left : List FoundLight) :
    Prop where
  found : v.found = packed ++ left
  /-- After the record of counts, the packed data has the records of these lights. -/
  data : after.packed = countsRecord after.packedCounts :: packed.flatMap FoundLight.records
  counts : ∀ kind, after.packedCounts.get kind = packed.countP (·.kind = kind)
  /-- The records written are as many as the room taken. -/
  records : after.packedRecords = 1 + FoundLight.recordTotal packed
  /-- One slot is for the record of counts. -/
  fits : FoundLight.recordTotal packed ≤ v.lightData.length - 1
  /-- There is no room for the next light. -/
  full : ∀ next ∈ left.head?,
    v.lightData.length - 1 < FoundLight.recordTotal packed + next.kind.recordCount
  longest : ∀ other, other <+: v.found →
    FoundLight.recordTotal other ≤ v.lightData.length - 1 → other <+: packed
  /-- One report says how many lights were left out and of which kind the first of them is, if any
  was left out, and none does otherwise. -/
  reported : emitted.filter Notice.isCapacity =
    left.head?.toList.map fun next => .capacityExceeded v.lightData.length left.length next.kind
  dropped : after.packedCounts.lightTotal LightKind.all + left.length =
    v.counts.lightTotal LightKind.all

end ViewLights

/-- Whatever was collected, whatever the room and in whatever world, what a pack writes is the
longest beginning of the lights found, in packing order, that fits after the record of counts.  A
light that is left out is followed by none that is packed, however small.  What is left out is
reported to the world once and in full. -/
theorem pack_keeps_longest_prefix (env : LightSurroundings σ) (stage : LightStage σ) :
    ∃ emitted left,
      (LightOperation.pack.perform env stage).world.notices = stage.world.notices ++ emitted ∧
      stage.lights.Cuts (LightOperation.pack.perform env stage).lights emitted
        stage.lights.packedLights left := by
  obtain ⟨v, world⟩ := stage
  have hnone : ∀ kind ∈ LightKind.all, (PerKind.replicate 0).get kind = 0 := by decide
  obtain ⟨left, hcut, hfits, hoverflow, hfull⟩ :=
    Fitting.take_cuts v (v.lightData.length - 1) (by decide) hnone rfl
  rw [← v.found_eq] at hcut
  change v.found = v.packedLights ++ left at hcut
  change FoundLight.recordTotal v.packedLights ≤ _ at hfits
  change v.fitting.overflow = _ at hoverflow
  refine ⟨v.packNotices, left, rfl, hcut, v.packed_eq,
    fun kind => (v.countP_packedLights kind).symm, v.packedRecords_eq, hfits, hfull,
    fun other hother => ?_, ?_, ?_⟩
  · rw [hcut] at hother
    exact FoundLight.prefix_of_cut hfull hother
  · rw [v.packNotices_capacity, hoverflow]
    cases left <;> rfl
  · rw [← v.length_flatMap_foundOf, ← v.found_eq, hcut, List.length_append, v.length_packedLights]
    rfl

end FramesInFlight
