import FramesInFlight.Proofs.Light.Packing
import FramesInFlight.Proofs.Number.Counting

/-!
# Reading packed lights

What the device has of the lights is one array of records.  It reads the four counts from the first
record and finds its way from there: an ambient light is one record, a directional light and a point
light are two, a spot light is three.  The counts are single precision, and that is as far as it
goes.

* `LightReading.read` is such a reader, and `LightReading.next` reads the lights of one kind.
* `read_recordsOf` says that it finds the lights that were laid out if it finds their numbers, and
  `counts?_countsRecord` says when it does.
* `reader_recovers_lights_iff` puts both together, and `reader_recovers_lights_of_room` is the case
  of arrays that are not huge.
-/

namespace FramesInFlight

/-- The counts that the components of a record stand for, if all of them stand for one. -/
def Record.counts? (record : Record) : Option (PerKind Nat) := do
  let ambient ← record.x.toNat?
  let directional ← record.y.toNat?
  let point ← record.z.toNat?
  let spot ← record.w.toNat?
  return ⟨ambient, directional, point, spot⟩

/-- What a reader finds: numbers of lights, the records of each light, and the slot after the last
one read. -/
structure LightReading where
  counts : PerKind Nat
  lights : PerKind (List (List Record))
  stop : Nat
  deriving DecidableEq, Repr

namespace LightReading

/-- The next lights, of `width` records each, and the records after them. -/
def next (width : Nat) : Nat → List Record → Option (List (List Record) × List Record)
  | 0, records => some ([], records)
  | lights + 1, records =>
    if records.length < width then none
    else do
      let (later, rest) ← next width lights (records.drop width)
      return (records.take width :: later, rest)

/-- Read light data, and nothing else. -/
def read : List Record → Option LightReading
  | [] => none
  | header :: records => do
    let counts ← header.counts?
    let (ambient, rest) ← next 1 counts.ambient records
    let (directional, rest) ← next 2 counts.directional rest
    let (point, rest) ← next 2 counts.point rest
    let (spot, rest) ← next 3 counts.spot rest
    return {
      counts
      lights := ⟨ambient, directional, point, spot⟩
      stop := 1 + (records.length - rest.length) }

theorem next_flatten {width : Nat} {blocks : List (List Record)}
    (hwidth : ∀ block ∈ blocks, block.length = width) (rest : List Record) :
    next width blocks.length (blocks.flatten ++ rest) = some (blocks, rest) := by
  induction blocks with
  | nil => rfl
  | cons block later ih =>
    obtain ⟨rfl, hlater⟩ := List.forall_mem_cons.mp hwidth
    rw [List.length_cons, next, List.flatten_cons, List.append_assoc, List.drop_left,
      List.take_left, ih hlater, if_neg (by simp)]
    rfl

theorem counts_of_read {header : Record} {records : List Record} {reading : LightReading}
    (hread : read (header :: records) = some reading) :
    header.counts? = some reading.counts := by
  simp only [read, Option.bind_eq_bind, Option.bind_eq_some_iff, Option.pure_def,
    Option.some.injEq] at hread
  obtain ⟨counts, hcounts, _, _, _, _, _, _, _, _, rfl⟩ := hread
  exact hcounts

end LightReading

namespace ViewLights

/-- What there is to find in records of some of the lights collected: how many of each kind, their
records in the order they were collected, and the slot after the last one. -/
def readingOf (v : ViewLights) (counts : PerKind Nat) (records : Nat) : LightReading where
  counts
  lights := {
    ambient := (v.blocks .ambient).take counts.ambient
    directional := (v.blocks .directional).take counts.directional
    point := (v.blocks .point).take counts.point
    spot := (v.blocks .spot).take counts.spot }
  stop := records

/-- The lights of a kind are the next ones where its records begin. -/
theorem next_chunk {v : ViewLights} {counts : PerKind Nat} {kind : LightKind}
    (hcount : counts.get kind ≤ v.counts.get kind) (rest : List Record) :
    LightReading.next kind.recordCount (counts.get kind) (v.chunk counts kind ++ rest) =
      some ((v.blocks kind).take (counts.get kind), rest) := by
  have htaken : ((v.blocks kind).take (counts.get kind)).length = counts.get kind :=
    List.length_take_of_le (by rwa [v.blocks_length])
  have hwidth : ∀ block ∈ (v.blocks kind).take (counts.get kind),
      block.length = kind.recordCount := fun block hblock =>
    length_of_mem_blocks (List.mem_of_mem_take hblock)
  have hread := LightReading.next_flatten hwidth rest
  rwa [htaken] at hread

/-- A reader finds the lights that were laid out if it finds their numbers. -/
theorem read_recordsOf {v : ViewLights} {counts : PerKind Nat}
    (hwithin : ∀ kind, counts.get kind ≤ v.counts.get kind)
    (hcounts : (countsRecord counts).counts? = some counts) (rest : List Record) :
    LightReading.read (v.recordsOf counts ++ rest) =
      some (v.readingOf counts (v.recordsOf counts).length) := by
  have hambient := next_chunk (hwithin .ambient)
  have hdirectional := next_chunk (hwithin .directional)
  have hpoint := next_chunk (hwithin .point)
  have hspot := next_chunk (hwithin .spot)
  simp only [PerKind.get, LightKind.recordCount] at hambient hdirectional hpoint hspot
  rw [recordsOf_eq]
  simp only [List.cons_append, List.append_assoc, LightReading.read, hcounts, hambient,
    hdirectional, hpoint, hspot, Option.bind_eq_bind, Option.bind_some, Option.pure_def,
    Option.some.injEq, readingOf, LightReading.mk.injEq, true_and]
  simp only [List.length_cons, List.length_append]
  omega

end ViewLights

/-- The numbers of lights can be read from their record just when all of them are exact. -/
theorem counts?_countsRecord {counts : PerKind Nat} :
    (ViewLights.countsRecord counts).counts? = some counts ↔
      ∀ kind, Single.Exact (counts.get kind) := by
  have hkinds : (∀ kind, Single.Exact (counts.get kind)) ↔
      Single.Exact counts.ambient ∧ Single.Exact counts.directional ∧
        Single.Exact counts.point ∧ Single.Exact counts.spot := by
    refine ⟨fun h => ⟨h .ambient, h .directional, h .point, h .spot⟩, ?_⟩
    rintro ⟨hambient, hdirectional, hpoint, hspot⟩ kind
    cases kind <;> assumption
  rw [hkinds]
  simp only [← Single.toNat?_ofNat_eq_some_iff]
  constructor
  · intro hread
    simp only [Record.counts?, ViewLights.countsRecord, Option.bind_eq_bind,
      Option.bind_eq_some_iff, Option.pure_def, Option.some.injEq] at hread
    obtain ⟨_, hambient, _, hdirectional, _, hpoint, _, hspot, rfl⟩ := hread
    exact ⟨hambient, hdirectional, hpoint, hspot⟩
  · rintro ⟨hambient, hdirectional, hpoint, hspot⟩
    simp only [Record.counts?, ViewLights.countsRecord, hambient, hdirectional, hpoint, hspot]
    rfl

namespace ViewLights

/-- What a reader finds after a pack, if it finds the numbers of lights. -/
theorem read_pack {v : ViewLights} (hexact : ∀ kind, Single.Exact (v.pack.packedCounts.get kind)) :
    LightReading.read v.pack.lightData =
      some (v.readingOf v.pack.packedCounts v.pack.packedRecords) :=
  read_recordsOf v.fitting_le.1 (counts?_countsRecord.mpr hexact) _

/-- Whatever a reader finds, the numbers of lights are those in the first record. -/
theorem counts_of_read_pack {v : ViewLights} {reading : LightReading}
    (hread : LightReading.read v.pack.lightData = some reading) :
    (countsRecord v.pack.packedCounts).counts? = some reading.counts :=
  LightReading.counts_of_read hread

/-- No more lights are packed than there are records beside the first. -/
theorem pack_count_le (v : ViewLights) (kind : LightKind) :
    v.pack.packedCounts.get kind ≤ v.lightData.length - 1 := by
  have hroom : v.pack.packedCounts.recordTotal ≤ v.lightData.length - 1 := v.fitting_le.2
  rw [PerKind.recordTotal_eq] at hroom
  cases kind <;> simp only [PerKind.get] <;> omega

end ViewLights

/-- With room for no more than `2 ^ 24` lights, a reader of the light data recovers what was
packed. -/
theorem reader_recovers_lights_of_room {v : ViewLights}
    (hroom : v.lightData.length ≤ 2 ^ 24 + 1) :
    LightReading.read v.pack.lightData =
      some (v.readingOf v.pack.packedCounts v.pack.packedRecords) :=
  v.read_pack fun kind => Single.exact_of_le (by
    have hcount := v.pack_count_le kind
    omega)

/-- Whatever lights were collected and whatever the room for them, a reader that sees nothing but
the light data recovers how many lights of each kind were packed, the records of each of them in the
order they were collected, and where the last one ends, just when all these numbers of lights are
exact in single precision. -/
theorem reader_recovers_lights_iff (v : ViewLights) :
    LightReading.read v.pack.lightData =
        some (v.readingOf v.pack.packedCounts v.pack.packedRecords) ↔
      ∀ kind, Single.Exact (v.pack.packedCounts.get kind) :=
  ⟨fun hread => counts?_countsRecord.mp (ViewLights.counts_of_read_pack hread), v.read_pack⟩

/-- A light of each kind is found in the first nine of eleven slots. -/
example : (LightReading.read crowdedLights.pack.lightData).map
    (fun reading => (reading.counts, reading.stop)) = some (⟨1, 1, 1, 1⟩, 9) := by
  rfl

/-- One ambient light more than 24 binary digits can count, and room for all of them. -/
def uncountableLights : ViewLights :=
  { ViewLights.ofCapacities (2 ^ 24 + 2) 1 with
    ambient := List.replicate (2 ^ 24 + 1) ⟨⟨.zero, .zero, .zero, .zero⟩⟩ }

/-- All of them are packed, and the reader finds one light less. -/
theorem uncountable_lights_are_misread :
    uncountableLights.lightData.length = max (2 ^ 24 + 2) 1 ∧
    uncountableLights.pack.packedCounts = ⟨2 ^ 24 + 1, 0, 0, 0⟩ ∧
    uncountableLights.pack.lightData[0]?.bind Record.counts? = some ⟨2 ^ 24, 0, 0, 0⟩ ∧
    LightReading.read uncountableLights.pack.lightData ≠
      some (uncountableLights.readingOf uncountableLights.pack.packedCounts
        uncountableLights.pack.packedRecords) := by
  have hlength : uncountableLights.lightData.length = 2 ^ 24 + 2 := List.length_replicate
  have hcounts : uncountableLights.pack.packedCounts = ⟨2 ^ 24 + 1, 0, 0, 0⟩ := by
    have hcollected : uncountableLights.counts = ⟨2 ^ 24 + 1, 0, 0, 0⟩ := by
      simp only [ViewLights.counts, uncountableLights, List.length_replicate]
      rfl
    rw [ViewLights.pack_packedCounts, ViewLights.fitting, hlength, hcollected]
    decide
  have hheader : (ViewLights.countsRecord uncountableLights.pack.packedCounts).counts? =
      some ⟨2 ^ 24, 0, 0, 0⟩ := by
    rw [hcounts]
    decide
  refine ⟨hlength, hcounts, ?_, fun hrecovered => ?_⟩
  · rw [ViewLights.pack_header, Option.bind_some, hheader]
  have hfound := ViewLights.counts_of_read_pack hrecovered
  rw [hheader, hcounts] at hfound
  have hambient : 2 ^ 24 = 2 ^ 24 + 1 := congrArg PerKind.ambient (Option.some.inj hfound)
  omega

end FramesInFlight
