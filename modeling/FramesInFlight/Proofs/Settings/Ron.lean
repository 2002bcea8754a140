import FramesInFlight.Proofs.Ron.Reading
import FramesInFlight.Proofs.Settings.Outline
import FramesInFlight.Settings.Ron

/-!
# Settings through RON

A document with an outline's records is read as the same outline, whatever its values are and
however its fields are laid out.

* `Outline.WrittenAsRon` says which documents these are.
* `Settings.readsField_entry` and `readsField_part` say that settings and groups are fields of
  records.
* `Settings.outlineOfRon?_of_written` is the reading of every such document, for every well-formed
  outline, and `outlineOfRon?_ronText` the round trip.
-/

namespace FramesInFlight

namespace Settings

/-! ## Fields -/

theorem Group.isPlainName (group : Group) : Ron.IsPlainName group.name.toList := by
  cases group <;> exact .of_all (by decide) (by decide)

theorem Key.isPlainName (key : Key) : Ron.IsPlainName key.name.toList := by
  cases key <;> exact .of_all (by decide) (by decide)

/-- How a setting's value is written. -/
def WrittenCount (entry : Key × UInt64) (text : List Char) : Prop :=
  text = Nat.toDigits 10 entry.2.toNat

/-- How a setting is written: its name and its value. -/
def WrittenEntry : Key × UInt64 → List Char → Prop := Ron.WrittenField (·.1.name) WrittenCount

/-- How a group is written: its name and the record of its settings. -/
def WrittenPart : Outline.Part → List Char → Prop :=
  Ron.WrittenField (·.group.name) fun part => Ron.WrittenRecord WrittenEntry part.entries

end Settings

namespace Outline

/-- A document with the records of an outline, laid out in any way. -/
def WrittenAsRon (outline : Outline) (text : List Char) : Prop :=
  ∃ before body after, Ron.IsGap before ∧ Ron.WrittenRecord Settings.WrittenPart outline body ∧
    Ron.IsGap after ∧ text = before ++ (body ++ after)

end Outline

namespace Settings

/-! ## Records -/

variable {bare : Bool} {outline : Outline} {text : List Char}

theorem readsField_entry {group : Group} {entry : Key × UInt64} (hown : entry.1 ∈ group.keys) :
    Ron.ReadsField (group.keys.map fun key => (key.name, key.ron)) (·.1.name) WrittenCount id
      entry := by
  refine ⟨entry.1.isPlainName, entry.1.ron, lookup_name_of_mem Key.name_injective Key.ron hown, ?_⟩
  rintro value rfl stop hstop rest
  constructor
  · obtain ⟨c, more, hdigits, hc⟩ := Digits.exists_toDigits entry.2.toNat
    rw [hdigits]
    exact Ron.skip_cons (Ron.not_mem_gapChars (by decide) hc)
  · rw [Key.ron, Ron.count_toDigits entry.2 hstop]
    rfl

theorem readsField_part {part : Outline.Part} (hkeys : (part.entries.map (·.1)).Nodup)
    (hown : ∀ entry ∈ part.entries, entry.1 ∈ part.group.keys) :
    Ron.ReadsField (Group.all.map fun group => (group.name, group.ron bare)) (·.group.name)
      (fun part => Ron.WrittenRecord WrittenEntry part.entries) id part := by
  refine ⟨part.group.isPlainName, part.group.ron bare,
    lookup_name_of_mem Group.name_injective (Group.ron bare) part.group.mem_all, ?_⟩
  intro value hvalue stop _ rest
  constructor
  · cases hvalue
    exact Ron.skip_cons (by decide)
  · rw [Group.ron, Ron.record_of_written (fun entry hentry => readsField_entry (hown entry hentry))
      (Outline.Part.keyNames_nodup hkeys) hvalue, List.map_id]
    rfl

theorem ron_of_written (h : outline.WellFormed)
    (hwritten : Ron.WrittenRecord WrittenPart outline text) (rest : List Char) :
    ron bare (text ++ rest) = some (outline, rest) := by
  rw [ron, Ron.record_of_written
    (fun part hpart => readsField_part (h.keys part hpart) (h.own part hpart))
    h.groupNames_nodup hwritten, List.map_id]

/-! ## Documents -/

/-- What is written of an outline is read as the same outline. -/
theorem outlineOfRon?_of_written (h : outline.WellFormed) (hwritten : outline.WrittenAsRon text) :
    outlineOfRon? text = some outline := by
  obtain ⟨before, body, after, hbefore, hbody, hafter, rfl⟩ := hwritten
  have hread : ron false (body ++ after) = some (outline, after) := ron_of_written h hbody after
  cases hbody
  exact Ron.document?_of_value hbefore hafter (by decide) hread

/-! ## Round trips -/

/-- A setting as it stands in its line. -/
def entryText (entry : Key × UInt64) : List Char :=
  entry.1.name.toList ++ ':' :: ' ' :: Nat.toDigits 10 entry.2.toNat

/-- A group as it stands in its lines. -/
def partText (part : Outline.Part) : List Char :=
  part.group.name.toList ++ ':' :: ' ' :: '(' :: '\n' ::
    (part.entries.flatMap (fun entry => List.replicate 8 ' ' ++ (entryText entry ++ [',', '\n'])) ++
      (List.replicate 4 ' ' ++ [')']))

theorem ronLine_eq (entry : Key × UInt64) :
    Outline.ronLine entry = List.replicate 8 ' ' ++ (entryText entry ++ [',', '\n']) := by
  simp [Outline.ronLine, entryText]

theorem ronText_eq (part : Outline.Part) :
    part.ronText = List.replicate 4 ' ' ++ (partText part ++ [',', '\n']) := by
  simp [Outline.Part.ronText, partText, funext ronLine_eq, List.replicate]

theorem isGap_replicate (n : Nat) : Ron.IsGap (List.replicate n ' ') := by
  intro c hc
  rw [List.eq_of_mem_replicate hc]
  decide

theorem writtenEntry_entryText (entry : Key × UInt64) : WrittenEntry entry (entryText entry) :=
  .field Ron.IsGap.nil (isGap_replicate 1) rfl

theorem writtenPart_partText (part : Outline.Part) : WrittenPart part (partText part) := by
  have hentries := Ron.writtenFields_lines (isGap_replicate 8) (isGap_replicate 4)
    fun entry (_ : entry ∈ part.entries) => writtenEntry_entryText entry
  have hrecord : Ron.WrittenRecord WrittenEntry part.entries _ := .record hentries
  have hpart : WrittenPart part _ := .field Ron.IsGap.nil (isGap_replicate 1) hrecord
  simpa [partText] using hpart

/-- What is written of an outline is laid out in one of the ways there are. -/
theorem writtenAsRon_ronText (outline : Outline) : outline.WrittenAsRon outline.ronText := by
  have hparts := Ron.writtenFields_lines (isGap_replicate 4) Ron.IsGap.nil
    fun part (_ : part ∈ outline) => writtenPart_partText part
  refine ⟨[], _, [], Ron.IsGap.nil, .record hparts, Ron.IsGap.nil, ?_⟩
  simp [Outline.ronText, funext ronText_eq]

theorem outlineOfRon?_ronText (h : outline.WellFormed) :
    outlineOfRon? outline.ronText = some outline :=
  outlineOfRon?_of_written h (writtenAsRon_ronText outline)

end Settings

end FramesInFlight
