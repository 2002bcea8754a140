import Mathlib.Algebra.Group.Nat.Defs
import FramesInFlight.Proofs.Settings.Outline
import FramesInFlight.Proofs.Toml.Reading
import FramesInFlight.Settings.Toml

/-!
# Settings through TOML

A document with an outline's tables is read as the same outline, in the order of the groups,
however its lines are laid out.

* `Outline.WrittenAsToml` says which documents these are.
* `Settings.perform_entries`, `perform_part` and `perform_parts` follow the document over the lines
  of a group, over a group and over all groups.
* `Settings.outlineOfToml?_of_written` is the reading of every such document, for every well-formed
  outline whose values fit, and `outlineOfToml?_tomlText` the round trip.
* `Outline.fitsToml_ofSettings` says which settings fit.
-/

namespace FramesInFlight

namespace Settings

/-! ## Names and integers -/

theorem Group.isBare_name (group : Group) : Toml.IsBare group.name.toList := by
  cases group <;> exact .of_all (by decide) (by decide)

theorem Key.isBare_name (key : Key) : Toml.IsBare key.name.toList := by
  cases key <;> exact .of_all (by decide) (by decide)

/-- What a setting is in a table. -/
def tomlEntry (entry : Key × UInt64) : String × Toml.Value :=
  (entry.1.name, .integer entry.2.toNat)

/-- What a part is in a document. -/
def tomlTable (part : Outline.Part) : String × Toml.Value :=
  (part.group.name, .table .header (part.entries.map tomlEntry))

theorem countOfToml?_toNat (value : UInt64) : countOfToml? (.integer value.toNat) = some value := by
  rw [countOfToml?, if_pos (Int.natCast_nonneg _), Int.toNat_natCast, UInt64.ofNat_toNat]

theorem ofToml?_tomlTable (part : Outline.Part) :
    part.group.ofToml? (tomlTable part).2 = some part.ordered.entries := by
  have hpairs : (part.group.keys.filterMap fun key =>
      ((part.entries.map tomlEntry).lookup key.name).map fun v => (key, v)) =
      (pick (·.1) part.group.keys part.entries).map fun entry => (entry.1, (tomlEntry entry).2) :=
    filterMap_lookup_name Key.name_injective part.group.keys part.entries
  simp only [tomlTable, Group.ofToml?, hpairs, Option.bind_some, List.mapM_map,
    Function.comp_def, tomlEntry, countOfToml?_toNat, Option.map_some]
  exact List.mapM_pure.trans (congrArg some (List.map_id _))

theorem parts_tomlTable (outline : Outline) :
    (Group.all.filterMap fun group =>
      ((outline.map tomlTable).lookup group.name).map fun value => (group, value)) =
      (pick (·.group) Group.all outline).map fun part => (part.group, (tomlTable part).2) :=
  filterMap_lookup_name Group.name_injective Group.all outline

/-! ## Lines -/

/-- The line with a setting. -/
def tomlPair (entry : Key × UInt64) : Toml.PlainLine := .integer entry.1.name entry.2.toNat

/-- The lines of a part. -/
def tomlLines (part : Outline.Part) : List Toml.PlainLine :=
  .header part.group.name :: part.entries.map tomlPair

/-- The settings of a group come after those that are there.  The names in the open table stay
different, which is what every line needs. -/
theorem perform_entries {group : String} {before inside : Toml.Entries}
    {given : List (Key × UInt64)} (hgroup : group ∉ before.map (·.1))
    (hkeys : (inside.map (·.1) ++ given.map (·.1.name)).Nodup) :
    (given.map tomlPair).foldlM Toml.PlainLine.perform
        ⟨before ++ [(group, .table .header inside)], [group]⟩ =
      some ⟨before ++ [(group, .table .header (inside ++ given.map tomlEntry))], [group]⟩ := by
  induction given generalizing inside with
  | nil => simp
  | cons entry given ih =>
    have hkey : entry.1.name ∉ inside.map (·.1) := fun hmem =>
      List.disjoint_of_nodup_append hkeys hmem List.mem_cons_self
    have hadd : (tomlPair entry).perform ⟨before ++ [(group, .table .header inside)], [group]⟩ =
        some ⟨before ++ [(group, .table .header (inside ++ [tomlEntry entry]))], [group]⟩ :=
      Toml.add_last hgroup hkey
    have hmore : (given.map tomlPair).foldlM Toml.PlainLine.perform
        ⟨before ++ [(group, .table .header (inside ++ [tomlEntry entry]))], [group]⟩ =
        some ⟨before ++ [(group, .table .header ((inside ++ [tomlEntry entry]) ++
          given.map tomlEntry))], [group]⟩ := ih (by simpa [tomlEntry] using hkeys)
    rw [List.map_cons, List.foldlM_cons, hadd, Option.bind_eq_bind, Option.bind_some, hmore,
      List.append_assoc, List.singleton_append, List.map_cons]

/-- A part adds its table to the end of a document, whatever was open before. -/
theorem perform_part {part : Outline.Part} {before : Toml.Entries} {current : List String}
    (hgroup : part.group.name ∉ before.map (·.1)) (hkeys : (part.entries.map (·.1)).Nodup) :
    (tomlLines part).foldlM Toml.PlainLine.perform ⟨before, current⟩ =
      some ⟨before ++ [tomlTable part], [part.group.name]⟩ := by
  have henter : Toml.PlainLine.perform ⟨before, current⟩ (.header part.group.name) =
      some ⟨before ++ [(part.group.name, .table .header [])], [part.group.name]⟩ :=
    Toml.enter_new hgroup
  have hnames : (([] : Toml.Entries).map (·.1) ++ part.entries.map (·.1.name)).Nodup :=
    Outline.Part.keyNames_nodup hkeys
  rw [tomlLines, List.foldlM_cons, henter, Option.bind_eq_bind, Option.bind_some,
    perform_entries hgroup hnames, List.nil_append, tomlTable]

/-- The tables of an outline come after those that are there. -/
theorem perform_parts {outline : Outline} {before : Toml.Entries} (current : List String)
    (hgroups : (before.map (·.1) ++ outline.map (·.group.name)).Nodup)
    (hkeys : ∀ part ∈ outline, (part.entries.map (·.1)).Nodup) :
    ∃ latest, (outline.flatMap tomlLines).foldlM Toml.PlainLine.perform ⟨before, current⟩ =
      some ⟨before ++ outline.map tomlTable, latest⟩ := by
  induction outline generalizing before current with
  | nil => exact ⟨current, by simp⟩
  | cons part outline ih =>
    have hgroup : part.group.name ∉ before.map (·.1) := fun hmem =>
      List.disjoint_of_nodup_append hgroups hmem List.mem_cons_self
    have hgroups' : ((before ++ [tomlTable part]).map (·.1) ++
        outline.map (·.group.name)).Nodup := by
      simpa [tomlTable] using hgroups
    obtain ⟨latest, hmore⟩ := ih [part.group.name] hgroups'
      fun p hp => hkeys p (List.mem_cons_of_mem part hp)
    refine ⟨latest, ?_⟩
    rw [List.flatMap_cons, List.foldlM_append, perform_part hgroup (hkeys part List.mem_cons_self),
      Option.bind_eq_bind, Option.bind_some, hmore, List.append_assoc, List.singleton_append,
      List.map_cons]

end Settings

/-! ## Documents -/

namespace Outline

/-- A document with the tables of an outline, laid out in any way. -/
def WrittenAsToml (outline : Outline) (text : List Char) : Prop :=
  Toml.WrittenLines (outline.flatMap Settings.tomlLines) text

end Outline

namespace Settings

variable {outline : Outline} {text : List Char}

theorem fits_tomlLines (hfits : outline.fitsToml = true) :
    ∀ line ∈ outline.flatMap tomlLines, line.Fits := by
  intro line hline
  obtain ⟨part, hpart, hline⟩ := List.mem_flatMap.mp hline
  rcases List.mem_cons.mp hline with rfl | hline
  · exact part.group.isBare_name
  · obtain ⟨entry, hentry, rfl⟩ := List.mem_map.mp hline
    have hgiven : entry ∈ outline.given := List.mem_flatMap_of_mem hpart hentry
    exact ⟨entry.1.isBare_name, of_decide_eq_true (List.all_eq_true.mp hfits entry hgiven)⟩

/-- What is written of an outline is read as the same outline in the order of the groups. -/
theorem outlineOfToml?_of_written (h : outline.WellFormed) (hfits : outline.fitsToml = true)
    (hwritten : outline.WrittenAsToml text) : outlineOfToml? text = some outline.ordered := by
  have hgroups : (([] : Toml.Entries).map (·.1) ++ outline.map (·.group.name)).Nodup :=
    h.groupNames_nodup
  obtain ⟨latest, hperform⟩ := perform_parts [] hgroups h.keys
  have hentries : Toml.entries? text = some (outline.map tomlTable) := by
    rw [Toml.entries?_of_written hwritten (fits_tomlLines hfits) hperform, List.nil_append]
  simp only [outlineOfToml?, hentries, Option.bind_eq_bind, Option.bind_some,
    parts_tomlTable, List.mapM_map, Function.comp_def, ofToml?_tomlTable, Option.map_some]
  exact List.mapM_pure

/-! ## Round trips -/

theorem writtenLines_part (part : Outline.Part) {lines : List Toml.PlainLine} {rest : List Char}
    (hrest : Toml.WrittenLines lines rest) :
    Toml.WrittenLines (tomlLines part ++ lines) (part.tomlText ++ rest) := by
  have hentries (given : List (Key × UInt64)) :
      Toml.WrittenLines (given.map tomlPair ++ lines) (given.flatMap Outline.tomlLine ++ rest) := by
    induction given with
    | nil => exact hrest
    | cons entry given ih =>
      have hspace : Toml.IsBlank [' '] := List.forall_mem_singleton.mpr (by decide)
      have hline : Toml.WrittenLine (tomlPair entry) (entry.1.name.toList ++
          ([' '] ++ '=' :: ([' '] ++ Nat.toDigits 10 entry.2.toNat))) := .integer hspace hspace
      simpa [Outline.tomlLine] using Toml.WrittenLines.cons Toml.IsBlank.nil hline (.newline _) ih
  have hheader : Toml.WrittenLine (.header part.group.name)
      ('[' :: ([] ++ (part.group.name.toList ++ ([] ++ [']'])))) :=
    .header Toml.IsBlank.nil Toml.IsBlank.nil
  simpa [Outline.Part.tomlText, tomlLines] using
    Toml.WrittenLines.cons Toml.IsBlank.nil hheader (.newline _) (hentries part.entries)

/-- What is written of an outline is laid out in one of the ways there are. -/
theorem writtenAsToml_tomlText (outline : Outline) : outline.WrittenAsToml outline.tomlText := by
  induction outline with
  | nil => exact .nil
  | cons part outline ih =>
    cases outline with
    | nil =>
      have hpart := writtenLines_part part .nil
      simpa [Outline.WrittenAsToml, Outline.tomlText] using hpart
    | cons next outline =>
      have hpart := writtenLines_part part (.empty (.newline _) ih)
      simpa [Outline.WrittenAsToml, Outline.tomlText, List.intercalate_cons_cons] using hpart

theorem outlineOfToml?_tomlText (h : outline.WellFormed) (hfits : outline.fitsToml = true) :
    outlineOfToml? outline.tomlText = some outline.ordered :=
  outlineOfToml?_of_written h hfits (writtenAsToml_tomlText outline)

end Settings

namespace Outline

/-- Settings can be written when each of them is an integer of the format. -/
theorem fitsToml_ofSettings (s : Settings) :
    (ofSettings s).fitsToml = true ↔ ∀ key, (s.get key).toNat < 2 ^ 63 := by
  rw [fitsToml, List.all_eq_true]
  constructor
  · intro h key
    have hfits : ((s.get key).toNat : Int) < Toml.integerLimit :=
      of_decide_eq_true (h (key, s.get key) (mem_given_ofSettings.mpr rfl))
    unfold Toml.integerLimit at hfits
    omega
  · rintro h ⟨key, value⟩ hentry
    have hkey := h key
    rw [← mem_given_ofSettings.mp hentry] at hkey
    refine decide_eq_true ?_
    unfold Toml.integerLimit
    omega

end Outline

end FramesInFlight
