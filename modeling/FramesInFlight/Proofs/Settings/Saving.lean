import FramesInFlight.Proofs.Keyed
import FramesInFlight.Proofs.Settings.Ron
import FramesInFlight.Proofs.Settings.Toml
import FramesInFlight.Settings.File

/-!
# Saving and loading

Loading a file that was saved gives back what was saved, and a save that fails changes nothing.

* `FileTree.read?_of_write?` says that a file holds exactly what was written last: writing leaves
  every folder where it is, so the path still leads to the file.
* `Settings.RoundTrips` and `Settings.Refused` are the two outcomes of saving.
* `Settings.save_then_load` says which of them it is, from the end of the path and the size of the
  values alone.
-/

namespace FramesInFlight

/-! ## Files -/

namespace FileTree

variable {tree tree' : FileTree} {path : String} {contents : ByteArray} {place : List String}

/-- Whether a file stands at a path or can be made there. -/
def Writable (tree : FileTree) (path : String) : Prop :=
  ∃ place, tree.place? path = some place ∧ tree.at? place ≠ some .folder

/-- Names lead to the same place as long as every folder stays. -/
theorem follow?_of_folders
    (hfolders : ∀ place, tree.at? place = some .folder → tree'.at? place = some .folder)
    {names from' : List String} (h : tree.follow? from' names = some place) :
    tree'.follow? from' names = some place := by
  fun_induction follow? tree from' names with
  | case1 => exact h
  | case2 => exact h
  | case3 from' name rest hrest hfolder ih =>
    rw [follow?.eq_3 _ _ _ _ hrest, hfolders _ hfolder]
    exact ih h
  | case4 => cases h

theorem write?_eq_some (h : tree.write? path contents = some tree') :
    ∃ place, tree.place? path = some place ∧ tree.at? place ≠ some .folder ∧
      tree' = ⟨Keyed.put place (.file contents) tree.entries⟩ := by
  unfold write? at h
  split at h
  · cases h
  · next place hplace =>
    split at h
    · cases h
    · next hfolder => exact ⟨place, hplace, hfolder, (Option.some.inj h).symm⟩

theorem write?_of_writable (h : tree.Writable path) :
    ∃ tree', tree.write? path contents = some tree' := by
  obtain ⟨place, hplace, hfolder⟩ := h
  unfold write?
  rw [hplace]
  dsimp only
  split
  · next hentry => exact absurd hentry hfolder
  · exact ⟨_, rfl⟩

theorem write?_of_not_writable (h : ¬tree.Writable path) : tree.write? path contents = none := by
  cases hwrite : tree.write? path contents with
  | none => rfl
  | some tree' =>
    obtain ⟨place, hplace, hfolder, -⟩ := write?_eq_some hwrite
    exact absurd ⟨place, hplace, hfolder⟩ h

/-- A file holds what was written last. -/
theorem read?_of_write? (h : tree.write? path contents = some tree') :
    tree'.read? path = some contents := by
  obtain ⟨place, hplace, hfolder, rfl⟩ := write?_eq_some h
  have hne : place ≠ [] := by
    rintro rfl
    exact hfolder rfl
  have hfolders : ∀ other, tree.at? other = some .folder →
      (⟨Keyed.put place (.file contents) tree.entries⟩ : FileTree).at? other = some .folder := by
    intro other hother
    have hother' : other ≠ place := by
      rintro rfl
      exact hfolder hother
    rw [at?, Keyed.lookup_put_of_ne hother']
    exact hother
  have hplace' :
      (⟨Keyed.put place (.file contents) tree.entries⟩ : FileTree).place? path = some place := by
    obtain ⟨names, hnames, hfollow⟩ := Option.bind_eq_some_iff.mp hplace
    rw [place?, hnames]
    exact follow?_of_folders hfolders hfollow
  have hempty : ¬place.isEmpty = true := by simpa using hne
  rw [read?, hplace', Option.bind_some, at?, if_neg hempty, Keyed.lookup_put_self]

theorem readText?_of_write? {text : String} (h : tree.write? path text.toUTF8 = some tree') :
    tree'.readText? path = some text := by
  rw [readText?, read?_of_write? h, Option.bind_some]
  simp only [String.fromUTF8?, String.toUTF8_eq_toByteArray, dif_pos text.isValidUTF8]
  rfl

end FileTree

/-! ## Formats -/

namespace SettingsFormat

variable {path : String}

theorem ofPath?_toml (h : ".toml".toList <:+ path.toList) : ofPath? path = some toml :=
  if_pos (List.isSuffixOf_iff_suffix.mpr h)

theorem ofPath?_ron (h : ".ron".toList <:+ path.toList) : ofPath? path = some ron := by
  have hother : ¬".toml".toList.isSuffixOf path.toList = true := by
    intro hsuffix
    have hboth :=
      List.suffix_of_suffix_length_le h (List.isSuffixOf_iff_suffix.mp hsuffix) (by decide)
    exact absurd hboth (by decide)
  rw [ofPath?, if_neg hother, if_pos (List.isSuffixOf_iff_suffix.mpr h)]

theorem ofPath?_other (htoml : ¬".toml".toList <:+ path.toList)
    (hron : ¬".ron".toList <:+ path.toList) : ofPath? path = none := by
  rw [ofPath?, if_neg (mt List.isSuffixOf_iff_suffix.mp htoml),
    if_neg (mt List.isSuffixOf_iff_suffix.mp hron)]

end SettingsFormat

namespace Settings

variable {s : Settings} {path : String} {tree : FileTree}

/-- Whether every setting is an integer of TOML. -/
def FitsToml (s : Settings) : Prop := ∀ key, (s.get key).toNat ≤ 2 ^ 63 - 1

theorem fitsToml_iff : s.FitsToml ↔ (Outline.ofSettings s).fitsToml = true := by
  rw [Outline.fitsToml_ofSettings]
  exact forall_congr' fun key => Nat.le_sub_one_iff_lt (by decide)

theorem ofText_toText_ron (h : SettingsFormat.ofPath? path = some .ron) :
    ∃ text, s.toText path = .ok text ∧ ofText text path = .ok s := by
  refine ⟨String.ofList (Outline.ofSettings s).ronText, by rw [toText, h], ?_⟩
  simp only [ofText, h, String.toList_ofList,
    outlineOfRon?_ronText (Outline.wellFormed_ofSettings s), Outline.settings_ofSettings]

theorem ofText_toText_toml (h : SettingsFormat.ofPath? path = some .toml) (hfits : s.FitsToml) :
    ∃ text, s.toText path = .ok text ∧ ofText text path = .ok s := by
  have hwell := Outline.wellFormed_ofSettings s
  have hfits' := fitsToml_iff.mp hfits
  refine ⟨String.ofList (Outline.ofSettings s).tomlText, ?_, ?_⟩
  · simp only [toText, h, Outline.toToml?, if_pos hfits']
    rfl
  · simp only [ofText, h, String.toList_ofList, outlineOfToml?_tomlText hwell hfits',
      Outline.settings_ordered hwell, Outline.settings_ofSettings]

theorem toText_toml_of_not_fits (h : SettingsFormat.ofPath? path = some .toml)
    (hfits : ¬s.FitsToml) : s.toText path = .error .outOfRange := by
  simp only [toText, h, Outline.toToml?, if_neg (mt fitsToml_iff.mpr hfits)]
  rfl

/-! ## Outcomes -/

/-- The settings can be written in the format of a path, and their text stands for them.  Saved
where there can be a file, they are what is loaded from there, whatever the file held; elsewhere
nothing changes. -/
def RoundTrips (s : Settings) (path : String) (tree : FileTree) : Prop :=
  ∃ text, s.toText path = .ok text ∧ ofText text path = .ok s ∧
    (tree.Writable path → ∃ saved, s.save path tree = (.ok (), saved) ∧
      saved.readText? path = some text ∧ load saved path = .ok s) ∧
    (¬tree.Writable path → s.save path tree = (.error .inaccessible, tree))

/-- There is no text to be saved, and saving changes nothing. -/
def Refused (s : Settings) (path : String) (tree : FileTree) (cause : SettingsError) : Prop :=
  s.toText path = .error cause ∧ s.save path tree = (.error cause, tree)

theorem roundTrips_of_text
    (h : ∃ text, s.toText path = .ok text ∧ ofText text path = .ok s) : RoundTrips s path tree := by
  obtain ⟨text, htext, hread⟩ := h
  refine ⟨text, htext, hread, fun hwritable => ?_, fun hwritable => ?_⟩
  · obtain ⟨saved, hsaved⟩ : ∃ saved, tree.write? path text.toUTF8 = some saved :=
      FileTree.write?_of_writable hwritable
    refine ⟨saved, ?_, FileTree.readText?_of_write? hsaved, ?_⟩
    · simp only [save, htext, hsaved]
    · simp only [load, FileTree.readText?_of_write? hsaved, hread]
  · simp only [save, htext, FileTree.write?_of_not_writable hwritable]

theorem refused_of_text {cause : SettingsError} (h : s.toText path = .error cause) :
    Refused s path tree cause :=
  ⟨h, by simp only [save, h]⟩

/-- Saving and then loading gives back the settings, in one format for all values and in the other
for those that fit.  Every other save is refused before anything is written. -/
theorem save_then_load (s : Settings) (path : String) (tree : FileTree) :
    (".ron".toList <:+ path.toList → RoundTrips s path tree) ∧
    (".toml".toList <:+ path.toList →
      (s.FitsToml → RoundTrips s path tree) ∧
      (¬s.FitsToml → Refused s path tree .outOfRange)) ∧
    (¬".ron".toList <:+ path.toList → ¬".toml".toList <:+ path.toList →
      Refused s path tree (.unknownFormat path)) := by
  refine ⟨fun hron => ?_, fun htoml => ⟨fun hfits => ?_, fun hfits => ?_⟩, fun hron htoml => ?_⟩
  · exact roundTrips_of_text (ofText_toText_ron (SettingsFormat.ofPath?_ron hron))
  · exact roundTrips_of_text (ofText_toText_toml (SettingsFormat.ofPath?_toml htoml) hfits)
  · exact refused_of_text (toText_toml_of_not_fits (SettingsFormat.ofPath?_toml htoml) hfits)
  · have hnone := SettingsFormat.ofPath?_other htoml hron
    exact refused_of_text (by simp only [toText, hnone])

end Settings

end FramesInFlight
