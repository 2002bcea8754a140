import FramesInFlight.Proofs.Settings.Saving
import FramesInFlight.Proofs.Toml.Ranges

/-!
# Saving what was loaded

What a document gives can be written again in its format, but what it leaves out may not be: the
timeout that holds when none is given is no integer of TOML.

* `Settings.given_lt_of_outlineOfToml?` says that whatever a TOML document gives is an integer of
  the format.
* `Settings.fitsToml_settings_iff` says that the settings it stands for can be written exactly when
  it gives the timeout.
* `Settings.resave_loaded` puts both formats together, and `Settings.default_timeout_is_not_resaved`
  is a document that is accepted and cannot be written again.
-/

namespace FramesInFlight

namespace Settings

/-! ## Values of documents -/

/-- What comes out of a map that may fail was made from some element. -/
theorem exists_of_mem_mapM {α β : Type} {f : α → Option β} {l : List α} {made : List β}
    (h : l.mapM f = some made) {b : β} (hb : b ∈ made) : ∃ a ∈ l, f a = some b := by
  induction l generalizing made with
  | nil =>
    cases h
    cases hb
  | cons a l ih =>
    rw [List.mapM_cons] at h
    obtain ⟨first, hfirst, h⟩ := Option.bind_eq_some_iff.mp h
    obtain ⟨rest, hrest, h⟩ := Option.bind_eq_some_iff.mp h
    cases h
    rcases List.mem_cons.mp hb with rfl | hb
    · exact ⟨a, List.mem_cons_self, hfirst⟩
    · obtain ⟨a', ha', hf⟩ := ih hrest hb
      exact ⟨a', List.mem_cons_of_mem a ha', hf⟩

theorem countOfToml?_lt {v : Toml.Value} {n : UInt64} (hv : v.InRange)
    (h : countOfToml? v = some n) : n.toNat < 2 ^ 63 := by
  cases hv with
  | @integer m _ hhigh =>
    simp only [countOfToml?] at h
    split at h
    · cases h
      unfold Toml.integerLimit at hhigh
      rw [UInt64.toNat_ofNat']
      omega
    · cases h
  | _ => cases h

theorem ofToml?_lt {group : Group} {v : Toml.Value} {given : List (Key × UInt64)} (hv : v.InRange)
    (h : group.ofToml? v = some given) : ∀ entry ∈ given, entry.2.toNat < 2 ^ 63 := by
  intro entry hentry
  obtain ⟨pairs, hpairs, h⟩ := Option.bind_eq_some_iff.mp h
  obtain ⟨⟨key, u⟩, hpair, hcount⟩ := exists_of_mem_mapM h hentry
  obtain ⟨n, hn, rfl⟩ := Option.map_eq_some_iff.mp hcount
  refine countOfToml?_lt ?_ hn
  cases hv with
  | table hentries =>
    cases hpairs
    obtain ⟨key', -, hlookup⟩ := List.mem_filterMap.mp hpair
    obtain ⟨u', hu, heq⟩ := Option.map_eq_some_iff.mp hlookup
    cases heq
    exact hentries _ (Keyed.mem_of_lookup hu)
  | array hitems =>
    cases hpairs
    exact hitems u (List.of_mem_zip hpair).2
  | moment =>
    cases hpairs
    cases hpair
  | _ => cases hpairs

/-- Whatever a document gives is an integer of the format. -/
theorem given_lt_of_outlineOfToml? {text : List Char} {outline : Outline}
    (h : outlineOfToml? text = some outline) :
    ∀ entry ∈ outline.given, entry.2.toNat < 2 ^ 63 := by
  intro entry hentry
  obtain ⟨part, hpart, hmem⟩ := List.mem_flatMap.mp hentry
  obtain ⟨entries, hentries, h⟩ := Option.bind_eq_some_iff.mp h
  obtain ⟨⟨group, v⟩, hgroup, hmade⟩ := exists_of_mem_mapM h hpart
  obtain ⟨given, hgiven, rfl⟩ := Option.map_eq_some_iff.mp hmade
  obtain ⟨group', -, hlookup⟩ := List.mem_filterMap.mp hgroup
  obtain ⟨v', hv, heq⟩ := Option.map_eq_some_iff.mp hlookup
  cases heq
  exact ofToml?_lt (Toml.entries?_inRange hentries _ (Keyed.mem_of_lookup hv)) hgiven entry hmem

/-! ## Settings of documents -/

variable {outline : Outline}

/-- Among the settings that hold when nothing is said, only the timeout does not fit. -/
theorem default_fits_iff (key : Key) :
    (get {} key).toNat ≤ 2 ^ 63 - 1 ↔ key ≠ .fenceTimeout := by
  cases key <;> decide

theorem fitsToml_settings_iff (hgiven : ∀ entry ∈ outline.given, entry.2.toNat < 2 ^ 63) :
    outline.settings.FitsToml ↔ Key.fenceTimeout ∈ outline.given.map (·.1) := by
  constructor
  · intro hfits
    by_contra hmem
    have hget : outline.settings.get .fenceTimeout = get {} .fenceTimeout :=
      get_overlay_of_not_mem hmem
    have hdefault := hfits .fenceTimeout
    rw [hget, default_fits_iff] at hdefault
    exact hdefault rfl
  · intro hmem key
    by_cases hkey : key ∈ outline.given.map (·.1)
    · exact Nat.le_sub_one_of_lt (hgiven _ (get_overlay_of_mem hkey))
    · have hget : outline.settings.get key = get {} key := get_overlay_of_not_mem hkey
      rw [hget, default_fits_iff]
      rintro rfl
      exact hkey hmem

/-! ## Loading and saving again -/

variable {s : Settings} {text path : String}

theorem outline_of_ofText (hformat : SettingsFormat.ofPath? path = some .toml)
    (h : ofText text path = .ok s) :
    ∃ outline, outlineOfToml? text.toList = some outline ∧ s = outline.settings := by
  simp only [ofText, hformat] at h
  split at h
  · cases h
  · next outline houtline =>
    cases h
    exact ⟨outline, houtline, rfl⟩

/-- Settings that were loaded can be saved in the same format and loaded again, except that a TOML
document has to give the timeout.  Where it does not, the timeout is the longest there is, and
nothing is saved. -/
theorem resave_loaded (tree : FileTree) (h : ofText text path = .ok s) :
    (".ron".toList <:+ path.toList → RoundTrips s path tree) ∧
    (".toml".toList <:+ path.toList →
      ∃ outline, outlineOfToml? text.toList = some outline ∧ s = outline.settings ∧
        (Key.fenceTimeout ∈ outline.given.map (·.1) → RoundTrips s path tree) ∧
        (Key.fenceTimeout ∉ outline.given.map (·.1) →
          s.frame.fenceTimeout.toNat = 2 ^ 64 - 1 ∧ Refused s path tree .outOfRange)) := by
  refine ⟨fun hron => ?_, fun htoml => ?_⟩
  · exact roundTrips_of_text (ofText_toText_ron (SettingsFormat.ofPath?_ron hron))
  · have hformat := SettingsFormat.ofPath?_toml htoml
    obtain ⟨outline, houtline, rfl⟩ := outline_of_ofText hformat h
    have hiff := fitsToml_settings_iff (given_lt_of_outlineOfToml? houtline)
    refine ⟨outline, houtline, rfl, fun hmem => ?_, fun hmem => ⟨?_, ?_⟩⟩
    · exact roundTrips_of_text (ofText_toText_toml hformat (hiff.mpr hmem))
    · have hget : outline.settings.get .fenceTimeout = get {} .fenceTimeout :=
        get_overlay_of_not_mem hmem
      exact congrArg UInt64.toNat hget
    · exact refused_of_text (toText_toml_of_not_fits hformat (mt hiff.mp hmem))

theorem short_timeout_is_resaved :
    ofText "[frame_task]\nfence_timeout_ns = 5\n" "a.toml" =
        .ok { frame := { fenceTimeout := 5 } } ∧
      RoundTrips { frame := { fenceTimeout := 5 } } "a.toml" {} := by
  have hload : ofText "[frame_task]\nfence_timeout_ns = 5\n" "a.toml" =
      .ok { frame := { fenceTimeout := 5 } } := by decide +kernel
  have hread : outlineOfToml? "[frame_task]\nfence_timeout_ns = 5\n".toList =
      some [⟨.frame, [(.fenceTimeout, 5)]⟩] := by decide +kernel
  obtain ⟨outline, houtline, -, hsaved, -⟩ := (resave_loaded {} hload).2 (by decide)
  rw [hread] at houtline
  cases houtline
  exact ⟨hload, hsaved (by decide)⟩

theorem default_timeout_is_not_resaved :
    ofText "[frame_task]\nnum_buffers = 2\n\n[lighting]\nmax_number_lights = 16\n" "renderer.toml" =
        .ok { frame := { numBuffers := 2 }, light := { maxLights := 16 } } ∧
      save { frame := { numBuffers := 2 }, light := { maxLights := 16 } } "renderer.toml" {} =
        (.error .outOfRange, {}) := by
  refine ⟨by decide +kernel, rfl⟩

end Settings

end FramesInFlight
