import FramesInFlight.Proofs.Settings.Saving

/-!
# Partial documents

A document may give any of the settings, in any order, under any of the groups it names.  In both
formats it stands for the same settings: what it gives, and for the rest what holds when nothing is
said.

* `Settings.withValues` lays some values over settings, one setting at a time.
* `Outline.Gives` says that an outline gives exactly these values, in whatever order.
* `Settings.partial_documents_agree` says that documents in both formats are accepted and agree.
-/

namespace FramesInFlight

namespace Settings

variable {s s' : Settings} {values : Key → Option UInt64} {key : Key}

/-- The settings with other values where some are given. -/
def withValues (s : Settings) (values : Key → Option UInt64) : Settings where
  frame.numBuffers := (values .numBuffers).getD s.frame.numBuffers
  frame.fenceTimeout := (values .fenceTimeout).getD s.frame.fenceTimeout
  frame.idleSleep := (values .idleSleep).getD s.frame.idleSleep
  light.maxLights := (values .maxLights).getD s.light.maxLights
  light.maxViewports := (values .maxViewports).getD s.light.maxViewports

theorem get_withValues : (s.withValues values).get key = (values key).getD (s.get key) := by
  cases key <;> rfl

/-- Settings are what their single values are. -/
theorem eq_of_get (h : ∀ key, s.get key = s'.get key) : s = s' := by
  obtain ⟨⟨numBuffers, fenceTimeout, idleSleep⟩, maxLights, maxViewports⟩ := s
  obtain rfl : numBuffers = s'.frame.numBuffers := h .numBuffers
  obtain rfl : fenceTimeout = s'.frame.fenceTimeout := h .fenceTimeout
  obtain rfl : idleSleep = s'.frame.idleSleep := h .idleSleep
  obtain rfl : maxLights = s'.light.maxLights := h .maxLights
  obtain rfl : maxViewports = s'.light.maxViewports := h .maxViewports
  rfl

end Settings

/-! ## Outlines -/

namespace Outline

open Settings

/-- Whether an outline gives these values and no others.  A group that gives nothing may be named or
not. -/
structure Gives (outline : Outline) (values : Key → Option UInt64) : Prop where
  wellFormed : outline.WellFormed
  mem_given : ∀ key value, (key, value) ∈ outline.given ↔ values key = some value

variable {outline : Outline} {values : Key → Option UInt64}

/-- What an outline stands for depends only on the values it gives. -/
theorem Gives.settings_eq (h : outline.Gives values) :
    outline.settings = ({} : Settings).withValues values := by
  refine eq_of_get fun key => ?_
  rw [get_withValues]
  -- A setting that is given has one of its values, and there is only one.
  by_cases hmem : key ∈ outline.given.map (·.1)
  · have hentry : (key, outline.settings.get key) ∈ outline.given := get_overlay_of_mem hmem
    rw [(h.mem_given key _).mp hentry, Option.getD_some]
  · have hnone : values key = none := by
      refine Option.eq_none_iff_forall_ne_some.mpr fun value hvalue => hmem ?_
      exact List.mem_map_of_mem ((h.mem_given key value).mpr hvalue)
    rw [hnone, Option.getD_none]
    exact get_overlay_of_not_mem hmem

theorem Gives.fitsToml (h : outline.Gives values)
    (hvalues : ∀ key value, values key = some value → value.toNat ≤ 2 ^ 63 - 1) :
    outline.fitsToml = true := by
  refine List.all_eq_true.mpr fun entry hentry => decide_eq_true ?_
  have hle := hvalues entry.1 entry.2 ((h.mem_given entry.1 entry.2).mp hentry)
  unfold Toml.integerLimit
  omega

end Outline

/-! ## Documents -/

namespace Settings

variable {outline toml ron : Outline} {values : Key → Option UInt64}
  {text path tomlText tomlPath ronText ronPath : String}

theorem ofText_of_writtenAsToml (h : outline.Gives values)
    (hvalues : ∀ key value, values key = some value → value.toNat ≤ 2 ^ 63 - 1)
    (hwritten : outline.WrittenAsToml text.toList) (hpath : ".toml".toList <:+ path.toList) :
    ofText text path = .ok (({} : Settings).withValues values) := by
  simp only [ofText, SettingsFormat.ofPath?_toml hpath,
    outlineOfToml?_of_written h.wellFormed (h.fitsToml hvalues) hwritten,
    Outline.settings_ordered h.wellFormed, h.settings_eq]

theorem ofText_of_writtenAsRon (h : outline.Gives values)
    (hwritten : outline.WrittenAsRon text.toList) (hpath : ".ron".toList <:+ path.toList) :
    ofText text path = .ok (({} : Settings).withValues values) := by
  simp only [ofText, SettingsFormat.ofPath?_ron hpath,
    outlineOfRon?_of_written h.wellFormed hwritten, h.settings_eq]

/-- Documents that give the same values are accepted in both formats, and stand for the settings
that hold when nothing is said with exactly these values laid over them.  The groups may come in any
order, and the settings in them, and both may be left out. -/
theorem partial_documents_agree
    (hvalues : ∀ key value, values key = some value → value.toNat ≤ 2 ^ 63 - 1)
    (htoml : toml.Gives values) (hron : ron.Gives values)
    (htomlText : toml.WrittenAsToml tomlText.toList) (hronText : ron.WrittenAsRon ronText.toList)
    (htomlPath : ".toml".toList <:+ tomlPath.toList) (hronPath : ".ron".toList <:+ ronPath.toList) :
    ofText tomlText tomlPath = .ok (({} : Settings).withValues values) ∧
      ofText ronText ronPath = .ok (({} : Settings).withValues values) :=
  ⟨ofText_of_writtenAsToml htoml hvalues htomlText htomlPath,
    ofText_of_writtenAsRon hron hronText hronPath⟩

/-- Four slots and a timeout, and nothing else. -/
def slotsAndTimeout : Key → Option UInt64
  | .numBuffers => some 4
  | .fenceTimeout => some 1000
  | _ => none

/-- The values behind a group that gives nothing. -/
def emptyGroupFirst : Outline :=
  [⟨.light, []⟩, ⟨.frame, [(.fenceTimeout, 1000), (.numBuffers, 4)]⟩]

/-- The values in the order of their group, and no other group. -/
def frameGroupOnly : Outline := [⟨.frame, [(.numBuffers, 4), (.fenceTimeout, 1000)]⟩]

/-- All fields stand on one line, without a comma behind the last of them. -/
theorem frameGroupOnly_writtenAsRon : frameGroupOnly.WrittenAsRon
    "(frame_task: (num_buffers: 4, fence_timeout_ns: 1000))".toList := by
  have hspace : Ron.IsGap [' '] := List.forall_mem_singleton.mpr (by decide)
  have hentries : Ron.WrittenFields WrittenEntry [(.numBuffers, 4), (.fenceTimeout, 1000)] _ :=
    .cons Ron.IsGap.nil (.field Ron.IsGap.nil hspace rfl) Ron.IsGap.nil
      (.last hspace (.field Ron.IsGap.nil hspace rfl) Ron.IsGap.nil)
  have hparts : Ron.WrittenFields WrittenPart frameGroupOnly _ :=
    .last Ron.IsGap.nil (.field Ron.IsGap.nil hspace (.record hentries)) Ron.IsGap.nil
  exact ⟨[], _, [], Ron.IsGap.nil, .record hparts, Ron.IsGap.nil, by decide +kernel⟩

theorem slots_and_timeout_agree :
    ofText "[lighting]\n\n[frame_task]\nfence_timeout_ns = 1000\nnum_buffers = 4\n" "a.toml" =
        .ok { frame := { numBuffers := 4, fenceTimeout := 1000 } } ∧
      ofText "(frame_task: (num_buffers: 4, fence_timeout_ns: 1000))" "a.ron" =
        .ok { frame := { numBuffers := 4, fenceTimeout := 1000 } } := by
  have hvalues : ∀ key value, slotsAndTimeout key = some value → value.toNat ≤ 2 ^ 63 - 1 := by
    rintro (_ | _ | _ | _ | _) value h <;> cases h <;> decide
  have htoml : emptyGroupFirst.Gives slotsAndTimeout := by
    refine ⟨⟨by decide, by decide, by decide⟩, ?_⟩
    rintro (_ | _ | _ | _ | _) value <;>
      simp [emptyGroupFirst, Outline.given, slotsAndTimeout, eq_comm]
  have hron : frameGroupOnly.Gives slotsAndTimeout := by
    refine ⟨⟨by decide, by decide, by decide⟩, ?_⟩
    rintro (_ | _ | _ | _ | _) value <;>
      simp [frameGroupOnly, Outline.given, slotsAndTimeout, eq_comm]
  have htomlText : emptyGroupFirst.WrittenAsToml
      "[lighting]\n\n[frame_task]\nfence_timeout_ns = 1000\nnum_buffers = 4\n".toList := by
    have heq : emptyGroupFirst.tomlText =
        "[lighting]\n\n[frame_task]\nfence_timeout_ns = 1000\nnum_buffers = 4\n".toList := by
      decide +kernel
    rw [← heq]
    exact writtenAsToml_tomlText emptyGroupFirst
  exact partial_documents_agree hvalues htoml hron htomlText frameGroupOnly_writtenAsRon
    (by decide) (by decide)

end Settings

end FramesInFlight
