import Mathlib.Data.List.Nodup
import Mathlib.Data.List.Perm.Basic
import FramesInFlight.Settings.Outline

/-!
# The meaning of outlines

An outline in which no group and no setting comes twice means the same in any order.

* `Outline.WellFormed` is that condition, together with every setting standing in its own group.
* `Outline.settings_of_perm` and `Outline.settings_ordered` say that the order does not matter: the
  values commute, and a format may give them back in the order of the groups.
* `Outline.settings_ofSettings` says that the full outline stands for the settings it is made of.
-/

namespace FramesInFlight

/-! ## Elements picked by their keys -/

section Pick

variable {α κ : Type} [DecidableEq κ] {key : α → κ} {keys : List κ} {l : List α}

/-- For each key the first element that has it, in the order of the keys. -/
def pick (key : α → κ) (keys : List κ) (l : List α) : List α :=
  keys.filterMap fun k => l.find? fun a => key a = k

/-- Where keys are different, the element that is found is the only one with the key. -/
theorem find?_key_iff (hl : (l.map key).Nodup) {k : κ} {a : α} :
    l.find? (fun b => key b = k) = some a ↔ a ∈ l ∧ key a = k := by
  constructor
  · intro hfound
    exact ⟨List.mem_of_find?_eq_some hfound, by simpa using List.find?_some hfound⟩
  · rintro ⟨ha, rfl⟩
    cases hfound : l.find? (fun b => key b = key a) with
    | none =>
      have hother := List.find?_eq_none.mp hfound a ha
      simp at hother
    | some b =>
      have hkey : key b = key a := by simpa using List.find?_some hfound
      rw [List.inj_on_of_nodup_map hl (List.mem_of_find?_eq_some hfound) ha hkey]

theorem mem_pick (hl : (l.map key).Nodup) (hkeys : ∀ a ∈ l, key a ∈ keys) (a : α) :
    a ∈ pick key keys l ↔ a ∈ l := by
  simp only [pick, List.mem_filterMap, find?_key_iff hl]
  constructor
  · rintro ⟨k, -, ha, -⟩
    exact ha
  · intro ha
    exact ⟨key a, hkeys a ha, ha, rfl⟩

/-- Picking by all keys there are only changes the order. -/
theorem pick_perm (hkeys : keys.Nodup) (hl : (l.map key).Nodup) (hmem : ∀ a ∈ l, key a ∈ keys) :
    (pick key keys l).Perm l := by
  refine (List.perm_ext_iff_of_nodup (hkeys.filterMap ?_) hl.of_map).mpr (mem_pick hl hmem)
  intro k k' a hk hk'
  rw [← ((find?_key_iff hl).mp hk).2, ((find?_key_iff hl).mp hk').2]

end Pick

/-! ## Names -/

namespace Settings

theorem Group.name_injective : Function.Injective Group.name := by
  intro g g' h
  cases g <;> cases g' <;> first | rfl | exact absurd h (by decide)

theorem Key.name_injective : Function.Injective Key.name := by
  intro k k' h
  cases k <;> cases k' <;> first | rfl | exact absurd h (by decide)

theorem Group.mem_all (group : Group) : group ∈ all := by cases group <;> decide

theorem Group.keys_nodup (group : Group) : group.keys.Nodup := by cases group <;> decide

/-- No setting stands in two groups. -/
theorem Group.eq_of_mem_keys {group group' : Group} {key : Key} (h : key ∈ group.keys)
    (h' : key ∈ group'.keys) : group = group' := by
  cases group <;> cases group' <;> cases key <;> first | rfl | simp [Group.keys] at h h'

/-! ## Values under names -/

section Lookup

variable {α β κ : Type} [DecidableEq κ] {name : κ → String} {key : α → κ} {value : α → β}

theorem lookup_name (hname : Function.Injective name) (l : List α) (k : κ) :
    (l.map fun a => (name (key a), value a)).lookup (name k) =
      (l.find? fun a => key a = k).map value := by
  induction l with
  | nil => rfl
  | cons a l ih =>
    rw [List.map_cons, List.lookup_cons, List.find?_cons, ih]
    by_cases h : key a = k
    · simp [h]
    · have hne : (name k == name (key a)) = false := by
        rw [beq_eq_false_iff_ne]
        exact fun heq => h (hname heq).symm
      simp [h, hne]

theorem lookup_name_of_mem (hname : Function.Injective name) (value : κ → β) {keys : List κ} {k : κ}
    (hk : k ∈ keys) : (keys.map fun k => (name k, value k)).lookup (name k) = some (value k) := by
  have hlookup : (keys.map fun k => (name k, value k)).lookup (name k) =
      (keys.find? fun a => a = k).map value := lookup_name hname keys k
  cases hfound : keys.find? fun a => a = k with
  | none =>
    have hother := List.find?_eq_none.mp hfound k hk
    simp at hother
  | some a =>
    have ha : a = k := by simpa using List.find?_some hfound
    rw [hlookup, hfound, ha, Option.map_some]

/-- Looking up all names in order picks the elements in order. -/
theorem filterMap_lookup_name (hname : Function.Injective name) (keys : List κ) (l : List α) :
    (keys.filterMap fun k => ((l.map fun a => (name (key a), value a)).lookup (name k)).map
      fun v => (k, v)) = (pick key keys l).map fun a => (key a, value a) := by
  rw [pick, List.map_filterMap]
  refine List.filterMap_congr fun k _ => ?_
  rw [lookup_name hname, Option.map_map]
  refine Option.map_congr fun a ha => ?_
  have hkey : key a = k := by simpa using List.find?_some ha
  rw [Function.comp_apply, hkey]

end Lookup

/-! ## Values laid over settings -/

variable {s : Settings} {key key' : Key} {value value' : UInt64}

theorem set_comm (h : key ≠ key') :
    (s.set key value).set key' value' = (s.set key' value').set key value := by
  cases key <;> cases key' <;> first | rfl | exact absurd rfl h

theorem get_set_self : (s.set key value).get key = value := by cases key <;> rfl

theorem get_set_of_ne (h : key' ≠ key) : (s.set key value).get key' = s.get key' := by
  cases key <;> cases key' <;> first | rfl | exact absurd rfl h

/-- A setting that is not given stays as it was. -/
theorem get_overlay_of_not_mem {given : List (Key × UInt64)} (h : key ∉ given.map (·.1)) :
    (s.overlay given).get key = s.get key := by
  induction given generalizing s with
  | nil => rfl
  | cons entry given ih =>
    rw [List.map_cons, List.mem_cons, not_or] at h
    exact (ih h.2).trans (get_set_of_ne h.1)

/-- A setting that is given gets one of its values: the last one, from which on nothing changes
it. -/
theorem get_overlay_of_mem {given : List (Key × UInt64)} (h : key ∈ given.map (·.1)) :
    (key, (s.overlay given).get key) ∈ given := by
  induction given generalizing s with
  | nil => cases h
  | cons entry given ih =>
    obtain ⟨first, v⟩ := entry
    by_cases hmore : key ∈ given.map (·.1)
    · exact List.mem_cons_of_mem _ (ih hmore)
    · obtain rfl : key = first := by
        rw [List.map_cons, List.mem_cons] at h
        exact h.resolve_right hmore
      have hget : ((s.set key v).overlay given).get key = v :=
        (get_overlay_of_not_mem hmore).trans get_set_self
      rw [show s.overlay ((key, v) :: given) = (s.set key v).overlay given from rfl, hget]
      exact List.mem_cons_self

/-- Values of different settings may be given in any order. -/
theorem overlay_perm {given given' : List (Key × UInt64)} (hgiven : (given.map (·.1)).Nodup)
    (hperm : given.Perm given') : s.overlay given = s.overlay given' := by
  refine hperm.foldl_eq' (fun entry hentry entry' hentry' s => ?_) s
  by_cases h : entry.1 = entry'.1
  · rw [List.inj_on_of_nodup_map hgiven hentry hentry' h]
  · exact set_comm h

end Settings

/-! ## Outlines -/

namespace Outline

/-- Every group comes at most once, and in it every setting at most once and only settings of the
group. -/
structure WellFormed (outline : Outline) : Prop where
  groups : (outline.map (·.group)).Nodup
  keys : ∀ part ∈ outline, (part.entries.map (·.1)).Nodup
  own : ∀ part ∈ outline, ∀ entry ∈ part.entries, entry.1 ∈ part.group.keys

variable {outline outline' : Outline}

theorem WellFormed.groupNames_nodup (h : WellFormed outline) :
    (outline.map (·.group.name)).Nodup := by
  simpa [Function.comp_def] using h.groups.map Settings.Group.name_injective

theorem Part.keyNames_nodup {part : Part} (hkeys : (part.entries.map (·.1)).Nodup) :
    (part.entries.map (·.1.name)).Nodup := by
  simpa [Function.comp_def] using hkeys.map Settings.Key.name_injective

/-- All settings that are given are different. -/
theorem WellFormed.given_nodup (h : WellFormed outline) : (outline.given.map (·.1)).Nodup := by
  rw [given, List.map_flatMap, List.nodup_flatMap]
  refine ⟨h.keys, ?_⟩
  have hgroups := h.groups
  rw [List.Nodup, List.pairwise_map] at hgroups
  refine hgroups.imp_of_mem fun {part part'} hpart hpart' hne key hkey hkey' => hne ?_
  obtain ⟨entry, hentry, rfl⟩ := List.mem_map.mp hkey
  obtain ⟨entry', hentry', heq⟩ := List.mem_map.mp hkey'
  have hown' := h.own part' hpart' entry' hentry'
  rw [heq] at hown'
  exact Settings.Group.eq_of_mem_keys (h.own part hpart entry hentry) hown'

/-- Outlines that give the same values in some order stand for the same settings. -/
theorem settings_of_perm (h : WellFormed outline) (hperm : outline.given.Perm outline'.given) :
    outline.settings = outline'.settings :=
  Settings.overlay_perm h.given_nodup hperm

/-! ### The order of the groups -/

/-- The values of a part in the order of its group. -/
def Part.ordered (part : Part) : Part :=
  { part with entries := pick (·.1) part.group.keys part.entries }

/-- The outline in the order in which everything is written. -/
def ordered (outline : Outline) : Outline :=
  (pick (·.group) Settings.Group.all outline).map Part.ordered

theorem settings_ordered (h : WellFormed outline) :
    outline.ordered.settings = outline.settings := by
  refine (settings_of_perm h ?_).symm
  rw [given, given, ordered, List.flatMap_map]
  refine List.Perm.symm (List.Perm.flatMap ?_ fun part hpart => ?_)
  · exact pick_perm (by decide) h.groups fun part _ => part.group.mem_all
  · have hpart' := (mem_pick h.groups (fun part _ => part.group.mem_all) part).mp hpart
    exact pick_perm part.group.keys_nodup (h.keys part hpart') (h.own part hpart')

/-! ### The outline that says everything -/

theorem wellFormed_ofSettings (s : Settings) : WellFormed (ofSettings s) where
  groups := by
    rw [ofSettings, List.map_map]
    change Settings.Group.all.Nodup
    decide
  keys := by
    intro part hpart
    obtain ⟨group, -, rfl⟩ := List.mem_map.mp hpart
    simpa [Function.comp_def] using group.keys_nodup
  own := by
    intro part hpart entry hentry
    obtain ⟨group, -, rfl⟩ := List.mem_map.mp hpart
    obtain ⟨key, hkey, rfl⟩ := List.mem_map.mp hentry
    exact hkey

theorem settings_ofSettings (s : Settings) : (ofSettings s).settings = s := rfl

theorem mem_given_ofSettings {s : Settings} {entry : Settings.Key × UInt64} :
    entry ∈ (ofSettings s).given ↔ entry.2 = s.get entry.1 := by
  obtain ⟨key, value⟩ := entry
  cases key <;> simp [given, ofSettings, Settings.Group.all, Settings.Group.keys]

end Outline

end FramesInFlight
