import Mathlib.Data.List.Basic
import FramesInFlight.Keyed

/-!
# Keyed lists

What replacing or changing the value under a key does to a keyed list.

* `lookup_put_self` and `lookup_put_of_ne` say what is found after a value was put.
* `change?_append` and `change?_new` follow a change to the entry it is about, and `forall_change?`
  carries a property of all values through it.
-/

namespace FramesInFlight

namespace Keyed

variable {α β : Type} [BEq α] {key key' : α} {value : β} {entries entries' : List (α × β)}
  {make : Option β → Option β}

/-- What holds of all values holds of them after a change that makes a value of that kind. -/
theorem forall_change? {P : β → Prop}
    (hmake : ∀ old v, (∀ u, old = some u → P u) → make old = some v → P v)
    (hentries : ∀ entry ∈ entries, P entry.2) (h : change? key make entries = some entries') :
    ∀ entry ∈ entries', P entry.2 := by
  induction entries generalizing entries' with
  | nil =>
    obtain ⟨v, hv, rfl⟩ := Option.map_eq_some_iff.mp h
    rw [List.forall_mem_singleton]
    exact hmake none v (fun u hu => by cases hu) hv
  | cons entry entries ih =>
    rw [List.forall_mem_cons] at hentries
    rw [change?] at h
    split at h
    · obtain ⟨v, hv, rfl⟩ := Option.map_eq_some_iff.mp h
      refine List.forall_mem_cons.mpr ⟨hmake _ v (fun u hu => ?_) hv, hentries.2⟩
      cases hu
      exact hentries.1
    · obtain ⟨rest, hrest, rfl⟩ := Option.map_eq_some_iff.mp h
      exact List.forall_mem_cons.mpr ⟨hentries.1, ih hentries.2 hrest⟩

variable [LawfulBEq α]

theorem mem_of_lookup (h : entries.lookup key = some value) : (key, value) ∈ entries := by
  obtain ⟨before, after, rfl, -⟩ := List.lookup_eq_some_iff.mp h
  exact List.mem_append_right before List.mem_cons_self

theorem lookup_eq_none (h : key ∉ entries.map (·.1)) : entries.lookup key = none := by
  refine List.lookup_eq_none_iff.mpr fun entry hentry => ?_
  rw [bne_iff_ne]
  rintro rfl
  exact h (List.mem_map_of_mem hentry)

theorem lookup_put_self : (put key value entries).lookup key = some value := by
  induction entries with
  | nil => simp [put]
  | cons entry entries ih =>
    rw [put]
    split
    · simp
    · next hne =>
      have hne' : (key == entry.1) = false :=
        beq_eq_false_iff_ne.mpr fun h => hne (beq_iff_eq.mpr h.symm)
      rw [List.lookup_cons, hne', ih]

theorem lookup_put_of_ne (h : key' ≠ key) :
    (put key value entries).lookup key' = entries.lookup key' := by
  have hne : (key' == key) = false := beq_eq_false_iff_ne.mpr h
  induction entries with
  | nil => rw [put, List.lookup_cons, hne]
  | cons entry entries ih =>
    rw [put]
    split
    · next heq => rw [List.lookup_cons, List.lookup_cons, eq_of_beq heq, hne]
    · rw [List.lookup_cons, List.lookup_cons, ih]

/-- A change leaves the entries before the first one with its key as they are. -/
theorem change?_append {before : List (α × β)} (hbefore : key ∉ before.map (·.1))
    (after : List (α × β)) :
    change? key make (before ++ after) = (change? key make after).map (before ++ ·) := by
  induction before with
  | nil => simp
  | cons entry before ih =>
    rw [List.map_cons, List.mem_cons, not_or] at hbefore
    have hne : ¬(entry.1 == key) = true := fun h => hbefore.1 (eq_of_beq h).symm
    rw [List.cons_append, change?, if_neg hne, ih hbefore.2, Option.map_map]
    rfl

theorem change?_new (hnew : key ∉ entries.map (·.1)) :
    change? key make entries = (make none).map fun value => entries ++ [(key, value)] := by
  have happend : change? key make (entries ++ []) =
      (change? key make []).map (entries ++ ·) := change?_append hnew []
  rwa [List.append_nil, change?, Option.map_map] at happend

end Keyed

end FramesInFlight
