import Mathlib
import FramesInFlight.Proofs.Scene.Run

/-!
# Bins of views

A change lists bin numbers for some views, a view possibly several times, and every view ends up with
a bin for each number it was given.  Bins are only ever added, at the end and one at a time, so what
a run leaves of a view depends on the numbers that the run mentions for it and on their order alone.

* `ascendingSet_eq_sort` identifies the order in which the numbers of one entry are taken.
* `View.Gained` relates a view to what it was before some numbers were mentioned for it, and
  `View.Gained.require` is one more number.
* `run_views` says that a run hands each view exactly the numbers it mentions for it, in order.
* `bins_follow_mentions` is the result for every run.
-/

namespace FramesInFlight

variable {σ : Type}

/-! ## The numbers of an entry -/

theorem mem_insertAscending {n m : Int} {numbers : List Int} :
    m ∈ insertAscending n numbers ↔ m = n ∨ m ∈ numbers := by
  induction numbers with
  | nil => simp [insertAscending]
  | cons k rest ih =>
    rw [insertAscending]
    split
    · exact List.mem_cons
    split
    · next heq => simp [heq]
    · rw [List.mem_cons, ih, List.mem_cons, or_left_comm]

theorem insertAscending_pairwise {n : Int} {numbers : List Int}
    (h : numbers.Pairwise (· < ·)) : (insertAscending n numbers).Pairwise (· < ·) := by
  induction numbers with
  | nil => exact List.pairwise_singleton _ _
  | cons k rest ih =>
    obtain ⟨hfirst, hrest⟩ := List.pairwise_cons.mp h
    rw [insertAscending]
    split
    · next hlt =>
      refine List.pairwise_cons.mpr ⟨fun m hm => ?_, h⟩
      rcases List.mem_cons.mp hm with rfl | hm
      · exact hlt
      · exact hlt.trans (hfirst m hm)
    split
    · exact h
    · refine List.pairwise_cons.mpr ⟨fun m hm => ?_, ih hrest⟩
      rcases mem_insertAscending.mp hm with rfl | hm
      · omega
      · exact hfirst m hm

theorem mem_ascendingSet {n : Int} {numbers : List Int} : n ∈ ascendingSet numbers ↔ n ∈ numbers := by
  induction numbers with
  | nil => exact Iff.rfl
  | cons m rest ih =>
    rw [ascendingSet, List.foldr_cons, mem_insertAscending, List.mem_cons]
    exact or_congr_right ih

theorem ascendingSet_pairwise (numbers : List Int) : (ascendingSet numbers).Pairwise (· < ·) := by
  induction numbers with
  | nil => exact List.Pairwise.nil
  | cons _ _ ih => exact insertAscending_pairwise ih

/-- The numbers of an entry are taken as the ascending list of their set. -/
theorem ascendingSet_eq_sort (numbers : List Int) :
    ascendingSet numbers = numbers.toFinset.sort := by
  have hset : (ascendingSet numbers).toFinset = numbers.toFinset := by
    ext n
    rw [List.mem_toFinset, List.mem_toFinset, mem_ascendingSet]
  have hascending := ascendingSet_pairwise numbers
  rw [← hset]
  exact ((List.toFinset_sort _ (hascending.imp ne_of_lt)).mpr (hascending.imp le_of_lt)).symm

/-! ## One view -/

namespace View

/-- The numbers of a view's bins, in order. -/
def numbers (view : View) : List Int := view.bins.map (·.number)

theorem hasBin_iff {view : View} {n : Int} : view.hasBin n = true ↔ n ∈ view.numbers := by
  simp [hasBin, numbers]

theorem require_of_new {view : View} {n : Int} (hnew : ¬view.hasBin n = true) :
    view.require n = ⟨view.bins ++ [.ofNumber n]⟩ := by
  rw [require, if_neg hnew]

theorem numbers_require_of_new {view : View} {n : Int} (hnew : ¬view.hasBin n = true) :
    (view.require n).numbers = view.numbers ++ [n] := by
  rw [require_of_new hnew, numbers, List.map_append]
  rfl

theorem requireAll_append (view : View) (earlier later : List Int) :
    view.requireAll (earlier ++ later) = (view.requireAll earlier).requireAll later :=
  List.foldl_append

/-- All that is done to a view is to add the missing bins at its end. -/
theorem requireAll_bins (view : View) (mentioned : List Int) :
    (view.requireAll mentioned).bins =
      view.bins ++ (view.missing mentioned).map .ofNumber := by
  induction mentioned generalizing view with
  | nil => exact (List.append_nil _).symm
  | cons n rest ih =>
    change ((view.require n).requireAll rest).bins = _
    rw [ih, missing]
    by_cases hold : view.hasBin n = true
    · rw [require, if_pos hold, if_pos hold]
    · rw [if_neg hold, require_of_new hold, List.append_assoc, List.map_cons,
        List.singleton_append]

theorem mem_missing {view : View} {mentioned : List Int} {m : Int} :
    m ∈ view.missing mentioned ↔ m ∈ mentioned ∧ m ∉ view.numbers := by
  induction mentioned generalizing view with
  | nil => simp [missing]
  | cons n rest ih =>
    rw [missing]
    split
    · next hold =>
      have hn := hasBin_iff.mp hold
      rw [ih, List.mem_cons]
      constructor
      · exact fun ⟨hm, hfree⟩ => ⟨.inr hm, hfree⟩
      · rintro ⟨rfl | hm, hfree⟩
        · exact absurd hn hfree
        · exact ⟨hm, hfree⟩
    · next hnew =>
      have hn : n ∉ view.numbers := fun h => hnew (hasBin_iff.mpr h)
      rw [List.mem_cons, ih, numbers_require_of_new hnew, List.mem_append, List.mem_singleton,
        List.mem_cons]
      constructor
      · rintro (rfl | ⟨hm, hfree⟩)
        · exact ⟨.inl rfl, hn⟩
        · exact ⟨.inr hm, fun h => hfree (.inl h)⟩
      · rintro ⟨rfl | hm, hfree⟩
        · exact .inl rfl
        · by_cases heq : m = n
          · exact .inl heq
          · exact .inr ⟨hm, not_or.mpr ⟨hfree, heq⟩⟩

theorem not_mem_missing_require {view : View} {n : Int} (hnew : ¬view.hasBin n = true)
    (rest : List Int) : n ∉ (view.require n).missing rest := by
  rw [mem_missing, numbers_require_of_new hnew]
  exact fun h => h.2 (List.mem_append_right _ List.mem_cons_self)

/-- A number is added once. -/
theorem missing_nodup (view : View) (mentioned : List Int) : (view.missing mentioned).Nodup := by
  induction mentioned generalizing view with
  | nil => exact List.nodup_nil
  | cons n rest ih =>
    rw [missing]
    split
    · exact ih view
    · next hnew => exact List.nodup_cons.mpr ⟨not_mem_missing_require hnew rest, ih _⟩

/-- Numbers are added in the order in which they are first mentioned. -/
theorem missing_pairwise (view : View) (mentioned : List Int) :
    (view.missing mentioned).Pairwise fun n m => mentioned.idxOf n < mentioned.idxOf m := by
  induction mentioned generalizing view with
  | nil => exact List.Pairwise.nil
  | cons n rest ih =>
    -- A number other than the first is mentioned one place later in the whole list.
    have hshift {view : View} (hfirst : n ∉ view.missing rest) :
        (view.missing rest).Pairwise fun m k => (n :: rest).idxOf m < (n :: rest).idxOf k := by
      refine (ih view).imp_of_mem fun hm hk hlt => ?_
      rw [List.idxOf_cons_ne _ (ne_of_mem_of_not_mem hm hfirst).symm,
        List.idxOf_cons_ne _ (ne_of_mem_of_not_mem hk hfirst).symm]
      omega
    rw [missing]
    split
    · next hold => exact hshift fun h => (mem_missing.mp h).2 (hasBin_iff.mp hold)
    · next hnew =>
      have hfirst := not_mem_missing_require hnew rest
      refine List.pairwise_cons.mpr ⟨fun m hm => ?_, hshift hfirst⟩
      rw [List.idxOf_cons_self, List.idxOf_cons_ne _ (ne_of_mem_of_not_mem hm hfirst).symm]
      omega

/-- A view that has a bin for each number is left as it is. -/
theorem requireAll_of_subset {view : View} {mentioned : List Int}
    (h : ∀ n ∈ mentioned, n ∈ view.numbers) : view.requireAll mentioned = view := by
  have hmissing : view.missing mentioned = [] :=
    List.eq_nil_iff_forall_not_mem.mpr fun n hn =>
      (mem_missing.mp hn).2 (h n (mem_missing.mp hn).1)
  have hbins := view.requireAll_bins mentioned
  rw [hmissing, List.map_nil, List.append_nil] at hbins
  exact congrArg View.mk hbins

theorem ofNumber_sorted (n : Int) :
    (n < 0 → (Bin.ofNumber n).order = .ascending) ∧ (n = 0 → (Bin.ofNumber n).order = .unsorted) ∧
      (0 < n → (Bin.ofNumber n).order = .descending) := by
  unfold Bin.ofNumber SortOrder.ofNumber
  refine ⟨fun h => if_pos h, fun h => ?_, fun h => ?_⟩
  · subst h
    rfl
  · rw [if_neg (by omega), if_neg (by omega)]

/-- What a view is after some numbers were mentioned for it, one after the other. -/
structure Gained (before : View) (mentioned : List Int) (after : View) : Prop where
  /-- The bins it had come first, as they were. -/
  keeps : before.bins <+: after.bins
  /-- It has bins for the numbers it had and for those mentioned. -/
  covers : ∀ n, n ∈ after.numbers ↔ n ∈ before.numbers ∨ n ∈ mentioned
  /-- A number that it did not have before has one bin, however often it was mentioned. -/
  once : ∀ n ∉ before.numbers, n ∈ mentioned → after.numbers.count n = 1
  /-- A new bin has a number that there was no bin for, and is sorted as the number's sign says. -/
  added : ∀ bin ∈ after.bins.drop before.bins.length, bin.number ∉ before.numbers ∧
    (bin.number < 0 → bin.order = .ascending) ∧ (bin.number = 0 → bin.order = .unsorted) ∧
      (0 < bin.number → bin.order = .descending)
  /-- New bins stand in the order in which their numbers were first mentioned. -/
  firstMention : (after.bins.drop before.bins.length).Pairwise fun bin later =>
    mentioned.idxOf bin.number < mentioned.idxOf later.number
  /-- Bins of different numbers stay bins of different numbers. -/
  nodup : before.numbers.Nodup → after.numbers.Nodup

theorem requireAll_numbers (view : View) (mentioned : List Int) :
    (view.requireAll mentioned).numbers = view.numbers ++ view.missing mentioned := by
  have hnumber : ((·.number) ∘ Bin.ofNumber : Int → Int) = id := rfl
  rw [numbers, requireAll_bins, List.map_append, List.map_map, hnumber, List.map_id]
  rfl

theorem requireAll_gained (view : View) (mentioned : List Int) :
    view.Gained mentioned (view.requireAll mentioned) := by
  have hdrop : (view.requireAll mentioned).bins.drop view.bins.length =
      (view.missing mentioned).map .ofNumber := by
    rw [requireAll_bins, List.drop_left]
  refine ⟨?_, fun n => ?_, fun n hfree hn => ?_, ?_, ?_, fun hnodup => ?_⟩
  · rw [requireAll_bins]
    exact List.prefix_append _ _
  · rw [requireAll_numbers, List.mem_append, mem_missing]
    tauto
  · rw [requireAll_numbers, List.count_append, List.count_eq_zero_of_not_mem hfree, Nat.zero_add]
    exact List.count_eq_one_of_mem (view.missing_nodup mentioned) (mem_missing.mpr ⟨hn, hfree⟩)
  · rw [hdrop]
    intro bin hbin
    obtain ⟨n, hn, rfl⟩ := List.mem_map.mp hbin
    exact ⟨(mem_missing.mp hn).2, ofNumber_sorted n⟩
  · rw [hdrop, List.pairwise_map]
    exact view.missing_pairwise mentioned
  · rw [requireAll_numbers]
    exact hnodup.append (view.missing_nodup mentioned) fun n hold hn => (mem_missing.mp hn).2 hold

end View

/-! ## Runs -/

namespace SceneChange

/-- The numbers that a change mentions for a view: entry by entry, those of an entry ascending. -/
def mentions (change : SceneChange) (view : Nat) : List Int :=
  (change.bins.filter (·.1 = view)).flatMap fun entry => entry.2.toFinset.sort

theorem applyBins_views (target : Target σ) (entry : Nat × List Int) (i : Nat) :
    (applyBins target entry).views[i]? = target.views[i]?.map fun view =>
      if entry.1 = i then view.requireAll (ascendingSet entry.2) else view := by
  unfold applyBins
  split
  · next hnone =>
    by_cases hi : entry.1 = i
    · rw [← hi, hnone]
      rfl
    · simp only [if_neg hi, Option.map_id']
  · next view hview =>
    change (target.views.set entry.1 _)[i]? = _
    rw [List.getElem?_set]
    split
    · next hi =>
      subst hi
      rw [hview, if_pos (List.getElem?_eq_some_iff.mp hview).1, Option.map_some]
    · rw [Option.map_id']

theorem foldl_applyBins_views (bins : List (Nat × List Int)) (target : Target σ) (i : Nat) :
    (bins.foldl applyBins target).views[i]? = target.views[i]?.map fun view =>
      view.requireAll
        ((bins.filter (·.1 = i)).flatMap fun entry => entry.2.toFinset.sort) := by
  induction bins generalizing target with
  | nil => exact (congrFun Option.map_id _).symm
  | cons entry rest ih =>
    rw [List.foldl_cons, ih, applyBins_views, Option.map_map, List.filter_cons]
    congr 1
    funext view
    by_cases hi : entry.1 = i
    · simp only [hi, decide_true, if_true, List.flatMap_cons, View.requireAll_append,
        Function.comp_apply, ascendingSet_eq_sort]
    · simp only [hi, decide_false, if_false, Function.comp_apply, Bool.false_eq_true]

/-- A change hands each view the numbers it mentions for it. -/
theorem apply_views (change : SceneChange) (fresh : Nat) (target : Target σ) (i : Nat) :
    (change.apply fresh target).views[i]? =
      target.views[i]?.map (·.requireAll (change.mentions i)) := by
  have hviews : (if change.paged then applyPager fresh (change.prepared target)
      else change.prepared target).views = target.views := by
    split
    · exact (applyPager_eq fresh _).2.2.1
    · rfl
  rw [apply_eq, foldl_applyBins_views, hviews, mentions]

end SceneChange

namespace SceneTurn

/-- The numbers that some calls mention for a view: call by call. -/
def mentions (updates : List SceneUpdate) (view : Nat) : List Int :=
  updates.flatMap (·.change.mentions view)

theorem mem_mentions {updates : List SceneUpdate} {view : Nat} {n : Int} :
    n ∈ mentions updates view ↔
      ∃ update ∈ updates, ∃ entry ∈ update.change.bins, entry.1 = view ∧ n ∈ entry.2 := by
  simp only [mentions, SceneChange.mentions, List.mem_flatMap, List.mem_filter, Finset.mem_sort,
    List.mem_toFinset, decide_eq_true_eq, and_assoc]

theorem run_views (target : SceneChange.Target σ) (updates : List SceneUpdate) (i : Nat) :
    (run target updates).views[i]? =
      target.views[i]?.map (·.requireAll (mentions updates i)) := by
  induction updates generalizing target with
  | nil => exact (congrFun Option.map_id _).symm
  | cons update later ih =>
    change (run (left ⟨update, update.finds target⟩) later).views[i]? = _
    rw [ih, left, SceneChange.apply_views, Option.map_map]
    congr 1
    funext view
    exact (view.requireAll_append _ _).symm

/-- Views are neither made nor dropped. -/
theorem run_views_length (target : SceneChange.Target σ) (updates : List SceneUpdate) :
    (run target updates).views.length = target.views.length := by
  have hends (i : Nat) : (run target updates).views.length ≤ i ↔ target.views.length ≤ i := by
    rw [← List.getElem?_eq_none_iff, run_views, Option.map_eq_none_iff, List.getElem?_eq_none_iff]
  exact Nat.le_antisymm ((hends _).mpr le_rfl) ((hends _).mp le_rfl)

end SceneTurn

/-- Apply any changes one after the other, each to any loops, with any entries for any views.  A view
that no entry is about stays as it is.  The others gain bins for exactly the numbers mentioned for
them, in all calls and all entries.  To apply again a change that was applied already, to any loops,
changes no view. -/
theorem bins_follow_mentions (target : SceneChange.Target σ) (updates : List SceneUpdate) :
    (SceneTurn.run target updates).views.length = target.views.length ∧
    (∀ (i : Nat) (before after : View), target.views[i]? = some before →
      (SceneTurn.run target updates).views[i]? = some after →
        before.Gained (SceneTurn.mentions updates i) after ∧
        ∀ n, n ∈ after.numbers ↔ n ∈ before.numbers ∨
          ∃ update ∈ updates, ∃ entry ∈ update.change.bins, entry.1 = i ∧ n ∈ entry.2) ∧
    (∀ i, (∀ update ∈ updates, ∀ entry ∈ update.change.bins, entry.1 ≠ i) →
      (SceneTurn.run target updates).views[i]? = target.views[i]?) ∧
    ∀ again : SceneUpdate, again.change ∈ updates.map (·.change) →
      (SceneTurn.run target (updates ++ [again])).views = (SceneTurn.run target updates).views := by
  have hgained (i : Nat) (before after : View) (hbefore : target.views[i]? = some before)
      (hafter : (SceneTurn.run target updates).views[i]? = some after) :
      before.Gained (SceneTurn.mentions updates i) after := by
    rw [SceneTurn.run_views, hbefore, Option.map_some, Option.some_inj] at hafter
    exact hafter ▸ before.requireAll_gained _
  refine ⟨SceneTurn.run_views_length target updates, fun i before after hbefore hafter => ?_,
    fun i huntouched => ?_, fun again hagain => ?_⟩
  · have h := hgained i before after hbefore hafter
    exact ⟨h, fun n => by rw [h.covers, SceneTurn.mem_mentions]⟩
  · have hmentions : SceneTurn.mentions updates i = [] := by
      refine List.eq_nil_iff_forall_not_mem.mpr fun n hn => ?_
      obtain ⟨update, hupdate, entry, hentry, heq, -⟩ := SceneTurn.mem_mentions.mp hn
      exact huntouched update hupdate entry hentry heq
    rw [SceneTurn.run_views, hmentions]
    exact congrFun Option.map_id _
  · refine List.ext_getElem? fun i => ?_
    rw [SceneTurn.run_append, SceneTurn.run_views _ [again]]
    cases hafter : (SceneTurn.run target updates).views[i]? with
    | none => rfl
    | some after =>
      obtain ⟨before, hbefore, -⟩ := Option.map_eq_some_iff.mp
        ((SceneTurn.run_views target updates i).symm.trans hafter)
      have h := hgained i before after hbefore hafter
      rw [Option.map_some, View.requireAll_of_subset fun n hn => ?_]
      obtain ⟨update, hupdate, entry, hentry, heq, hmem⟩ := SceneTurn.mem_mentions.mp hn
      obtain ⟨applied, happlied, hsame⟩ := List.mem_map.mp hagain
      rw [h.covers, SceneTurn.mem_mentions]
      rw [List.mem_singleton.mp hupdate, ← hsame] at hentry
      exact .inr ⟨applied, happlied, entry, hentry, heq, hmem⟩

end FramesInFlight
