import FramesInFlight.Proofs.Keyed
import FramesInFlight.Proofs.Text.Reading
import FramesInFlight.Toml.Document

/-!
# Integers of TOML documents

Every integer in a document lies between the bounds of the format, however deep it stands.

* `Value.InRange` is that condition on a value.
* `assign?_inRange`, `openTable?_inRange`, `openElement?_inRange` and `within?_inRange` say that the
  changes of tables keep it, each along a path of any length.
* `value_gives` says it of what readers give, `lines_inRange` of all lines, from one line to the
  next, and `entries?_inRange` of a document.
-/

namespace FramesInFlight

namespace Toml

/-! ## Values -/

/-- Every integer in a value lies between the bounds of the format. -/
inductive Value.InRange : Value → Prop where
  | integer {n : Int} (hlow : -integerLimit ≤ n) (hhigh : n < integerLimit) : InRange (.integer n)
  | real : InRange .real
  | boolean (b : Bool) : InRange (.boolean b)
  | text (chars : List Char) : InRange (.text chars)
  | moment : InRange .moment
  | array {items : List Value} (h : ∀ item ∈ items, InRange item) : InRange (.array items)
  | table {origin : Origin} {entries : List (String × Value)}
      (h : ∀ entry ∈ entries, InRange entry.2) : InRange (.table origin entries)
  | tables {latest : List (String × Value)} (h : ∀ entry ∈ latest, InRange entry.2) :
      InRange (.tables latest)

/-- Every integer in a table lies between the bounds. -/
def AllInRange (entries : Entries) : Prop := ∀ entry ∈ entries, entry.2.InRange

theorem allInRange_nil : AllInRange [] := fun _ h => absurd h List.not_mem_nil

theorem Value.InRange.of_table {origin : Origin} {entries : Entries}
    (h : (Value.table origin entries).InRange) : AllInRange entries := by
  cases h with
  | table h => exact h

theorem Value.InRange.of_tables {latest : Entries} (h : (Value.tables latest).InRange) :
    AllInRange latest := by
  cases h with
  | tables h => exact h

theorem inRange_of_map_table {origin : Origin} {made? : Option Entries} {v : Value}
    (h : made?.map (.table origin) = some v) (hmade : ∀ made, made? = some made → AllInRange made) :
    v.InRange := by
  obtain ⟨made, heq, rfl⟩ := Option.map_eq_some_iff.mp h
  exact .table (hmade made heq)

theorem inRange_of_map_tables {made? : Option Entries} {v : Value}
    (h : made?.map .tables = some v) (hmade : ∀ made, made? = some made → AllInRange made) :
    v.InRange := by
  obtain ⟨made, heq, rfl⟩ := Option.map_eq_some_iff.mp h
  exact .tables (hmade made heq)

theorem integer?_bounds {word : List Char} {n : Int} (h : integer? word = some n) :
    -integerLimit ≤ n ∧ n < integerLimit := by
  have hbounds := (Option.filter_eq_some_iff.mp h).2
  simpa using hbounds

theorem ofWord?_inRange {word : List Char} {v : Value} (h : ofWord? word = some v) :
    v.InRange := by
  unfold ofWord? at h
  split at h
  · cases h
    exact .boolean true
  split at h
  · cases h
    exact .boolean false
  split at h
  · next hn =>
    cases h
    exact .integer (integer?_bounds hn).1 (integer?_bounds hn).2
  split at h
  · cases h
    exact .real
  split at h
  · cases h
    exact .moment
  · cases h

/-! ## Changes of tables -/

/-- A change that makes a value within the bounds of one within them, or of none. -/
def Keeps (make : Option Value → Option Value) : Prop :=
  ∀ old v, (∀ u, old = some u → u.InRange) → make old = some v → v.InRange

variable {entries entries' : Entries} {path : List String}

/-- A value under a dotted key: what stands on the way is changed by the rest of the key. -/
theorem assign?_inRange {v : Value} (hv : v.InRange) (hentries : AllInRange entries)
    (h : assign? v path entries = some entries') : AllInRange entries' := by
  induction path generalizing entries entries' with
  | nil => cases h
  | cons key path ih =>
    cases path with
    | nil =>
      rw [assign?] at h
      split at h
      · cases h
      · cases h
        exact List.forall_mem_append.mpr ⟨hentries, List.forall_mem_singleton.mpr hv⟩
    | cons inner path =>
      refine Keyed.forall_change? (fun old u hold hu => ?_) hentries h
      split at hu
      · exact inRange_of_map_table hu fun _ => ih allInRange_nil
      · exact inRange_of_map_table hu fun _ => ih (hold _ rfl).of_table
      · split at hu
        · cases hu
        · exact inRange_of_map_table hu fun _ => ih (hold _ rfl).of_table
      · split at hu
        · cases hu
        · exact inRange_of_map_tables hu fun _ => ih (hold _ rfl).of_tables
      · cases hu

theorem assignAll_inRange {pairs : List (List String × Value)}
    (hpairs : ∀ p ∈ pairs, p.2.InRange) (hentries : AllInRange entries)
    (h : pairs.foldlM (fun entries (key, value) => assign? value key entries) entries =
      some entries') : AllInRange entries' := by
  induction pairs generalizing entries with
  | nil =>
    cases h
    exact hentries
  | cons p pairs ih =>
    rw [List.forall_mem_cons] at hpairs
    obtain ⟨made, hmade, hrest⟩ := Option.bind_eq_some_iff.mp h
    exact ih hpairs.2 (assign?_inRange hpairs.1 hentries hmade) hrest

/-- A change at the end of a path that leads through tables of every origin but braces. -/
theorem reach?_inRange {make : Option Value → Option Value} (hmake : Keeps make)
    (hentries : AllInRange entries) (h : reach? make path entries = some entries') :
    AllInRange entries' := by
  induction path generalizing entries entries' with
  | nil => cases h
  | cons key path ih =>
    cases path with
    | nil => exact Keyed.forall_change? hmake hentries h
    | cons inner path =>
      refine Keyed.forall_change? (fun old u hold hu => ?_) hentries h
      split at hu
      · exact inRange_of_map_table hu fun _ => ih allInRange_nil
      · cases hu
      · exact inRange_of_map_table hu fun _ => ih (hold _ rfl).of_table
      · exact inRange_of_map_tables hu fun _ => ih (hold _ rfl).of_tables
      · cases hu

theorem openTable?_inRange (hentries : AllInRange entries)
    (h : openTable? path entries = some entries') : AllInRange entries' := by
  refine reach?_inRange (fun old v hold hv => ?_) hentries h
  split at hv
  · cases hv
    exact .table allInRange_nil
  · cases hv
    exact .table (hold _ rfl).of_table
  · cases hv

theorem openElement?_inRange (hentries : AllInRange entries)
    (h : openElement? path entries = some entries') : AllInRange entries' := by
  refine reach?_inRange (fun old v hold hv => ?_) hentries h
  split at hv
  · cases hv
    exact .tables allInRange_nil
  · cases hv
    exact .tables allInRange_nil
  · cases hv

theorem within?_inRange {change : Entries → Option Entries}
    (hchange : ∀ entries entries', AllInRange entries → change entries = some entries' →
      AllInRange entries')
    (hentries : AllInRange entries) (h : within? change path entries = some entries') :
    AllInRange entries' := by
  unfold within? at h
  split at h
  · exact hchange _ _ hentries h
  · refine reach?_inRange (fun old v hold hv => ?_) hentries h
    split at hv
    · exact inRange_of_map_table hv fun _ => hchange _ _ (hold _ rfl).of_table
    · exact inRange_of_map_tables hv fun _ => hchange _ _ (hold _ rfl).of_tables
    · cases hv

/-! ## Readers -/

theorem scalar_gives : scalar.Gives Value.InRange := by
  intro text v rest h
  obtain ⟨v', hv, heq⟩ := Option.map_eq_some_iff.mp h
  cases heq
  exact ofWord?_inRange hv

theorem pair_gives {inner : Reader Value} (hinner : inner.Gives Value.InRange) :
    (pair inner).Gives fun p => p.2.InRange := by
  intro text p rest h
  obtain ⟨⟨path, later⟩, -, h⟩ := Option.bind_eq_some_iff.mp h
  obtain ⟨later, -, h⟩ := Option.bind_eq_some_iff.mp h
  obtain ⟨⟨v, last⟩, hv, h⟩ := Option.bind_eq_some_iff.mp h
  cases h
  exact hinner _ _ _ hv

/-- A value is within the bounds when the values inside brackets are. -/
theorem value_gives_of_inner {depth : Nat}
    (hinner : ∀ inner, depth = inner + 1 → (value inner).Gives Value.InRange) :
    (value depth).Gives Value.InRange := by
  intro text v rest h
  unfold value at h
  split at h
  · obtain ⟨⟨chars, later⟩, -, heq⟩ := Option.map_eq_some_iff.mp h
    cases heq
    exact .text chars
  · obtain ⟨⟨chars, later⟩, -, heq⟩ := Option.map_eq_some_iff.mp h
    cases heq
    exact .text chars
  · obtain ⟨⟨items, later⟩, hitems, heq⟩ := Option.map_eq_some_iff.mp h
    cases heq
    exact .array (ListShape.items_gives (hinner _ rfl) true _ _ _ hitems)
  · obtain ⟨⟨pairs, later⟩, hpairs, h⟩ := Option.bind_eq_some_iff.mp h
    obtain ⟨entries, hentries, h⟩ := Option.bind_eq_some_iff.mp h
    cases h
    exact .table (assignAll_inRange
      (ListShape.items_gives (pair_gives (hinner _ rfl)) true _ _ _ hpairs) allInRange_nil hentries)
  · exact scalar_gives _ _ _ h

theorem value_gives (depth : Nat) : (value depth).Gives Value.InRange := by
  induction depth with
  | zero => exact value_gives_of_inner fun inner h => by cases h
  | succ depth ih =>
    refine value_gives_of_inner fun inner h => ?_
    cases h
    exact ih

/-! ## Documents -/

variable {doc doc' : Document}

theorem enter_inRange {opening : List String → Entries → Option Entries}
    (hopening : ∀ path entries entries', AllInRange entries → opening path entries = some entries' →
      AllInRange entries')
    (hdoc : AllInRange doc.entries) (h : doc.enter opening path = some doc') :
    AllInRange doc'.entries := by
  obtain ⟨entries, hentries, rfl⟩ := Option.map_eq_some_iff.mp h
  exact hopening _ _ _ hdoc hentries

theorem add_inRange {v : Value} (hv : v.InRange) (hdoc : AllInRange doc.entries)
    (h : doc.add path v = some doc') : AllInRange doc'.entries := by
  obtain ⟨entries, hentries, rfl⟩ := Option.map_eq_some_iff.mp h
  exact within?_inRange (fun _ _ => assign?_inRange hv) hdoc hentries

theorem content_gives (hdoc : AllInRange doc.entries) :
    (content doc).Gives fun doc' => AllInRange doc'.entries := by
  intro text doc' rest h
  unfold content at h
  split at h
  · cases h
    exact hdoc
  · cases h
    exact hdoc
  · cases h
    exact hdoc
  · cases h
    exact hdoc
  · obtain ⟨⟨path, later⟩, -, h⟩ := Option.bind_eq_some_iff.mp h
    obtain ⟨later, -, h⟩ := Option.bind_eq_some_iff.mp h
    obtain ⟨made, hmade, h⟩ := Option.bind_eq_some_iff.mp h
    cases h
    exact enter_inRange (fun _ _ _ => openElement?_inRange) hdoc hmade
  · obtain ⟨⟨path, later⟩, -, h⟩ := Option.bind_eq_some_iff.mp h
    obtain ⟨later, -, h⟩ := Option.bind_eq_some_iff.mp h
    obtain ⟨made, hmade, h⟩ := Option.bind_eq_some_iff.mp h
    cases h
    exact enter_inRange (fun _ _ _ => openTable?_inRange) hdoc hmade
  · obtain ⟨⟨⟨path, v⟩, later⟩, hpair, h⟩ := Option.bind_eq_some_iff.mp h
    obtain ⟨made, hmade, h⟩ := Option.bind_eq_some_iff.mp h
    cases h
    exact add_inRange (pair_gives (value_gives depthLimit) _ _ _ hpair) hdoc hmade

theorem line_gives (hdoc : AllInRange doc.entries) :
    (line doc).Gives fun doc' => AllInRange doc'.entries := by
  intro text doc' rest h
  obtain ⟨⟨made, later⟩, hmade, h⟩ := Option.bind_eq_some_iff.mp h
  obtain ⟨later, -, h⟩ := Option.bind_eq_some_iff.mp h
  cases h
  exact content_gives hdoc _ _ _ hmade

theorem lines_inRange {text : List Char} (hdoc : AllInRange doc.entries)
    (h : lines doc text = some doc') : AllInRange doc'.entries := by
  fun_induction lines doc text with
  | case1 =>
    cases h
    exact hdoc
  | case2 => cases h
  | case3 doc text _ made rest hline _ ih => exact ih (line_gives hdoc _ _ _ hline) h
  | case4 => cases h

/-- Every integer in a document lies between the bounds of the format. -/
theorem entries?_inRange {text : List Char} (h : entries? text = some entries) :
    AllInRange entries := by
  obtain ⟨doc, hdoc, rfl⟩ := Option.map_eq_some_iff.mp h
  exact lines_inRange allInRange_nil hdoc

end Toml

end FramesInFlight
