import FramesInFlight.Proofs.Number.Decimal
import FramesInFlight.Proofs.Text.Reading
import FramesInFlight.Ron.Value

/-!
# Reading plain RON

What the readers of RON do on records without a name: fields in parentheses, with a colon behind
every name, a comma between fields and maybe one behind the last of them, and blanks and ends of
lines around all of this.

* `WrittenField`, `WrittenFields` and `WrittenRecord` say how such records are written.
* `skip_cons` and `skip_gap` say what is dropped.
* `identifier_append` reads a plain name, `count_toDigits` a decimal number, up to one of the
  characters that may stand behind.
* `field_append`, `items_of_written` and `record_of_written` read a field, all fields and a record
  from the readers of the values, and `document?_of_value` a whole document.
* `writtenFields_lines` is the layout with every field on a line of its own.
-/

namespace FramesInFlight

namespace Ron

variable {c : Char} {name rest : List Char}

/-! ## Blanks -/

/-- What blanks and comments begin with. -/
def gapChars : List Char := [' ', '\n', '\t', '\r', '/']

theorem not_mem_gapChars {test : Char → Bool} (hnone : gapChars.all (fun d => !test d) = true)
    (hc : test c = true) : c ∉ gapChars := by
  intro hmem
  have hnot := List.all_eq_true.mp hnone c hmem
  rw [hc] at hnot
  cases hnot

/-- What is neither a blank nor the beginning of a comment is not dropped. -/
theorem skip_cons (hc : c ∉ gapChars) : skip (c :: rest) = c :: rest := by
  simp only [gapChars, List.mem_cons, List.not_mem_nil, or_false, not_or] at hc
  obtain ⟨hspace, hnewline, htab, hreturn, hslash⟩ := hc
  unfold skip skipGap
  split
  · next heq => exact absurd (List.cons.inj heq).1 hslash
  · next heq => exact absurd (List.cons.inj heq).1 hslash
  · next heq =>
    obtain ⟨rfl, rfl⟩ := List.cons.inj heq
    simp [hspace, hnewline, htab, hreturn]
  · next heq => cases heq
  all_goals contradiction

/-- Blanks and ends of lines. -/
def IsGap (gap : List Char) : Prop := ∀ c ∈ gap, c ∈ [' ', '\n', '\t', '\r']

theorem IsGap.nil : IsGap [] := fun _ hc => absurd hc List.not_mem_nil

theorem skip_gap {gap : List Char} (hgap : IsGap gap) : skip (gap ++ rest) = skip rest := by
  induction gap with
  | nil => rfl
  | cons c gap ih =>
    obtain ⟨hc, hmore⟩ := List.forall_mem_cons.mp hgap
    have hdrop : skip (c :: (gap ++ rest)) = skip (gap ++ rest) := by
      simp only [List.mem_cons, List.not_mem_nil, or_false] at hc
      rcases hc with rfl | rfl | rfl | rfl <;> simp [skip, skipGap]
    rw [List.cons_append, hdrop, ih hmore]

/-- What stands behind a name or a number: a blank, the end of a line, or a mark. -/
def stops : List Char := [' ', '\n', '\t', '\r', ':', ',', ')']

/-- A gap and then a mark begin with something that ends a name or a number. -/
theorem IsGap.exists_stop {gap : List Char} (hgap : IsGap gap) {mark : Char}
    (hmark : mark ∈ stops) (rest : List Char) :
    ∃ c more, gap ++ mark :: rest = c :: more ∧ c ∈ stops := by
  cases gap with
  | nil => exact ⟨mark, rest, rfl, hmark⟩
  | cons c gap =>
    have hblanks : [' ', '\n', '\t', '\r'] ⊆ stops := by decide
    exact ⟨c, gap ++ mark :: rest, rfl, hblanks (hgap c List.mem_cons_self)⟩

/-! ## Names -/

/-- Characters of an identifier that cannot be mistaken for the raw mark. -/
structure IsPlainName (name : List Char) : Prop where
  starts : ∃ c more, name = c :: more ∧ isIdentifierStart c = true ∧ c ≠ 'r'
  isIdentifierChar : ∀ c ∈ name, isIdentifierChar c = true

theorem IsPlainName.of_all {c : Char} {more : List Char}
    (hstart : (isIdentifierStart c && c != 'r') = true)
    (hall : (c :: more).all Ron.isIdentifierChar = true) : IsPlainName (c :: more) := by
  simp only [Bool.and_eq_true, bne_iff_ne] at hstart
  exact ⟨⟨c, more, rfl, hstart⟩, List.all_eq_true.mp hall⟩

/-- A plain name ends before a blank or a mark. -/
theorem identifier_append (h : IsPlainName name) {stop : Char} (hstop : stop ∈ stops) :
    identifier (name ++ stop :: rest) = some (String.ofList name, stop :: rest) := by
  have hends : ∀ d ∈ stops, isIdentifierChar d = false ∧ isRawChar d = false :=
    List.all_iff_forall_prop.mp (by decide)
  obtain ⟨hchar, hraw⟩ := hends stop hstop
  have hrun : Reader.run isIdentifierChar (name ++ stop :: rest) = (name, stop :: rest) :=
    Reader.run_append h.isIdentifierChar hchar
  obtain ⟨c, more, rfl, hstart, hr⟩ := h.starts
  unfold identifier
  rw [hrun]
  dsimp only
  split
  · next heq => exact absurd (List.cons.inj heq).1 hr
  · next heq => exact absurd (List.cons.inj heq).1 hr
  · next heq => exact absurd (List.cons.inj heq).1 hr
  · next heq => exact absurd (List.cons.inj heq).1 hr
  · next heq => exact absurd (List.cons.inj heq).1 hr
  · next heq =>
    obtain ⟨rfl, -⟩ := List.cons.inj heq
    rw [if_pos]
    simp [hstart, hraw]
  · next heq => cases heq

/-! ## Numbers -/

theorem isIntegerChar_of_isDigit (hc : c.isDigit = true) : isIntegerChar c = true := by
  rw [isIntegerChar, Digits.value?_of_isDigit hc]
  rfl

theorem le_ofDigitChars (digits : List Char) (n : Nat) : n ≤ Nat.ofDigitChars 10 digits n := by
  induction digits generalizing n with
  | nil => exact Nat.le_refl n
  | cons c digits ih =>
    rw [Nat.ofDigitChars_cons]
    exact Nat.le_trans (by omega) (ih _)

/-- Digits add up to the number they stand for, if it is within the limit. -/
theorem addUp?_of_isDigit {limit n : Nat} {digits : List Char}
    (hdigits : ∀ c ∈ digits, c.isDigit = true) (hlimit : Nat.ofDigitChars 10 digits n ≤ limit) :
    addUp? 10 limit n digits = some (Nat.ofDigitChars 10 digits n) := by
  induction digits generalizing n with
  | nil => rfl
  | cons c digits ih =>
    have hc := hdigits c List.mem_cons_self
    have hunderscore : c ≠ '_' := Digits.ne_of_isDigit hc (by decide)
    have hstep : n * 10 + (c.toNat - 48) = 10 * n + (c.toNat - '0'.toNat) := by
      rw [Nat.mul_comm]
      rfl
    rw [Nat.ofDigitChars_cons, ← hstep] at hlimit ⊢
    have hle := le_ofDigitChars digits (n * 10 + (c.toNat - 48))
    rw [addUp?, if_neg hunderscore, Digits.ofBase?_ten hc]
    dsimp only
    rw [if_neg (by omega), ih (fun d hd => hdigits d (List.mem_cons_of_mem c hd)) hlimit]

/-- A number is in base ten: behind a leading zero stands no mark of another base. -/
theorem base_toDigits (n : Nat) {stop : Char} (hstop : stop ∈ stops) :
    base (Nat.toDigits 10 n ++ stop :: rest) = (10, Nat.toDigits 10 n ++ stop :: rest) := by
  have hmark {mark : Char} {more : List Char} (hother : mark ∉ stops)
      (h : Nat.toDigits 10 n ++ stop :: rest = '0' :: mark :: more) : False := by
    obtain ⟨c, digits, hdigits, -⟩ := Digits.exists_toDigits n
    rw [hdigits, List.cons_append] at h
    obtain ⟨rfl, htail⟩ := List.cons.inj h
    rw [Digits.toDigits_eq_zero_cons hdigits] at htail
    obtain ⟨rfl, -⟩ := List.cons.inj htail
    exact hother hstop
  unfold base
  split
  · next heq => exact (hmark (by decide) heq).elim
  · next heq => exact (hmark (by decide) heq).elim
  · next heq => exact (hmark (by decide) heq).elim
  · rfl

theorem count_toDigits (value : UInt64) {stop : Char} (hstop : stop ∈ stops) :
    count (Nat.toDigits 10 value.toNat ++ stop :: rest) = some (value, stop :: rest) := by
  have hends : ∀ d ∈ stops, isIntegerChar d = false := List.all_iff_forall_prop.mp (by decide)
  have hdigits : ∀ c ∈ Nat.toDigits 10 value.toNat, c.isDigit = true :=
    fun _ => Digits.isDigit_of_mem_toDigits
  have hrun : Reader.run isIntegerChar (Nat.toDigits 10 value.toNat ++ stop :: rest) =
      (Nat.toDigits 10 value.toNat, stop :: rest) :=
    Reader.run_append (fun d hd => isIntegerChar_of_isDigit (hdigits d hd)) (hends stop hstop)
  have hsum : addUp? 10 countLimit 0 (Nat.toDigits 10 value.toNat) = some value.toNat := by
    have hvalue := Nat.ofDigitChars_ten_toDigits (n := value.toNat)
    have hbound := value.toNat_lt
    rw [addUp?_of_isDigit hdigits (by rw [hvalue, countLimit]; omega), hvalue]
  have hfirst : ¬((Nat.toDigits 10 value.toNat).isEmpty ||
      (Nat.toDigits 10 value.toNat).head? = some '_') = true := by
    obtain ⟨c, more, h, hc⟩ := Digits.exists_toDigits value.toNat
    have hunderscore : c ≠ '_' := Digits.ne_of_isDigit hc (by decide)
    simp [h, hunderscore]
  simp only [count, unsigned, base_toDigits _ hstop, hrun]
  rw [if_neg hfirst, hsum]
  simp

/-! ## Records -/

section Record

variable {α β : Type} {name : α → String} {body : α → List Char → Prop} {out : α → β}

/-- How a field is written: its name, a colon and its value, with gaps between them. -/
inductive WrittenField (name : α → String) (body : α → List Char → Prop) (a : α) :
    List Char → Prop
  | field {before after value : List Char} (hbefore : IsGap before) (hafter : IsGap after)
      (hvalue : body a value) :
      WrittenField name body a ((name a).toList ++ (before ++ ':' :: (after ++ value)))

/-- How fields are written up to the closing parenthesis: with commas between them, and maybe one
behind the last of them, and with gaps around them. -/
inductive WrittenFields (field : α → List Char → Prop) : List α → List Char → Prop
  | nil {gap : List Char} (hgap : IsGap gap) : WrittenFields field [] gap
  | last {a : α} {before text after : List Char} (hbefore : IsGap before) (hfield : field a text)
      (hafter : IsGap after) : WrittenFields field [a] (before ++ (text ++ after))
  | cons {a : α} {l : List α} {before text after more : List Char} (hbefore : IsGap before)
      (hfield : field a text) (hafter : IsGap after) (hmore : WrittenFields field l more) :
      WrittenFields field (a :: l) (before ++ (text ++ (after ++ ',' :: more)))

/-- How a record without a name is written. -/
inductive WrittenRecord (field : α → List Char → Prop) (l : List α) : List Char → Prop
  | record {fields : List Char} (hfields : WrittenFields field l fields) :
      WrittenRecord field l ('(' :: (fields ++ [')']))

/-- A reader reads whatever is written of a value, up to what may stand behind. -/
def ReadsValue (reader : Reader β) (written : List Char → Prop) (b : β) : Prop :=
  ∀ value, written value → ∀ stop ∈ stops, ∀ rest,
    skip (value ++ stop :: rest) = value ++ stop :: rest ∧
      reader (value ++ stop :: rest) = some (b, stop :: rest)

/-- A field that is expected has a plain name, and the reader of that name reads its value. -/
def ReadsField (expected : List (String × Reader β)) (name : α → String)
    (body : α → List Char → Prop) (out : α → β) (a : α) : Prop :=
  IsPlainName (name a).toList ∧
    ∃ reader, expected.lookup (name a) = some reader ∧ ReadsValue reader (body a) (out a)

variable {expected : List (String × Reader β)} {other : Reader Unit} {a : α} {l : List α}
  {text : List Char}

theorem field_append (h : ReadsField expected name body out a)
    (hwritten : WrittenField name body a text) {stop : Char} (hstop : stop ∈ stops)
    (rest : List Char) :
    field expected other (text ++ stop :: rest) = some (some (name a, out a), stop :: rest) := by
  obtain ⟨hname, reader, hlookup, hreads⟩ := h
  cases hwritten with
  | @field before after value hbefore hafter hvalue =>
    obtain ⟨hskip, hread⟩ := hreads value hvalue stop hstop rest
    obtain ⟨c, more, hgap, hc⟩ :=
      hbefore.exists_stop (show ':' ∈ stops by decide) (after ++ (value ++ stop :: rest))
    have hidentifier : identifier ((name a).toList ++ (c :: more)) =
        some (name a, c :: more) := by
      rw [identifier_append hname hc, String.ofList_toList]
    have hcolon : Reader.after [':'] (skip (c :: more)) =
        some (after ++ (value ++ stop :: rest)) := by
      rw [← hgap, skip_gap hbefore, skip_cons (by decide)]
      rfl
    have htext : (name a).toList ++ (before ++ ':' :: (after ++ value)) ++ stop :: rest =
        (name a).toList ++ (c :: more) := by
      rw [← hgap]
      simp
    rw [htext, field, pair, hidentifier]
    simp only [Option.bind_eq_bind, Option.bind_some, hcolon, skip_gap hafter, hskip, hlookup,
      hread, Option.map_some]

/-- A field in its gaps begins with a letter, is read, and leaves the mark behind it. -/
theorem item_of_written (ha : ReadsField expected name body out a) {before after : List Char}
    (hbefore : IsGap before) (hwritten : WrittenField name body a text) (hafter : IsGap after)
    {mark : Char} (hmark : mark ∈ [',', ')']) (rest : List Char) :
    ∃ c more later, skip (before ++ (text ++ (after ++ mark :: rest))) = c :: more ∧ c ≠ ')' ∧
      field expected other (c :: more) = some (some (name a, out a), later) ∧
      skip later = mark :: rest := by
  have hmarks : ∀ d ∈ [',', ')'], d ∈ stops ∧ d ∉ gapChars :=
    List.all_iff_forall_prop.mp (by decide)
  obtain ⟨hstop, hgap⟩ := hmarks mark hmark
  obtain ⟨c, more, htext, hc, hclose⟩ : ∃ c more, text = c :: more ∧ c ∉ gapChars ∧ c ≠ ')' := by
    obtain ⟨⟨c, more, hname, hstart, -⟩, -⟩ := ha.1
    have hclose : c ≠ ')' := by
      rintro rfl
      exact absurd hstart (by decide)
    cases hwritten
    exact ⟨c, _, by rw [hname, List.cons_append], not_mem_gapChars (by decide) hstart, hclose⟩
  obtain ⟨d, behind, hbehind, hd⟩ := hafter.exists_stop hstop rest
  have hread : field expected other (text ++ d :: behind) =
      some (some (name a, out a), d :: behind) := field_append ha hwritten hd behind
  rw [htext, List.cons_append] at hread
  refine ⟨c, more ++ d :: behind, d :: behind, ?_, hclose, hread, ?_⟩
  · rw [hbehind, htext, skip_gap hbefore]
    exact skip_cons hc
  · rw [← hbehind, skip_gap hafter]
    exact skip_cons hgap

/-- Fields are read up to the parenthesis that closes them. -/
theorem items_of_written (hl : ∀ a ∈ l, ReadsField expected name body out a)
    (hwritten : WrittenFields (WrittenField name body) l text) (rest : List Char) :
    (listShape ')').items (field expected other) true (text ++ ')' :: rest) =
      some (l.map fun a => some (name a, out a), rest) := by
  induction hwritten with
  | nil hgap => exact ListShape.items_close ((skip_gap hgap).trans (skip_cons (by decide)))
  | last hbefore hfield hafter =>
    obtain ⟨c, more, later, hskip, hc, hread, hbehind⟩ :=
      item_of_written (hl _ List.mem_cons_self) hbefore hfield hafter
        (show ')' ∈ [',', ')'] by decide) rest
    rw [List.append_assoc, List.append_assoc]
    exact ListShape.items_last hskip hc hread hbehind
  | @cons a l before text after more hbefore hfield hafter hmore ih =>
    obtain ⟨c, inner, later, hskip, hc, hread, hbehind⟩ :=
      item_of_written (hl a List.mem_cons_self) hbefore hfield hafter
        (show ',' ∈ [',', ')'] by decide) (more ++ ')' :: rest)
    have hshorter : (more ++ ')' :: rest).length <
        (before ++ (text ++ (after ++ ',' :: (more ++ ')' :: rest)))).length := by
      simp only [List.length_append, List.length_cons]
      omega
    have hlater : (listShape ')').items (field expected other) true (more ++ ')' :: rest) =
        some (l.map fun b => some (name b, out b), rest) :=
      ih fun b hb => hl b (List.mem_cons_of_mem a hb)
    rw [List.append_assoc, List.append_assoc, List.append_assoc, List.cons_append]
    exact ListShape.items_cons hskip hc hread hbehind (by decide) hshorter hlater

/-- A record without a name is read from the readers of its fields. -/
theorem record_of_written {record : String} (hl : ∀ a ∈ l, ReadsField expected name body out a)
    (hnames : (l.map name).Nodup) (hwritten : WrittenRecord (WrittenField name body) l text)
    (rest : List Char) :
    Ron.record record expected other (text ++ rest) = some (l.map out, rest) := by
  cases hwritten with
  | @record fields hfields =>
    have htext : '(' :: (fields ++ [')']) ++ rest = '(' :: (fields ++ ')' :: rest) := by simp
    have hnone : afterName? record ('(' :: (fields ++ ')' :: rest)) =
        some ('(' :: (fields ++ ')' :: rest)) := rfl
    have hopen : Reader.after ['('] (skip ('(' :: (fields ++ ')' :: rest))) =
        some (fields ++ ')' :: rest) := by
      rw [skip_cons (by decide)]
      rfl
    rw [htext, Ron.record, hnone]
    simp only [Option.bind_eq_bind, Option.bind_some, hopen, items_of_written hl hfields]
    simp [List.filterMap_map, Function.comp_def, hnames]

/-- Fields on lines of their own, a comma behind each of them. -/
theorem writtenFields_lines {field : α → List Char → Prop} {indent tail : List Char}
    {text : α → List Char} (hindent : IsGap indent) (htail : IsGap tail)
    (hl : ∀ a ∈ l, field a (text a)) :
    WrittenFields field l
      ('\n' :: (l.flatMap (fun a => indent ++ (text a ++ [',', '\n'])) ++ tail)) := by
  have hgap {gap : List Char} (h : IsGap gap) : IsGap ('\n' :: gap) :=
    List.forall_mem_cons.mpr ⟨by decide, h⟩
  induction l with
  | nil => exact .nil (hgap htail)
  | cons a l ih =>
    have hmore := ih fun b hb => hl b (List.mem_cons_of_mem a hb)
    have hline := WrittenFields.cons (hgap hindent) (hl a List.mem_cons_self) IsGap.nil hmore
    simpa using hline

end Record

/-! ## Documents -/

/-- A document without attributes is its value, with gaps around it. -/
theorem document?_of_value {α : Type} {value : Bool → Reader α} {a : α} {before after : List Char}
    (hbefore : IsGap before) (hafter : IsGap after) (hc : c ∉ '#' :: gapChars)
    (hvalue : value false (c :: rest) = some (a, after)) :
    document? value (before ++ c :: rest) = some a := by
  have hskip : skip (before ++ c :: rest) = c :: rest :=
    (skip_gap hbefore).trans (skip_cons fun hmem => hc (List.mem_cons_of_mem '#' hmem))
  have hattributes : attributes (before ++ c :: rest) = some ([], c :: rest) := by
    rw [attributes, hskip]
    split
    · next heq =>
      obtain ⟨rfl, -⟩ := List.cons.inj heq
      exact absurd List.mem_cons_self hc
    · rfl
  have hend : skip after = [] := by
    rw [← List.append_nil after, skip_gap hafter]
    rfl
  rw [document?, hattributes]
  simp only [Option.bind_eq_bind, Option.bind_some, List.contains_nil, hvalue, hend]
  rfl

end Ron

end FramesInFlight
