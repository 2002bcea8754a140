import FramesInFlight.Proofs.Keyed
import FramesInFlight.Proofs.Number.Decimal
import FramesInFlight.Proofs.Text.Reading
import FramesInFlight.Toml.Document

/-!
# Reading plain TOML

What the readers of TOML do on plain documents: headers of tables and bare keys with decimal
integers, each on a line of its own, with blanks around everything and empty lines between them.

* `PlainLine` is what such a line says, and `PlainLine.perform` what it does to a document.
* `EndsLine`, `WrittenLine` and `WrittenLines` say how such lines are written.
* `keyPart_append` and `key_append` read a bare key, `value_toDigits` a decimal integer.
* `line_of_written` reads a line with any text behind it, and `lines_of_written` a whole document,
  from what the lines do one after another.
* `enter_new` and `add_last` say what lines do to a document whose last table is open.
-/

namespace FramesInFlight

namespace Toml

variable {c d : Char} {name rest after behind : List Char} {doc doc' : Document}

/-! ## Blanks and ends of lines -/

theorem blank_cons (hspace : c ≠ ' ') (htab : c ≠ '\t') : blank (c :: rest) = c :: rest :=
  List.dropWhile_cons_of_neg (by simp [hspace, htab])

/-- Blanks inside a line. -/
def IsBlank (gap : List Char) : Prop := ∀ c ∈ gap, c ∈ [' ', '\t']

theorem IsBlank.nil : IsBlank [] := fun _ hc => absurd hc List.not_mem_nil

theorem blank_append {gap : List Char} (hgap : IsBlank gap) : blank (gap ++ rest) = blank rest := by
  refine List.dropWhile_append_of_pos fun c hc => ?_
  have hc' := hgap c hc
  simp only [List.mem_cons, List.not_mem_nil, or_false] at hc'
  simpa using hc'

/-- How a line ends, with the text after it: blanks, and then the end of the line or of the text. -/
inductive EndsLine : List Char → List Char → Prop
  | text : EndsLine [] []
  | newline (rest : List Char) : EndsLine ('\n' :: rest) rest
  | returned (rest : List Char) : EndsLine ('\r' :: '\n' :: rest) rest
  | blank {c : Char} {behind rest : List Char} (hc : c ∈ [' ', '\t'])
      (hends : EndsLine behind rest) : EndsLine (c :: behind) rest

theorem EndsLine.length_le (h : EndsLine behind rest) : rest.length ≤ behind.length := by
  induction h with
  | text => exact Nat.le_refl 0
  | newline rest => exact Nat.le_succ _
  | returned rest => exact Nat.le_add_right _ 2
  | blank _ _ ih => exact Nat.le_succ_of_le ih

/-- What ends a line begins with a blank or with the mark of its end. -/
theorem EndsLine.head_mem (h : EndsLine (c :: behind) rest) : c ∈ [' ', '\t', '\n', '\r'] := by
  cases h with
  | newline => decide
  | returned => decide
  | blank hc => exact List.mem_append_left ['\n', '\r'] hc

theorem blank_blank (hc : c ∈ [' ', '\t']) : blank (c :: rest) = blank rest :=
  blank_append (List.forall_mem_singleton.mpr hc)

theorem lineEnd?_of_endsLine (h : EndsLine behind rest) : lineEnd? behind = some rest := by
  induction h with
  | text => rfl
  | newline rest =>
    rw [lineEnd?, blank_cons (by decide) (by decide)]
    rfl
  | returned rest =>
    rw [lineEnd?, blank_cons (by decide) (by decide)]
    rfl
  | blank hc _ ih => rwa [lineEnd?, blank_blank hc]

/-! ## Keys -/

/-- Characters that keys without quotes are made of. -/
structure IsBare (name : List Char) : Prop where
  ne_nil : name ≠ []
  isKeyChar : ∀ c ∈ name, isKeyChar c = true

theorem IsBare.of_all (hne : name.isEmpty = false) (hall : name.all Toml.isKeyChar = true) :
    IsBare name :=
  ⟨by simpa using hne, List.all_eq_true.mp hall⟩

theorem ne_of_isKeyChar (hc : isKeyChar c = true) (hd : isKeyChar d = false) : c ≠ d := by
  rintro rfl
  rw [hc] at hd
  cases hd

/-- A bare key begins with one of its characters. -/
theorem IsBare.exists_cons (h : IsBare name) :
    ∃ c more, name = c :: more ∧ Toml.isKeyChar c = true := by
  cases name with
  | nil => exact absurd rfl h.ne_nil
  | cons c more => exact ⟨c, more, rfl, h.isKeyChar c List.mem_cons_self⟩

theorem blank_bare (h : IsBare name) : blank (name ++ rest) = name ++ rest := by
  obtain ⟨c, more, rfl, hc⟩ := h.exists_cons
  exact blank_cons (ne_of_isKeyChar hc (by decide)) (ne_of_isKeyChar hc (by decide))

theorem keyPart_append (h : IsBare name) (hc : isKeyChar c = false) :
    keyPart (name ++ c :: rest) = some (String.ofList name, c :: rest) := by
  have hrun : Reader.run isKeyChar (name ++ c :: rest) = (name, c :: rest) :=
    Reader.run_append h.isKeyChar hc
  have hempty : ¬name.isEmpty = true := by simpa using h.ne_nil
  obtain ⟨d, more, rfl, hd⟩ := h.exists_cons
  unfold keyPart
  split
  · next heq => exact absurd (List.cons.inj heq).1 (ne_of_isKeyChar hd (by decide))
  · next heq => exact absurd (List.cons.inj heq).1 (ne_of_isKeyChar hd (by decide))
  · rw [hrun]
    exact if_neg hempty

/-- A bare key in its blanks ends before an equals sign or a bracket. -/
theorem key_append {parts : Nat} {before : List Char} (hbefore : IsBlank before) (h : IsBare name)
    (hafter : IsBlank after) (hc : c ∈ ['=', ']']) :
    key (parts + 1) (before ++ (name ++ (after ++ c :: rest))) =
      some ([String.ofList name], c :: rest) := by
  have hmarks : ∀ d ∈ ['=', ']'], d ≠ ' ' ∧ d ≠ '\t' ∧ d ≠ '.' ∧ isKeyChar d = false :=
    List.all_iff_forall_prop.mp (by decide)
  obtain ⟨hspace, htab, hdot, hmark⟩ := hmarks c hc
  have hend : blank (after ++ c :: rest) = c :: rest :=
    (blank_append hafter).trans (blank_cons hspace htab)
  obtain ⟨d, more, heq, hd⟩ : ∃ d more, after ++ c :: rest = d :: more ∧ isKeyChar d = false := by
    cases after with
    | nil => exact ⟨c, rest, rfl, hmark⟩
    | cons d after =>
      have hblanks : ∀ d ∈ [' ', '\t'], isKeyChar d = false :=
        List.all_iff_forall_prop.mp (by decide)
      exact ⟨d, after ++ c :: rest, rfl, hblanks d (hafter d List.mem_cons_self)⟩
  have hpart : keyPart (name ++ (after ++ c :: rest)) =
      some (String.ofList name, after ++ c :: rest) := by
    rw [heq]
    exact keyPart_append h hd
  unfold key
  simp only [blank_append hbefore, blank_bare h, hpart, Option.bind_eq_bind, Option.bind_some, hend]
  split
  · next heq => exact absurd (List.cons.inj heq).1 hdot
  · rfl

/-! ## Integers -/

theorem isWordChar_of_isDigit (hc : c.isDigit = true) : isWordChar c = true := by
  simp [isWordChar, Char.isAlphanum, hc]

/-- The end of the line ends a word: a blank there is not followed by a digit. -/
theorem word_append (hname : ∀ d ∈ name, isWordChar d = true) (hends : EndsLine behind rest) :
    word (name ++ behind) = (name, behind) := by
  have hrun : Reader.run isWordChar (name ++ behind) = (name, behind) := by
    cases behind with
    | nil => exact Reader.run_append_nil hname
    | cons c behind =>
      have hstops : ∀ d ∈ [' ', '\t', '\n', '\r'], isWordChar d = false :=
        List.all_iff_forall_prop.mp (by decide)
      exact Reader.run_append hname (hstops c hends.head_mem)
  unfold word
  rw [hrun]
  dsimp only
  split
  · next c more =>
    have hdigits : ∀ d ∈ [' ', '\t', '\n', '\r'], d.isDigit = false :=
      List.all_iff_forall_prop.mp (by decide)
    have hc : c.isDigit = false := by
      cases hends with
      | blank _ hmore => exact hdigits c hmore.head_mem
    simp [hc]
  · rfl

/-- Decimal digits have no leading zero that would be refused. -/
theorem plainDigits?_toDigits (n : Nat) :
    plainDigits? (Nat.toDigits 10 n) = some (Nat.toDigits 10 n) := by
  rw [plainDigits?, Digits.grouped?_toDigits]
  split
  · next heq => cases Digits.toDigits_eq_zero_cons (Option.some.inj heq)
  · rfl

theorem signed_of_isDigit (hc : c.isDigit = true) : signed (c :: rest) = (false, c :: rest) := by
  unfold signed
  split
  · next heq => exact absurd (List.cons.inj heq).1 (Digits.ne_of_isDigit hc (by decide))
  · next heq => exact absurd (List.cons.inj heq).1 (Digits.ne_of_isDigit hc (by decide))
  · rfl

theorem integer?_toDigits {n : Nat} (hn : (n : Int) < integerLimit) :
    integer? (Nat.toDigits 10 n) = some (n : Int) := by
  obtain ⟨c, more, hdigits, hc⟩ := Digits.exists_toDigits n
  have hplain := plainDigits?_toDigits n
  have hvalue := Digits.toNat_toDigits n
  unfold integer?
  split
  -- A zero in front of the mark of another base would be a leading zero.
  · next heq => cases Digits.toDigits_eq_zero_cons heq
  · next heq => cases Digits.toDigits_eq_zero_cons heq
  · next heq => cases Digits.toDigits_eq_zero_cons heq
  · rw [hdigits] at hplain hvalue ⊢
    rw [signed_of_isDigit hc]
    simp only [hplain, Option.map_some, hvalue]
    rw [Option.filter_some, if_pos]
    · rfl
    · unfold integerLimit at hn ⊢
      rw [Bool.and_eq_true, decide_eq_true_eq, decide_eq_true_eq]
      omega

theorem ofWord?_toDigits {n : Nat} (hn : (n : Int) < integerLimit) :
    ofWord? (Nat.toDigits 10 n) = some (.integer n) := by
  obtain ⟨c, more, hdigits, hc⟩ := Digits.exists_toDigits n
  have htrue : Nat.toDigits 10 n ≠ ['t', 'r', 'u', 'e'] := by
    rw [hdigits]
    exact fun h => Digits.ne_of_isDigit hc (by decide) (List.cons.inj h).1
  have hfalse : Nat.toDigits 10 n ≠ ['f', 'a', 'l', 's', 'e'] := by
    rw [hdigits]
    exact fun h => Digits.ne_of_isDigit hc (by decide) (List.cons.inj h).1
  rw [ofWord?, if_neg htrue, if_neg hfalse, integer?_toDigits hn]

/-- What begins with a digit is a word. -/
theorem value_of_isDigit {depth : Nat} (hc : c.isDigit = true) :
    value depth (c :: rest) = scalar (c :: rest) := by
  unfold value
  split
  · next heq => exact absurd (List.cons.inj heq).1 (Digits.ne_of_isDigit hc (by decide))
  · next heq => exact absurd (List.cons.inj heq).1 (Digits.ne_of_isDigit hc (by decide))
  · next heq => exact absurd (List.cons.inj heq).1 (Digits.ne_of_isDigit hc (by decide))
  · next heq => exact absurd (List.cons.inj heq).1 (Digits.ne_of_isDigit hc (by decide))
  · rfl

/-- The end of the line ends the word, so that it is read as the number. -/
theorem value_toDigits {depth n : Nat} (hn : (n : Int) < integerLimit)
    (hends : EndsLine behind rest) :
    value depth (Nat.toDigits 10 n ++ behind) = some (.integer n, behind) := by
  have hword : word (Nat.toDigits 10 n ++ behind) = (Nat.toDigits 10 n, behind) :=
    word_append (fun d hd => isWordChar_of_isDigit (Digits.isDigit_of_mem_toDigits hd)) hends
  have hscalar : scalar (Nat.toDigits 10 n ++ behind) = some (.integer n, behind) := by
    simp only [scalar, hword, ofWord?_toDigits hn, Option.map_some]
  obtain ⟨c, more, hdigits, hc⟩ := Digits.exists_toDigits n
  rw [hdigits, List.cons_append, value_of_isDigit hc, ← List.cons_append, ← hdigits, hscalar]

/-! ## Lines -/

/-- What a line says: the header of a table, or a key with an integer. -/
inductive PlainLine where
  | header (table : String)
  | integer (key : String) (n : Nat)

/-- What a line does to a document. -/
def PlainLine.perform (doc : Document) : PlainLine → Option Document
  | header table => doc.enter openTable? [table]
  | integer key n => doc.add [key] (.integer n)

/-- Whether a line can be written without quotes. -/
def PlainLine.Fits : PlainLine → Prop
  | header table => IsBare table.toList
  | integer key n => IsBare key.toList ∧ (n : Int) < integerLimit

/-- How a line is written, up to the blanks around it. -/
inductive WrittenLine : PlainLine → List Char → Prop
  | header {table : String} {before after : List Char} (hbefore : IsBlank before)
      (hafter : IsBlank after) :
      WrittenLine (.header table) ('[' :: (before ++ (table.toList ++ (after ++ [']']))))
  | integer {key : String} {n : Nat} {before after : List Char} (hbefore : IsBlank before)
      (hafter : IsBlank after) :
      WrittenLine (.integer key n)
        (key.toList ++ (before ++ '=' :: (after ++ Nat.toDigits 10 n)))

/-- How lines are written up to the end of the text, with empty lines between them. -/
inductive WrittenLines : List PlainLine → List Char → Prop
  | nil : WrittenLines [] []
  | empty {l : List PlainLine} {behind rest : List Char} (hends : EndsLine behind rest)
      (hmore : WrittenLines l rest) : WrittenLines l behind
  | cons {line : PlainLine} {l : List PlainLine} {before text behind rest : List Char}
      (hbefore : IsBlank before) (hline : WrittenLine line text) (hends : EndsLine behind rest)
      (hmore : WrittenLines l rest) : WrittenLines (line :: l) (before ++ (text ++ behind))

theorem line_of_endsLine (h : EndsLine behind rest) : line doc behind = some (doc, rest) := by
  induction h with
  | text => rfl
  | newline rest =>
    rw [line, blank_cons (by decide) (by decide)]
    simp only [content, Option.bind_eq_bind, Option.bind_some,
      lineEnd?_of_endsLine (.newline rest)]
    rfl
  | returned rest =>
    rw [line, blank_cons (by decide) (by decide)]
    simp only [content, Option.bind_eq_bind, Option.bind_some,
      lineEnd?_of_endsLine (.returned rest)]
    rfl
  | blank hc _ ih => rwa [line, blank_blank hc]

/-- A bracket opens the header of a table unless another one follows. -/
theorem content_bracket (hc : c ≠ '[') :
    content doc ('[' :: c :: rest) = tableHeader doc (c :: rest) := by
  unfold content
  split
  · next heq => cases heq
  · next heq => cases heq
  · next heq => cases heq
  · next heq => cases heq
  · next heq => exact absurd (List.cons.inj (List.cons.inj heq).2).1 hc
  · next heq => rw [← (List.cons.inj heq).2]
  · next hnone => exact absurd rfl (hnone _)

/-- What begins with a bare key is a key with its value. -/
theorem content_pair {path : List String} {v : Value} (hc : isKeyChar c = true)
    (hpair : pair (value depthLimit) (c :: rest) = some ((path, v), after))
    (hadd : doc.add path v = some doc') : content doc (c :: rest) = some (doc', after) := by
  unfold content
  split
  · next heq => cases heq
  · next heq => exact absurd (List.cons.inj heq).1 (ne_of_isKeyChar hc (by decide))
  · next heq => exact absurd (List.cons.inj heq).1 (ne_of_isKeyChar hc (by decide))
  · next heq => exact absurd (List.cons.inj heq).1 (ne_of_isKeyChar hc (by decide))
  · next heq => exact absurd (List.cons.inj heq).1 (ne_of_isKeyChar hc (by decide))
  · next heq => exact absurd (List.cons.inj heq).1 (ne_of_isKeyChar hc (by decide))
  · simp only [hpair, Option.bind_eq_bind, Option.bind_some, hadd, Option.pure_def]

/-- A header is read up to its bracket. -/
theorem content_header {table : String} {before : List Char} (hbefore : IsBlank before)
    (h : IsBare table.toList) (hafter : IsBlank after)
    (henter : doc.enter openTable? [table] = some doc') :
    content doc ('[' :: (before ++ (table.toList ++ (after ++ ']' :: behind)))) =
      some (doc', behind) := by
  have hkey : key depthLimit (before ++ (table.toList ++ (after ++ ']' :: behind))) =
      some ([table], ']' :: behind) := by
    rw [depthLimit, key_append hbefore h hafter (by decide), String.ofList_toList]
  have hcontent : content doc ('[' :: (before ++ (table.toList ++ (after ++ ']' :: behind)))) =
      tableHeader doc (before ++ (table.toList ++ (after ++ ']' :: behind))) := by
    cases before with
    | nil =>
      obtain ⟨c, more, hname, hc⟩ := h.exists_cons
      rw [hname]
      exact content_bracket (ne_of_isKeyChar hc (by decide))
    | cons c before =>
      have hblanks : ∀ d ∈ [' ', '\t'], d ≠ '[' := List.all_iff_forall_prop.mp (by decide)
      exact content_bracket (hblanks c (hbefore c List.mem_cons_self))
  have hbracket : Reader.after [']'] (']' :: behind) = some behind := rfl
  rw [hcontent, tableHeader, hkey]
  simp only [Option.bind_eq_bind, Option.bind_some, hbracket, henter, Option.pure_def]

/-- A key with an integer is read up to the end of its line. -/
theorem content_integer {name : String} {n : Nat} {before : List Char} (h : IsBare name.toList)
    (hbefore : IsBlank before) (hafter : IsBlank after) (hn : (n : Int) < integerLimit)
    (hends : EndsLine behind rest) (hadd : doc.add [name] (.integer n) = some doc') :
    content doc (name.toList ++ (before ++ '=' :: (after ++ (Nat.toDigits 10 n ++ behind)))) =
      some (doc', behind) := by
  have hkey : key depthLimit
      (name.toList ++ (before ++ '=' :: (after ++ (Nat.toDigits 10 n ++ behind)))) =
      some ([name], '=' :: (after ++ (Nat.toDigits 10 n ++ behind))) := by
    have hread : key depthLimit
        ([] ++ (name.toList ++ (before ++ '=' :: (after ++ (Nat.toDigits 10 n ++ behind))))) =
        some ([String.ofList name.toList], '=' :: (after ++ (Nat.toDigits 10 n ++ behind))) :=
      key_append IsBlank.nil h hbefore (by decide)
    rwa [List.nil_append, String.ofList_toList] at hread
  have hequals : Reader.after ['='] ('=' :: (after ++ (Nat.toDigits 10 n ++ behind))) =
      some (after ++ (Nat.toDigits 10 n ++ behind)) := rfl
  have hblank : blank (after ++ (Nat.toDigits 10 n ++ behind)) = Nat.toDigits 10 n ++ behind := by
    obtain ⟨c, more, hdigits, hc⟩ := Digits.exists_toDigits n
    rw [blank_append hafter, hdigits]
    exact blank_cons (Digits.ne_of_isDigit hc (by decide)) (Digits.ne_of_isDigit hc (by decide))
  have hpair : pair (value depthLimit)
      (name.toList ++ (before ++ '=' :: (after ++ (Nat.toDigits 10 n ++ behind)))) =
      some (([name], .integer n), behind) := by
    simp only [pair, hkey, Option.bind_eq_bind, Option.bind_some, hequals, hblank,
      value_toDigits hn hends, Option.pure_def]
  obtain ⟨c, more, hname, hc⟩ := h.exists_cons
  rw [hname] at hpair ⊢
  exact content_pair hc hpair hadd

/-- What a line holds begins with a bracket or a name, and is read up to what ends the line. -/
theorem content_of_written {l : PlainLine} {text : List Char} (hl : l.Fits)
    (hwritten : WrittenLine l text) (hends : EndsLine behind rest)
    (hperform : l.perform doc = some doc') :
    blank (text ++ behind) = text ++ behind ∧
      content doc (text ++ behind) = some (doc', behind) := by
  cases hwritten with
  | header hbefore hafter =>
    simp only [List.cons_append, List.append_assoc]
    exact ⟨blank_cons (by decide) (by decide), content_header hbefore hl hafter hperform⟩
  | integer hbefore hafter =>
    simp only [List.cons_append, List.append_assoc]
    exact ⟨blank_bare hl.1, content_integer hl.1 hbefore hafter hl.2 hends hperform⟩

theorem line_of_written {l : PlainLine} {before text : List Char} (hl : l.Fits)
    (hbefore : IsBlank before) (hwritten : WrittenLine l text) (hends : EndsLine behind rest)
    (hperform : l.perform doc = some doc') :
    line doc (before ++ (text ++ behind)) = some (doc', rest) := by
  obtain ⟨hblank, hcontent⟩ := content_of_written hl hwritten hends hperform
  simp only [line, blank_append hbefore, hblank, hcontent, Option.bind_eq_bind, Option.bind_some,
    lineEnd?_of_endsLine hends, Option.pure_def]

theorem lines_nil : lines doc [] = some doc := by
  rw [lines]
  rfl

/-- A line is taken off the front of a document. -/
theorem lines_of_line {text : List Char} (hline : line doc text = some (doc', rest))
    (hshorter : rest.length < text.length) : lines doc text = lines doc' rest := by
  have hempty : ¬text.isEmpty = true := by
    rw [List.isEmpty_iff]
    rintro rfl
    simp at hshorter
  rw [lines, if_neg hempty, hline]
  exact if_pos hshorter

/-- An empty line changes nothing, even if it is no more than the end of the text. -/
theorem lines_of_endsLine (h : EndsLine behind rest) : lines doc behind = lines doc rest := by
  cases h with
  | text => rfl
  | newline => exact lines_of_line (line_of_endsLine (.newline rest)) (by simp)
  | returned =>
    exact lines_of_line (line_of_endsLine (.returned rest)) (by simp only [List.length_cons]; omega)
  | blank hc hends =>
    exact lines_of_line (line_of_endsLine (.blank hc hends)) (Nat.lt_succ_of_le hends.length_le)

/-- A line begins with a bracket or a name. -/
theorem WrittenLine.exists_cons {l : PlainLine} {text : List Char} (h : WrittenLine l text)
    (hl : l.Fits) : ∃ c more, text = c :: more ∧ c ≠ '\ufeff' := by
  cases h with
  | header => exact ⟨'[', _, rfl, by decide⟩
  | integer =>
    obtain ⟨c, more, hname, hc⟩ := hl.1.exists_cons
    exact ⟨c, _, by rw [hname, List.cons_append], ne_of_isKeyChar hc (by decide)⟩

/-- Lines are read as what they do one after another. -/
theorem lines_of_written {l : List PlainLine} {text : List Char} (hwritten : WrittenLines l text)
    (hl : ∀ line ∈ l, line.Fits) (hperform : l.foldlM PlainLine.perform doc = some doc') :
    lines doc text = some doc' := by
  -- Along the way the text is written, with any document so far.
  induction hwritten generalizing doc with
  | nil =>
    rw [lines_nil]
    exact hperform
  | empty hends _ ih => rw [lines_of_endsLine hends, ih hl hperform]
  | @cons line l before text behind rest hbefore hline hends _ ih =>
    obtain ⟨hfits, hmore⟩ := List.forall_mem_cons.mp hl
    rw [List.foldlM_cons] at hperform
    obtain ⟨doc₁, hfirst, hlater⟩ := Option.bind_eq_some_iff.mp hperform
    have hshorter : rest.length < (before ++ (text ++ behind)).length := by
      have hle := hends.length_le
      obtain ⟨c, more, rfl, -⟩ := hline.exists_cons hfits
      simp only [List.length_append, List.length_cons]
      omega
    rw [lines_of_line (line_of_written hfits hbefore hline hends hfirst) hshorter, ih hmore hlater]

/-! ## Documents -/

theorem withoutMark_cons (hc : c ≠ '\ufeff') : withoutMark (c :: rest) = c :: rest := by
  unfold withoutMark
  split
  · next heq => exact absurd (List.cons.inj heq).1 hc
  · rfl

/-- Plain lines do not begin with the mark that is left out. -/
theorem withoutMark_of_written {l : List PlainLine} {text : List Char}
    (hwritten : WrittenLines l text) (hl : ∀ line ∈ l, line.Fits) : withoutMark text = text := by
  cases hwritten with
  | nil => rfl
  | empty hends =>
    cases text with
    | nil => rfl
    | cons c text =>
      have hblanks : ∀ d ∈ [' ', '\t', '\n', '\r'], d ≠ '\ufeff' :=
        List.all_iff_forall_prop.mp (by decide)
      exact withoutMark_cons (hblanks c hends.head_mem)
  | @cons line l before text behind rest hbefore hline hends =>
    cases before with
    | nil =>
      obtain ⟨c, more, rfl, hc⟩ := hline.exists_cons (hl line List.mem_cons_self)
      exact withoutMark_cons hc
    | cons c before =>
      have hblanks : ∀ d ∈ [' ', '\t'], d ≠ '\ufeff' := List.all_iff_forall_prop.mp (by decide)
      exact withoutMark_cons (hblanks c (hbefore c List.mem_cons_self))

/-- A document of plain lines is what they do one after another. -/
theorem entries?_of_written {l : List PlainLine} {text : List Char} (hwritten : WrittenLines l text)
    (hl : ∀ line ∈ l, line.Fits) (hperform : l.foldlM PlainLine.perform {} = some doc) :
    entries? text = some doc.entries := by
  rw [entries?, withoutMark_of_written hwritten hl, lines_of_written hwritten hl hperform,
    Option.map_some]

variable {table : String} {entries inside : Entries} {current : List String}

theorem enter_new (hnew : table ∉ entries.map (·.1)) :
    Document.enter ⟨entries, current⟩ openTable? [table] =
      some ⟨entries ++ [(table, .table .header [])], [table]⟩ := by
  simp only [Document.enter, openTable?, reach?, Keyed.change?_new hnew]
  rfl

/-- A new key goes to the end of the open table, which is the last one. -/
theorem add_last {key : String} {v : Value} (hnew : table ∉ entries.map (·.1))
    (hkey : key ∉ inside.map (·.1)) :
    Document.add ⟨entries ++ [(table, .table .header inside)], [table]⟩ [key] v =
      some ⟨entries ++ [(table, .table .header (inside ++ [(key, v)]))], [table]⟩ := by
  simp only [Document.add, within?, List.isEmpty_cons, Bool.false_eq_true, if_false, reach?,
    Keyed.change?_append hnew]
  simp [Keyed.change?, assign?, Keyed.lookup_eq_none hkey]

end Toml

end FramesInFlight
