import Mathlib.Data.Bool.AllAny
import Mathlib.Data.List.Basic
import FramesInFlight.Text.Reader

/-!
# Readers on text that was written

What a reader does on a text that begins with what it reads, with any text behind, and what can be
said of everything it gives.

* `Reader.run_append` and `run_append_nil` are about the longest run of a kind of character.
* `ListShape.items_close`, `items_last` and `items_cons` are the steps of a list: its end, an item
  with the end behind, and an item with a comma behind.
* `Reader.Gives` is a property of everything a reader gives, and `ListShape.items_gives` says it of
  lists.
-/

namespace FramesInFlight

namespace Reader

/-- A run ends before the first character that does not belong to it. -/
theorem run_append {test : Char → Bool} {word rest : List Char} {c : Char}
    (hword : ∀ d ∈ word, test d = true) (hc : test c = false) :
    run test (word ++ c :: rest) = (word, c :: rest) := by
  have htest : ¬test c = true := by simp [hc]
  rw [run, List.takeWhile_append_of_pos hword, List.dropWhile_append_of_pos hword,
    List.takeWhile_cons_of_neg htest, List.dropWhile_cons_of_neg htest, List.append_nil]

theorem run_append_nil {test : Char → Bool} {word : List Char} (hword : ∀ d ∈ word, test d = true) :
    run test (word ++ []) = (word, []) := by
  rw [run, List.takeWhile_append_of_pos hword, List.dropWhile_append_of_pos hword,
    List.takeWhile_nil, List.dropWhile_nil, List.append_nil]

/-- Whether everything a reader gives satisfies a predicate. -/
def Gives {α : Type} (reader : Reader α) (P : α → Prop) : Prop :=
  ∀ text a rest, reader text = some (a, rest) → P a

end Reader

namespace ListShape

variable {α : Type} {shape : ListShape} {item : Reader α} {closable : Bool}
  {text rest later last : List Char} {c : Char} {a : α}

theorem items_close (hskip : shape.skip text = shape.close :: rest) :
    shape.items item true text = some ([], rest) := by
  rw [items, hskip]
  exact if_pos ⟨rfl, rfl⟩

theorem items_last (hskip : shape.skip text = c :: rest) (hc : c ≠ shape.close)
    (hitem : item (c :: rest) = some (a, later)) (hclose : shape.skip later = shape.close :: last) :
    shape.items item closable text = some ([a], last) := by
  rw [items, hskip]
  dsimp only
  rw [if_neg fun h => hc h.1, hitem]
  dsimp only
  rw [hclose]
  exact if_pos rfl

theorem items_cons {more : List α} {behind : List Char} (hskip : shape.skip text = c :: rest)
    (hc : c ≠ shape.close) (hitem : item (c :: rest) = some (a, later))
    (hcomma : shape.skip later = ',' :: last) (hclose : ',' ≠ shape.close)
    (hshorter : last.length < text.length)
    (hmore : shape.items item shape.trailingComma last = some (more, behind)) :
    shape.items item closable text = some (a :: more, behind) := by
  rw [items, hskip]
  dsimp only
  rw [if_neg fun h => hc h.1, hitem]
  dsimp only
  rw [hcomma]
  dsimp only
  rw [if_neg hclose, if_pos ⟨rfl, hshorter⟩, hmore, Option.map_some]

theorem items_gives {P : α → Prop} (hitem : item.Gives P) (closable : Bool) :
    Reader.Gives (shape.items item closable) fun items => ∀ a ∈ items, P a := by
  intro text items rest h
  fun_induction shape.items item closable text generalizing items rest with
  | case1 => cases h
  | case2 =>
    cases h
    exact fun a ha => absurd ha List.not_mem_nil
  | case3 => cases h
  | case4 => cases h
  | case5 _ _ _ _ _ _ first later hfirst =>
    cases h
    exact List.forall_mem_singleton.mpr (hitem _ _ _ hfirst)
  | case6 _ _ _ _ _ _ first later hfirst _ _ _ _ _ ih =>
    obtain ⟨⟨more, last⟩, hmore, heq⟩ := Option.map_eq_some_iff.mp h
    cases heq
    exact List.forall_mem_cons.mpr ⟨hitem _ _ _ hfirst, ih _ _ hmore⟩
  | case7 => cases h

end ListShape

end FramesInFlight
