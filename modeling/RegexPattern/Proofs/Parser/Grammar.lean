/-
The grammar of patterns: which texts derive from which rule, and the tree that each derivation
gives. The grammar says nothing about symbols but which ranges they are told of once, and with which
polarity; `sym` makes the symbol of that. A concatenation is written from the left, so that its
trees nest to the left, and so is a union.
-/
import RegexPattern.Literal
import RegexPattern.SymbolBuilder
import RegexPattern.Tree
import Mathlib.Data.List.Induction

namespace RegexPattern.Parser.Grammar

variable {σ : Type}

/-! ## Classes -/

/-- An entry of a class: a literal for itself, or two with a dash between them for a range. -/
inductive Item : List Char → CharRange → Prop
  | single {c : Char} : isLiteral c = true → Item [c] (.single c)
  | range {r : CharRange} : isLiteral r.first = true → isLiteral r.last = true →
      Item [r.first, '-', r.last] r

/-- Any number of entries, with their ranges in the order of the text. -/
inductive Items : List Char → List CharRange → Prop
  | none : Items [] []
  | more {w v : List Char} {rs : List CharRange} {r : CharRange} :
      Items w rs → Item v r → Items (w ++ v) (rs ++ [r])

/-- Things that each have the text of an entry have, one after the other, the text of entries. -/
theorem items_flatMap {α : Type} {text : α → List Char} {range : α → CharRange} {xs : List α}
    (h : ∀ x ∈ xs, Item (text x) (range x)) : Items (xs.flatMap text) (xs.map range) := by
  -- Entries are added at the end, so that is where the list is taken apart.
  induction xs using List.reverseRecOn with
  | nil => exact .none
  | append_singleton xs x ih =>
    rw [List.forall_mem_append, List.forall_mem_singleton] at h
    obtain ⟨hxs, hx⟩ := h
    rw [List.flatMap_append, List.flatMap_singleton, List.map_append, List.map_singleton]
    exact (ih hxs).more hx

/-- What stands between the opening bracket of a class and its entries. -/
def hat : Polarity → List Char
  | .including => []
  | .excluding => ['^']

/-! ## Expressions -/

section
variable (sym : Polarity → List CharRange → σ)

mutual

/-- One concatenation or more, with bars between them. -/
inductive Union : List Char → Tree σ → Prop
  | one {w : List Char} {t : Tree σ} : Concat w t → Union w t
  | more {w v : List Char} {t u : Tree σ} :
      Union w t → Concat v u → Union (w ++ '|' :: v) (.alternate t u)

/-- One repetition or more. All but the first are of another atom than the mark of the empty
set. -/
inductive Concat : List Char → Tree σ → Prop
  | one {a w : List Char} {t : Tree σ} : Repetition a w t → Concat w t
  | more {w a v : List Char} {t u : Tree σ} :
      Concat w t → Repetition a v u → a ≠ [emptySetMark] → Concat (w ++ v) (.concat t u)

/-- The atom `a`, with a star behind it or not. -/
inductive Repetition : List Char → List Char → Tree σ → Prop
  | once {a : List Char} {t : Tree σ} : Atom a t → Repetition a a t
  | starred {a : List Char} {t : Tree σ} : Atom a t → Repetition a (a ++ ['*']) (.star t)

/-- A mark, a literal other than a mark, a union in parentheses, or a class in brackets. -/
inductive Atom : List Char → Tree σ → Prop
  | emptyWord : Atom [emptyWordMark] .emptyWord
  | emptySet : Atom [emptySetMark] .emptySet
  | literal {c : Char} : isLiteral c = true → c ≠ emptyWordMark →
      Atom [c] (.literal (sym .including [.single c]))
  | group {w : List Char} {t : Tree σ} : Union w t → Atom ('(' :: w ++ [')']) t
  | charClass {polarity : Polarity} {w : List Char} {rs : List CharRange} : Items w rs →
      Atom ('[' :: hat polarity ++ w ++ [']']) (.literal (sym polarity rs))

end

end

variable {sym : Polarity → List CharRange → σ} {a w : List Char} {t : Tree σ}

/-- An atom is the mark of the empty set, or its first character continues a concatenation. -/
theorem Atom.starts (h : Atom sym a t) (ha : a ≠ [emptySetMark]) :
    ∃ c v, a = c :: v ∧ startsFactor c = true := by
  cases h with
  | emptyWord => exact ⟨_, _, rfl, by simp [startsFactor, isLiteral_emptyWordMark]⟩
  | emptySet => exact absurd rfl ha
  | literal hc => exact ⟨_, _, rfl, by simp [startsFactor, hc]⟩
  | group => exact ⟨_, _, rfl, by simp [startsFactor]⟩
  | charClass => exact ⟨_, _, rfl, by simp [startsFactor]⟩

end RegexPattern.Parser.Grammar
