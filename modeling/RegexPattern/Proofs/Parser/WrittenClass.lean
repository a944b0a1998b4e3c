/-
Classes from their text to their characters. A class is written as entries in square brackets,
behind a hat or not. It is read as one literal, and the class of that literal has the characters
that the text says: those of the entries, or all others behind the hat.
-/
import RegexPattern.Proofs.CharClass.Builder
import RegexPattern.Proofs.CharSet.Guarded
import RegexPattern.Proofs.Parser.Completeness
import RegexPattern.Proofs.Parser.Modes

namespace RegexPattern.Parser

open Grammar

/-! ## Written classes -/

/-- An entry of a class: a literal for itself, or two with a dash between them for a range. -/
inductive Entry where
  | literal (c : Char) (h : isLiteral c = true)
  | range (r : CharRange) (hfirst : isLiteral r.first = true) (hlast : isLiteral r.last = true)

namespace Entry

def text : Entry → List Char
  | literal c _ => [c]
  | range r _ _ => [r.first, '-', r.last]

/-- The characters that an entry stands for. -/
def span : Entry → CharRange
  | literal c _ => .single c
  | range r _ _ => r

theorem item (e : Entry) : Item e.text e.span := by
  cases e with
  | literal c h => exact .single h
  | range r hfirst hlast => exact .range hfirst hlast

end Entry

/-- A class as it is written. -/
structure WrittenClass where
  polarity : Polarity
  entries : List Entry

namespace WrittenClass

/-- The pattern that is this class alone. -/
def pattern (k : WrittenClass) : String :=
  String.ofList ('[' :: hat k.polarity ++ k.entries.flatMap Entry.text ++ [']'])

/-- Whether the text says that the class has `c`: some entry stands for it, or none does if the
class is negated. -/
def denotes (k : WrittenClass) (c : Char) : Bool :=
  (k.polarity == .excluding) ^^ k.entries.any (·.span.contains c)

variable {β σ : Type} {b : SymbolBuilder β σ} {mode : Mode}

/-! ## Reading -/

theorem union_pattern (k : WrittenClass) :
    Union b.build k.pattern.toList (.literal (b.build k.polarity (k.entries.map Entry.span))) := by
  rw [pattern, String.toList_ofList]
  exact .one (.one (.once (.charClass (items_flatMap fun e _ => e.item))))

/-- In either mode a class is read as one literal, told the ranges of its entries in order. -/
theorem result_pattern (k : WrittenClass) : (analyze b mode k.pattern).result =
    .ok (.literal (b.build k.polarity (k.entries.map Entry.span))) :=
  result_eq_ok_of_strict (strict_eq_ok_iff_union.2 k.union_pattern)

/-- The class that is built has the characters that the text says. -/
theorem contains_build (k : WrittenClass) (c : Char) :
    (CharClass.builder.build k.polarity (k.entries.map Entry.span)).contains c = k.denotes c := by
  rw [CharClass.contains_build, List.any_map]
  rfl

/-- A class is read to its end, in either mode, as a literal that has exactly the characters that
the text says. Two classes are read as the same tree if and only if their texts say the same of
every character. -/
theorem reads_as_denoted (mode mode' : Mode) (k l : WrittenClass) :
    breaksOff CharClass.guarded k.pattern = false ∧
    (∃ x, parse mode k.pattern = .ok (.literal x) ∧
      ∀ c, x.contains c =
        ((k.polarity == .excluding) ^^ k.entries.any (·.span.contains c))) ∧
    (parse mode k.pattern = parse mode' l.pattern ↔ ∀ c, k.denotes c = l.denotes c) := by
  refine ⟨breaksOff_eq_false (fun _ _ => ⟨_, CharClass.guarded_build _ _⟩) _,
    ⟨_, k.result_pattern, k.contains_build⟩, ?_⟩
  rw [parse, parse, k.result_pattern, l.result_pattern, Except.ok.injEq, Tree.literal.injEq,
    CharClass.build_eq_iff]
  simp only [contains_build]

end WrittenClass

/-- The order of the entries does not matter, nor how they overlap. -/
example : parse .strict "[^b-da]" = parse .lenient "[^dcb-cab]" := by decide +kernel

end RegexPattern.Parser
