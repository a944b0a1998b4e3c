/-
Patterns for trees. `Tree.text` writes a tree out with every group in parentheses; what it writes
derives from the grammar with that tree (`Parser.union_text`), so the strict analysis gives the
tree back. The trees for which that works are exactly those that patterns have: each symbol is one
telling of ranges between literals.
-/
import RegexPattern.Proofs.Parser.Completeness
import RegexPattern.Proofs.Parser.Symbols

namespace RegexPattern

open SymbolBuilder

/-! ## Writing -/

/-- A range in a class, by its two ends even if they are the same. -/
def CharRange.text (r : CharRange) : String := String.ofList [r.first, '-', r.last]

/-- The class that tells a symbol its ranges. -/
def SymbolBuilder.Call.text (call : Call) : String :=
  let hat := match call.polarity with
    | .including => ""
    | .excluding => "^"
  "[" ++ hat ++ String.join (call.ranges.map CharRange.text) ++ "]"

namespace Tree

/-- A pattern for a tree, with each part of a concatenation, a union or a star in parentheses. -/
def text : Tree (List Call) → String
  | emptySet => "∅"
  | emptyWord => "ε"
  | literal calls => String.join (calls.map Call.text)
  | concat first second => "(" ++ first.text ++ ")(" ++ second.text ++ ")"
  | alternate first second => "(" ++ first.text ++ ")|(" ++ second.text ++ ")"
  | star body => "(" ++ body.text ++ ")*"

/-- Each symbol was told ranges once, and all of them go from one literal to another. -/
def Writable (t : Tree (List Call)) : Prop :=
  ∀ calls ∈ t.symbols, ∃ call, calls = [call] ∧
    ∀ r ∈ call.ranges, isLiteral r.first = true ∧ isLiteral r.last = true

variable {first second body : Tree (List Call)}

theorem writable_literal {calls : List Call} : (literal calls).Writable ↔
    ∃ call, calls = [call] ∧
      ∀ r ∈ call.ranges, isLiteral r.first = true ∧ isLiteral r.last = true :=
  List.forall_mem_singleton

theorem writable_concat :
    (concat first second).Writable ↔ first.Writable ∧ second.Writable :=
  List.forall_mem_append

theorem writable_alternate :
    (alternate first second).Writable ↔ first.Writable ∧ second.Writable :=
  List.forall_mem_append

theorem writable_star : (star body).Writable ↔ body.Writable := Iff.rfl

end Tree

namespace Parser

open Grammar

variable {t : Tree (List Call)} {call : Call} {mode : Mode} {p : String}

/-! ## What is written derives from the grammar -/

theorem items_text {rs : List CharRange}
    (h : ∀ r ∈ rs, isLiteral r.first = true ∧ isLiteral r.last = true) :
    Items (rs.flatMap fun r => r.text.toList) rs := by
  have hitems : ∀ r ∈ rs, Item r.text.toList r := by
    intro r hr
    obtain ⟨hfirst, hlast⟩ := h r hr
    rw [CharRange.text, String.toList_ofList]
    exact .range hfirst hlast
  simpa using items_flatMap hitems

theorem toList_text_call : call.text.toList =
    '[' :: hat call.polarity ++ (call.ranges.flatMap fun r => r.text.toList) ++ [']'] := by
  obtain ⟨polarity, ranges⟩ := call
  cases polarity <;> simp [Call.text, hat, List.flatMap_map]

theorem atom_text (h : ∀ r ∈ call.ranges, isLiteral r.first = true ∧ isLiteral r.last = true) :
    Atom recording.build call.text.toList (.literal [call]) := by
  rw [toList_text_call]
  exact .charClass (items_text h)

/-- The text of a tree derives from the grammar with that tree. -/
theorem union_text (h : t.Writable) : Union recording.build t.text.toList t := by
  induction t with
  | emptySet => exact .one (.one (.once .emptySet))
  | emptyWord => exact .one (.one (.once .emptyWord))
  | literal calls =>
    obtain ⟨call, rfl, hcall⟩ := Tree.writable_literal.1 h
    have hclass := Union.one (.one (.once (atom_text hcall)))
    simpa [Tree.text] using hclass
  | concat first second ihfirst ihsecond =>
    obtain ⟨hfirst, hsecond⟩ := Tree.writable_concat.1 h
    have hleft := Concat.one (.once (.group (ihfirst hfirst)))
    have hboth := hleft.more (.once (.group (ihsecond hsecond))) (by simp)
    simpa [Tree.text] using Union.one hboth
  | alternate first second ihfirst ihsecond =>
    obtain ⟨hfirst, hsecond⟩ := Tree.writable_alternate.1 h
    have hleft := Union.one (.one (.once (.group (ihfirst hfirst))))
    have hboth := hleft.more (.one (.once (.group (ihsecond hsecond))))
    simpa [Tree.text] using hboth
  | star body ih =>
    have hstar := Union.one (.one (.starred (.group (ih (Tree.writable_star.1 h)))))
    simpa [Tree.text] using hstar

theorem strict_text (h : t.Writable) : (analyze recording .strict t.text).result = .ok t :=
  strict_eq_ok_iff_union.2 (union_text h)

/-! ## What is read can be written -/

theorem writable_of_result_eq_ok (h : (analyze recording mode p).result = .ok t) :
    t.Writable := by
  intro calls hcalls
  obtain ⟨polarity, ranges, rfl, hr⟩ := written_of_result_eq_ok h calls hcalls
  exact ⟨⟨polarity, ranges⟩, rfl, hr⟩

/-- A tree whose symbols were each told their ranges once, between literals, is read back from its
text. Every tree that is read from any pattern in either mode is one of these, so to write it and
read that again gives the same tree. -/
theorem text_reads_back (t : Tree (List Call)) :
    (t.Writable → (analyze recording .strict t.text).result = .ok t) ∧
    ∀ mode p, (analyze recording mode p).result = .ok t →
      t.Writable ∧ (analyze recording .strict t.text).result = .ok t := by
  refine ⟨strict_text, fun mode p h => ?_⟩
  have ht := writable_of_result_eq_ok h
  exact ⟨ht, strict_text ht⟩

/-- A tree that is read from only part of a pattern has a whole pattern of its own. -/
theorem text_reads_back_without_rest :
    let t : Tree (List Call) := .alternate
      (.concat (.star (.literal [⟨.excluding, [⟨'a', 'c', by decide⟩, .single '_']⟩])) .emptyWord)
      .emptySet
    (analyze recording .lenient "[^a-c_]*ε|∅)").result = .ok t ∧
    t.text = "((([^a-c_-_])*)(ε))|(∅)" ∧
    t.Writable ∧ (analyze recording .strict t.text).result = .ok t := by
  intro t
  have h : (analyze recording .lenient "[^a-c_]*ε|∅)").result = .ok t := by decide +kernel
  exact ⟨h, by decide +kernel, (text_reads_back t).2 .lenient _ h⟩

end Parser

end RegexPattern
