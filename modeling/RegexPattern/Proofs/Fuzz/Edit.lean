/-
Edits that are drawn. Where the new texts can be drawn at all (`Strategy.Total`), an edit can, and
what it replaces lies within the pattern (`Strategy.Total.ensures_draw`). Such an edit leaves the
pattern as it is around that, and another edit takes it back (`Edit.Within.reversible`). So do all
edits of a chain, each of the pattern that those before it have made (`Edit.ensures_drawChain`).
-/
import RegexPattern.Fuzz.Edit
import RegexPattern.Proofs.Random.Text
import RegexPattern.Random.Source

namespace RegexPattern.Fuzz

open RegexPattern.Random

variable {γ : Type} {strategy : Strategy} {strategies : Array Strategy} {e : Edit} {src : String}

/-- New texts are drawn without a fault. -/
def Strategy.Total : Strategy → Prop
  | .append text => text.Ensures fun _ => True
  | .insert text => text.Ensures fun _ => True
  | .replace text => text.Ensures fun _ => True
  | .erase => True

/-- What is replaced lies within a pattern of this length. -/
def Edit.Within (length : Nat) (e : Edit) : Prop := e.start ≤ e.stop ∧ e.stop ≤ length

theorem Edit.ensures_drawSpan (length : Nat) (inserted : String) :
    (Edit.drawSpan length inserted).Ensures (Edit.Within length) := by
  refine (Draw.ensures_range 0 (length + 1)).bind fun start hstart => ?_
  refine (Draw.ensures_range start (length + 1)).bind fun stop hstop => ?_
  refine Draw.ensures_pure ?_
  show start ≤ stop ∧ stop ≤ length
  omega

theorem Strategy.Total.ensures_draw (h : strategy.Total) (src : String) :
    (strategy.draw src).Ensures (Edit.Within src.length) := by
  cases strategy with
  | append text =>
    exact Draw.Ensures.bind h fun _ _ =>
      Draw.ensures_pure ⟨Nat.le_refl _, Nat.le_refl _⟩
  | insert text =>
    refine (Draw.ensures_range 0 (src.length + 1)).bind fun place hplace => ?_
    refine Draw.Ensures.bind h fun _ _ => Draw.ensures_pure ⟨Nat.le_refl _, ?_⟩
    show place ≤ src.length
    omega
  | replace text => exact Draw.Ensures.bind h fun inserted _ => Edit.ensures_drawSpan _ inserted
  | erase => exact Edit.ensures_drawSpan _ ""

/-- A choice of strategies draws an edit that lies within the pattern. -/
theorem Edit.ensures_draw (hne : strategies ≠ #[]) (h : ∀ s ∈ strategies, s.Total)
    (src : String) : (Edit.draw strategies src).Ensures (Edit.Within src.length) :=
  (Draw.ensures_choose hne).bind fun s hs => (h s hs).ensures_draw src

/-! ## What an edit does -/

/-- The edit that takes the edit `e` of `src` back: what had been replaced takes the place of what
was inserted for it. -/
def Edit.undo (e : Edit) (src : String) : Edit where
  start := e.start
  stop := e.start + e.inserted.length
  inserted := String.ofList ((src.toList.take e.stop).drop e.start)

/-- The edit lies within the text `src`, changes its length by what it takes away and puts in,
leaves what stands before and behind, and can be taken back. -/
structure Edit.Reversible (src : String) (e : Edit) : Prop where
  start_le_stop : e.start ≤ e.stop
  stop_le_length : e.stop ≤ src.length
  length_apply : (e.apply src).length = src.length - (e.stop - e.start) + e.inserted.length
  keeps_before : src.toList.take e.start <+: (e.apply src).toList
  keeps_behind : src.toList.drop e.stop <:+ (e.apply src).toList
  apply_undo : (e.undo src).apply (e.apply src) = src

theorem Edit.toList_apply (e : Edit) (src : String) :
    (e.apply src).toList =
      src.toList.take e.start ++ e.inserted.toList ++ src.toList.drop e.stop :=
  String.toList_ofList

theorem Edit.Within.length_take (h : e.Within src.length) :
    (src.toList.take e.start).length = e.start := by
  rw [List.length_take, String.length_toList]
  exact Nat.min_eq_left (Nat.le_trans h.1 h.2)

theorem Edit.Within.length_apply (h : e.Within src.length) :
    (e.apply src).length = src.length - (e.stop - e.start) + e.inserted.length := by
  obtain ⟨hstart, hstop⟩ := id h
  rw [← String.length_toList, e.toList_apply, List.length_append, List.length_append,
    h.length_take, List.length_drop, String.length_toList, String.length_toList]
  omega

theorem Edit.Within.take_apply (h : e.Within src.length) :
    (e.apply src).toList.take e.start = src.toList.take e.start := by
  rw [e.toList_apply, List.append_assoc, List.take_left' h.length_take]

theorem Edit.Within.drop_apply (h : e.Within src.length) :
    (e.apply src).toList.drop (e.start + e.inserted.length) = src.toList.drop e.stop := by
  have hlength : (src.toList.take e.start ++ e.inserted.toList).length =
      e.start + e.inserted.length := by
    rw [List.length_append, h.length_take, String.length_toList]
  rw [e.toList_apply, List.drop_left' hlength]

theorem Edit.Within.apply_undo (h : e.Within src.length) :
    (e.undo src).apply (e.apply src) = src := by
  have htake : (src.toList.take e.stop).take e.start = src.toList.take e.start := by
    rw [List.take_take, Nat.min_eq_left h.1]
  rw [← String.toList_inj, Edit.toList_apply]
  calc (e.apply src).toList.take e.start
        ++ (String.ofList ((src.toList.take e.stop).drop e.start)).toList
        ++ (e.apply src).toList.drop (e.start + e.inserted.length)
      = src.toList.take e.start ++ (src.toList.take e.stop).drop e.start
          ++ src.toList.drop e.stop := by
        rw [h.take_apply, h.drop_apply, String.toList_ofList]
    _ = src.toList.take e.stop ++ src.toList.drop e.stop := by
        rw [← htake, List.take_append_drop]
    _ = src.toList := List.take_append_drop _ _

theorem Edit.Within.reversible (h : e.Within src.length) : e.Reversible src where
  start_le_stop := h.1
  stop_le_length := h.2
  length_apply := h.length_apply
  keeps_before := by
    rw [e.toList_apply, List.append_assoc]
    exact List.prefix_append _ _
  keeps_behind := by
    rw [e.toList_apply]
    exact List.suffix_append _ _
  apply_undo := h.apply_undo

/-! ## Chains of edits -/

/-- Draws edits one after the other, each of the text that those before it have made and each by its
own choice of strategies. -/
def Edit.drawChain : List (Array Strategy) → String → Draw (List Edit)
  | [], _ => return []
  | strategies :: choices, src => do
    let e ← Edit.draw strategies src
    return e :: (← drawChain choices (e.apply src))

/-- Each edit can be made where those before it have been made, and taken back. -/
def Edit.Chain : String → List Edit → Prop
  | _, [] => True
  | src, e :: es => e.Reversible src ∧ Chain (e.apply src) es

theorem Edit.ensures_drawChain : ∀ {choices : List (Array Strategy)} (src : String),
    (∀ strategies ∈ choices, strategies ≠ #[] ∧ ∀ s ∈ strategies, s.Total) →
    (Edit.drawChain choices src).Ensures fun es => es.length = choices.length ∧ Edit.Chain src es
  | [], _, _ => ⟨rfl, trivial⟩
  | strategies :: choices, src, h => by
    obtain ⟨⟨hne, htotal⟩, hchoices⟩ := List.forall_mem_cons.1 h
    refine (Edit.ensures_draw hne htotal src).bind fun e he => ?_
    refine (Edit.ensures_drawChain (e.apply src) hchoices).bind fun es hes => ?_
    exact Draw.ensures_pure ⟨congrArg (· + 1) hes.1, he.reversible, hes.2⟩

/-- On any source of numbers, a choice of strategies whose texts can be drawn draws an edit that
lies within the pattern, keeps what is around it and can be taken back; and so does each choice of a
chain in the pattern as the edits before have left it. -/
theorem Edit.drawn_edits_stay_within_and_undo (sample : Sampler γ) (s : γ) (src : String)
    (hne : strategies ≠ #[]) (htotal : ∀ s ∈ strategies, s.Total) :
    (∃ e, ((Edit.draw strategies src).runBy sample s).1 = .ok e ∧ e.Reversible src) ∧
    ∀ choices : List (Array Strategy),
      (∀ strategies ∈ choices, strategies ≠ #[] ∧ ∀ s ∈ strategies, s.Total) →
      ∃ es, ((Edit.drawChain choices src).runBy sample s).1 = .ok es ∧
        es.length = choices.length ∧ Edit.Chain src es := by
  refine ⟨?_, fun choices h => (Edit.ensures_drawChain src h).runBy s⟩
  obtain ⟨e, hrun, he⟩ := (Edit.ensures_draw hne htotal src).runBy s
  exact ⟨e, hrun, he.reversible⟩

/-- All four ways to edit, on a text with letters of two bytes and on what they make of it: an
append, a span taken away, a span replaced. -/
theorem Edit.drawn_edits_stay_within_and_undo_in_turn :
    let text := Draw.text 1 3 #['*', 'ε']
    let strategies := #[Strategy.append text, .insert text, .replace text, .erase]
    let choices := [strategies, #[.erase], strategies]
    let edit : Edit := ⟨3, 3, "*ε"⟩
    let edits : List Edit := [edit, ⟨2, 4, ""⟩, ⟨2, 3, "ε*"⟩]
    (strategies ≠ #[] ∧ ∀ s ∈ strategies, s.Total) ∧
    (((Edit.draw strategies "aεb").runBy Source.sample (Source.seeded 6)).1 = .ok edit ∧
      edit.Reversible "aεb") ∧
    ((Edit.drawChain choices "aεb").runBy Source.sample (Source.seeded 6)).1 = .ok edits ∧
      Edit.Chain "aεb" edits ∧ edits.foldl (fun src e => e.apply src) "aεb" = "aεε*" := by
  intro text strategies choices edit edits
  have htext : text.Ensures fun _ => True :=
    (Draw.ensures_text (by decide) (by decide) (by decide)).mono fun _ _ => trivial
  have htotal : ∀ s ∈ strategies, s.Total := by
    simp only [strategies, List.mem_toArray, List.mem_cons, List.not_mem_nil, or_false]
    rintro s (rfl | rfl | rfl | rfl)
    · exact htext
    · exact htext
    · exact htext
    · exact trivial
  have hne : strategies ≠ #[] := by simp [strategies]
  have hchoices : ∀ c ∈ choices, c ≠ #[] ∧ ∀ s ∈ c, s.Total := by
    simp only [choices, List.mem_cons, List.not_mem_nil, or_false]
    rintro c (rfl | rfl | rfl)
    · exact ⟨hne, htotal⟩
    · exact ⟨by simp, by simp [Strategy.Total]⟩
    · exact ⟨hne, htotal⟩
  obtain ⟨⟨e, he, hedit⟩, hchain⟩ := Edit.drawn_edits_stay_within_and_undo Source.sample
    (Source.seeded 6) "aεb" hne htotal
  obtain ⟨es, hes, -, hedits⟩ := hchain choices hchoices
  obtain rfl : e = edit := by
    have hdrawn : ((Edit.draw strategies "aεb").runBy Source.sample
        (Source.seeded 6)).1.toOption = some edit := by decide +kernel
    rw [he] at hdrawn
    exact Option.some.inj hdrawn
  obtain rfl : es = edits := by
    have hdrawn : ((Edit.drawChain choices "aεb").runBy Source.sample
        (Source.seeded 6)).1.toOption = some edits := by decide +kernel
    rw [hes] at hdrawn
    exact Option.some.inj hdrawn
  exact ⟨⟨hne, htotal⟩, ⟨he, hedit⟩, hes, hedits, by decide +kernel⟩

end RegexPattern.Fuzz
