/-
Nothing of a text is lost in its tree, and nothing is doubled. The signs of a text (the two marks,
the bar and the star) stand in the order in which the nodes they make come up in the tree, one sign
for each node (`signs_eq_of_strict`); only the mark of the empty word is no sign inside a class,
being a letter there. Each character that is taken adds its sign to those that the state keeps in its
trees (`Takes.signs`).
-/
import RegexPattern.Proofs.Parser.Bounds
import RegexPattern.Proofs.Parser.Nesting

namespace RegexPattern

variable {β σ : Type}

/-! ## The signs of a tree -/

namespace Tree

/-- What a node is, without its parts. -/
inductive Kind where
  | emptySet
  | emptyWord
  | literal
  | concat
  | alternate
  | star
deriving DecidableEq

/-- The sign that makes a node of this kind, if there is one. -/
def Kind.sign? : Kind → Option Char
  | emptySet => some emptySetMark
  | emptyWord => some emptyWordMark
  | literal => none
  | concat => none
  | alternate => some '|'
  | star => some '*'

/-- The kinds of all nodes in the order of the text: a node between its two parts, and a star behind
its body. -/
def kinds : Tree σ → List Kind
  | emptySet => [.emptySet]
  | emptyWord => [.emptyWord]
  | literal _ => [.literal]
  | concat first second => first.kinds ++ .concat :: second.kinds
  | alternate first second => first.kinds ++ .alternate :: second.kinds
  | star body => body.kinds ++ [.star]

/-- The signs that make the nodes, in the order of the text. -/
def signs (t : Tree σ) : List Char := t.kinds.filterMap Kind.sign?

theorem signs_concat (first second : Tree σ) :
    (concat first second).signs = first.signs ++ second.signs :=
  List.filterMap_append

theorem signs_alternate (first second : Tree σ) :
    (alternate first second).signs = first.signs ++ '|' :: second.signs :=
  List.filterMap_append

theorem signs_star (body : Tree σ) : (star body).signs = body.signs ++ ['*'] :=
  List.filterMap_append

theorem Kind.eq_of_sign? {k k' : Kind} {c : Char} (h : k.sign? = some c)
    (h' : k'.sign? = some c) : k = k' := by
  rw [← h'] at h
  -- The four signs are four characters, and the other two kinds have none.
  cases k <;> cases k' <;> first | rfl | exact absurd h (by decide) | cases h'

theorem count_signs {k : Kind} {c : Char} (h : k.sign? = some c) (t : Tree σ) :
    t.signs.count c = t.kinds.count k := by
  -- A sign comes from nodes of one kind only.
  rw [signs, List.count_filterMap, List.count]
  refine List.countP_congr fun k' _ => ?_
  rw [beq_iff_eq, beq_iff_eq]
  exact ⟨fun h' => Kind.eq_of_sign? h' h, fun h' => h' ▸ h⟩

end Tree

/-! ## The signs of a text -/

namespace Parser

/-- The characters of a text that stand outside its square brackets, if it starts inside of one or
if it does not. -/
def outsideClasses : Bool → List Char → List Char
  | _, [] => []
  | inside, c :: cs =>
    if inside then outsideClasses (c != ']') cs
    else if c = '[' then outsideClasses true cs
    else c :: outsideClasses false cs

/-- The signs that are no letters. -/
def reservedSigns : List Char := [emptySetMark, '|', '*']

/-- Whether `c` makes a node of its own outside of classes. -/
def isSign (c : Char) : Bool := c ∈ emptyWordMark :: reservedSigns

variable {b : SymbolBuilder β σ} {n : Nat} {c d : Char} {s s' : State σ} {outer : List (Level σ)}
  {l l' : Level σ} {f : Focus σ} {t : Tree σ} {k : OpenClass} {es : List Event}
  {events : Array Event} {p : String} {w v : List Char}

theorem mem_reserved_of_mem_reservedSigns (hd : d ∈ reservedSigns) :
    d ∈ reserved ∧ d ∉ ['[', '^', '-', ']'] := by
  simp only [reservedSigns, List.mem_cons, List.not_mem_nil, or_false] at hd
  rcases hd with rfl | rfl | rfl <;> decide

theorem isSign_of_isLiteral (h : isLiteral c = true) (hne : c ≠ emptyWordMark) :
    isSign c = false := by
  rw [isSign, decide_eq_false_iff_not, List.mem_cons, not_or]
  exact ⟨hne, fun hc => not_mem_reserved h (mem_reserved_of_mem_reservedSigns hc).1⟩

/-! ## The signs of a state -/

/-- The signs that the trees of a level hold, and the bar behind its branches. -/
def Level.signs (l : Level σ) : List Char :=
  (l.branches.elim [] fun t => t.signs ++ ['|']) ++ l.factors.elim [] Tree.signs

/-- The signs of the factor in focus. Marks inside a class are letters. -/
def Focus.signs : Focus σ → List Char
  | .factor t _ => t.signs
  | _ => []

/-- The signs of the levels around, of which the innermost comes first. -/
def outerSigns : List (Level σ) → List Char
  | [] => []
  | l :: outer => outerSigns outer ++ l.signs

/-- The signs of all trees that the parser has made so far, from the outside in. -/
def State.signs (s : State σ) : List Char := outerSigns s.outer ++ s.level.signs ++ s.focus.signs

theorem Level.signs_tree (l : Level σ) (t : Tree σ) : (l.tree t).signs = l.signs ++ t.signs := by
  obtain ⟨branches, factors⟩ := l
  cases branches <;> cases factors <;>
    simp [Level.tree, Level.branch, Level.signs, Tree.signs_alternate, Tree.signs_concat]

theorem Level.signs_addFactor (l : Level σ) (t : Tree σ) :
    (l.addFactor t).signs = l.signs ++ t.signs := by
  obtain ⟨branches, factors⟩ := l
  cases factors <;> simp [Level.addFactor, Level.branch, Level.signs, Tree.signs_concat]

theorem Level.signs_closeBranch (l : Level σ) (t : Tree σ) :
    (l.closeBranch t).signs = l.signs ++ t.signs ++ ['|'] := by
  simp [Level.closeBranch, Level.signs, l.signs_tree]

theorem Opens.signs (h : Opens n f l c es l') : l'.signs = l.signs ++ f.signs := by
  cases h with
  | first => exact (List.append_nil _).symm
  | next => exact l.signs_addFactor _

theorem Opens.signs_state (h : Opens n f l c es l') :
    (State.mk outer l f).signs = outerSigns outer ++ l'.signs := by
  rw [State.signs, h.signs, List.append_assoc]

theorem Focus.signs_state_of_openClass? (h : f.openClass? = some k) :
    (State.mk outer l f).signs = outerSigns outer ++ l.signs := by
  cases f with
  | factor t starred => cases h
  | _ => exact List.append_nil _

/-! ## One character -/

theorem outsideClasses_cons (inside : Bool) (c : Char) (v : List Char) :
    outsideClasses inside (c :: v) = outsideClasses inside [c] ++
      outsideClasses (if inside then c != ']' else c == '[') v := by
  cases inside with
  | true => rfl
  | false =>
    by_cases hc : c = '['
    · subst hc
      rfl
    · simp [outsideClasses, hc, beq_false_of_ne hc]

theorem filter_outsideClasses_of_isSign (hc : isSign c = false) :
    (outsideClasses false [c]).filter isSign = [] := by
  by_cases hopen : c = '['
  · subst hopen
    rfl
  · simp [outsideClasses, hopen, hc]

/-- A character that is taken adds the sign that it is, if it is one outside of a class. -/
theorem Takes.signs (h : Takes b n s c es s') :
    s'.signs = s.signs ++ (outsideClasses s.focus.inClass [c]).filter isSign := by
  cases h with
  | emptyWord h => rw [h.signs_state, h.inClass]; rfl
  | emptySet h => rw [h.signs_state, h.inClass]; rfl
  | group h =>
    -- Nothing has been made inside of the group.
    rw [h.signs_state, h.inClass]
    exact List.append_nil _
  | charClass h => rw [h.signs_state, h.inClass]; rfl
  | literal h hc hne =>
    rw [h.signs_state, h.inClass, filter_outsideClasses_of_isSign (isSign_of_isLiteral hc hne)]
    rfl
  | star =>
    simp only [State.signs, Focus.signs, Tree.signs_star, ← List.append_assoc]
    rfl
  | bar =>
    simp only [State.signs, Focus.signs, Level.signs_closeBranch, ← List.append_assoc]
    exact List.append_nil _
  | close =>
    simp only [State.signs, Focus.signs, Level.signs_tree, outerSigns, ← List.append_assoc]
    exact (List.append_nil _).symm
  | hat => exact (List.append_nil _).symm
  | entry hk hc =>
    rw [Focus.signs_state_of_openClass? hk, Focus.inClass_of_openClass? hk]
    rfl
  | classEnd hk =>
    rw [Focus.signs_state_of_openClass? hk, Focus.inClass_of_openClass? hk]
    rfl
  | dash => exact (List.append_nil _).symm
  | rangeEnd hc => exact (List.append_nil _).symm

theorem Takes.isLiteral_or_mem_of_inClass (h : Takes b n s c es s') (hs : s.focus.inClass = true) :
    isLiteral c = true ∨ c ∈ ['^', '-', ']'] := by
  cases h with
  | emptyWord h | emptySet h | group h | charClass h | literal h =>
    rw [h.inClass] at hs
    cases hs
  | star | bar | close => cases hs
  | hat | dash | classEnd => exact .inr (by simp)
  | entry _ hc | rangeEnd hc => exact .inl hc

theorem Takes.ne_of_inClass (h : Takes b n s c es s') (hs : s.focus.inClass = true)
    (hd : d ∈ reservedSigns) : c ≠ d := by
  obtain ⟨hreserved, hother⟩ := mem_reserved_of_mem_reservedSigns hd
  rcases h.isLiteral_or_mem_of_inClass hs with hc | hc
  · exact ne_of_isLiteral hc hreserved
  · exact fun hcd => hother (hcd ▸ .tail _ hc)

theorem Takes.count_outsideClasses (h : Takes b n s c es s') (hd : d ∈ reservedSigns) :
    (outsideClasses s.focus.inClass [c]).count d = [c].count d := by
  cases hs : s.focus.inClass with
  | true =>
    have hne : (c == d) = false := beq_false_of_ne (h.ne_of_inClass hs hd)
    rw [List.count_singleton, hne]
    rfl
  | false =>
    by_cases hopen : c = '['
    · obtain ⟨-, hother⟩ := mem_reserved_of_mem_reservedSigns hd
      have hne : ('[' == d) = false := beq_false_of_ne fun h => hother (h ▸ .head _)
      subst hopen
      rw [List.count_singleton, hne]
      rfl
    · simp [outsideClasses, hopen]

/-! ## A whole text -/

theorem Reached.outsideClasses_append (h : Reached b w s events) (v : List Char) :
    outsideClasses false (w ++ v) =
      outsideClasses false w ++ outsideClasses s.focus.inClass v := by
  induction h generalizing v with
  | start => rfl
  | @next w s s' events c es _ hc ih =>
    have hcons := outsideClasses_cons s.focus.inClass c v
    rw [← hc.inClass_eq] at hcons
    rw [List.append_assoc, List.singleton_append, ih, hcons, ← List.append_assoc, ← ih]

theorem Reached.signs_eq (h : Reached b w s events) :
    s.signs = (outsideClasses false w).filter isSign := by
  induction h with
  | start => rfl
  | next h hc ih => rw [h.outsideClasses_append, List.filter_append, hc.signs, ih]

theorem Reached.count_outsideClasses (h : Reached b w s events) (hd : d ∈ reservedSigns) :
    (outsideClasses false w).count d = w.count d := by
  induction h with
  | start => rfl
  | next h hc ih =>
    rw [h.outsideClasses_append, List.count_append, List.count_append, ih,
      hc.count_outsideClasses hd]

/-! ## Whole patterns -/

theorem signs_eq_of_strict (h : (analyze b .strict p).result = .ok t) :
    t.signs = (outsideClasses false p.toList).filter isSign := by
  obtain ⟨l, u, starred, ⟨events, hr⟩, rfl⟩ := strict_eq_ok_iff.1 h
  rw [l.signs_tree, ← hr.signs_eq]
  rfl

theorem count_kinds_of_strict {k : Tree.Kind} (h : (analyze b .strict p).result = .ok t)
    (hk : k.sign? = some c) (hc : isSign c = true) :
    t.kinds.count k = (outsideClasses false p.toList).count c := by
  rw [← Tree.count_signs hk, signs_eq_of_strict h, List.count_filter hc]

/-- A sign that is no letter stands in no class, so all of them in the pattern count. -/
theorem count_kinds_of_mem_reservedSigns {k : Tree.Kind}
    (h : (analyze b .strict p).result = .ok t) (hk : k.sign? = some c) (hc : c ∈ reservedSigns) :
    t.kinds.count k = p.toList.count c := by
  obtain ⟨l, u, starred, ⟨events, hr⟩, -⟩ := strict_eq_ok_iff.1 h
  rw [count_kinds_of_strict h hk (by simp [isSign, hc]), hr.count_outsideClasses hc]

theorem count_parentheses_of_strict (h : (analyze b .strict p).result = .ok t) :
    p.toList.count '(' = p.toList.count ')' := by
  obtain ⟨l, u, starred, hr, -⟩ := strict_eq_ok_iff.1 h
  exact hr.nested.groups

/-- A pattern that is accepted as a whole has as many stars, bars and marks of the empty set as its
tree has nodes of these kinds, as many marks of the empty word outside of classes as the tree has
nodes of that kind, and as many opening as closing parentheses. A tree that is given in either mode
has fewer than two nodes for each character of the pattern and is no deeper than the pattern is
long. -/
theorem tree_accounts_for_signs (b : SymbolBuilder β σ) (p : String) :
    (∀ t, (analyze b .strict p).result = .ok t →
      t.kinds.count .star = p.toList.count '*' ∧
      t.kinds.count .alternate = p.toList.count '|' ∧
      t.kinds.count .emptySet = p.toList.count emptySetMark ∧
      t.kinds.count .emptyWord = (outsideClasses false p.toList).count emptyWordMark ∧
      p.toList.count '(' = p.toList.count ')') ∧
    ∀ mode t, (analyze b mode p).result = .ok t →
      t.size ≤ 2 * p.length - 1 ∧ t.depth ≤ p.length := by
  refine ⟨fun t h => ⟨?_, ?_, ?_, ?_, ?_⟩, fun mode t h => ⟨?_, ?_⟩⟩
  · exact count_kinds_of_mem_reservedSigns h rfl (by decide)
  · exact count_kinds_of_mem_reservedSigns h rfl (by decide)
  · exact count_kinds_of_mem_reservedSigns h rfl (by decide)
  · exact count_kinds_of_strict h rfl (by decide)
  · exact count_parentheses_of_strict h
  · exact Nat.le_sub_one_of_lt (size_lt_of_result_eq_ok h)
  · exact depth_le_of_result_eq_ok h

/-- One of the three marks of the empty word stands in a class. -/
theorem tree_accounts_for_signs_beside_class :
    let t : Tree (List SymbolBuilder.Call) := .alternate .emptyWord
      (.concat (.star (.concat .emptySet .emptyWord)) (.star (.literal [⟨.excluding,
        [.single emptyWordMark, ⟨'a', 'b', by decide⟩]⟩])))
    let p := "ε|(∅ε)*[^εa-b]*"
    (analyze SymbolBuilder.recording .strict p).result = .ok t ∧
    (t.kinds.count .star = 2 ∧ t.kinds.count .emptyWord = 2 ∧ p.toList.count emptyWordMark = 3) ∧
    (t.kinds.count .star = p.toList.count '*' ∧
      t.kinds.count .alternate = p.toList.count '|' ∧
      t.kinds.count .emptySet = p.toList.count emptySetMark ∧
      t.kinds.count .emptyWord = (outsideClasses false p.toList).count emptyWordMark ∧
      p.toList.count '(' = p.toList.count ')') ∧
    t.size ≤ 2 * p.length - 1 ∧ t.depth ≤ p.length := by
  intro t p
  have h : (analyze SymbolBuilder.recording .strict p).result = .ok t := by decide +kernel
  obtain ⟨hcounts, hbounds⟩ := tree_accounts_for_signs SymbolBuilder.recording p
  exact ⟨h, by decide +kernel, hcounts t h, hbounds .strict t h⟩

end Parser

end RegexPattern
