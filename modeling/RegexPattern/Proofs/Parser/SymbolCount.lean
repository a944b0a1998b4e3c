/-
How many symbols an analysis makes. A symbol is begun and finished on one character: a literal
outside of classes, or the bracket that closes a class. So the symbols made so far are as many as
the tokens that are complete in the text so far (`Reached.symbolTokens_append`), also if the
analysis fails later on; a class that is never closed makes none. In a text that derives from the
grammar the tokens are as many as the literals of its tree (`Grammar.Union.symbolTokens_append`).
-/
import RegexPattern.Proofs.Parser.Ending
import RegexPattern.Proofs.Parser.Nesting
import RegexPattern.Proofs.Parser.Symbols

namespace RegexPattern.Parser

open Grammar

variable {β σ : Type} {b : SymbolBuilder β σ} {sym : Polarity → List CharRange → σ} {n : Nat}
  {c : Char} {s s' : State σ} {l l' : Level σ} {f : Focus σ} {es : List Event}
  {events : Array Event} {u w : List Char} {mode : Mode} {p : String}

/-! ## Tokens -/

/-- The number of complete tokens in a text that stand for a symbol: the literals outside of square
brackets, other than the mark of the empty word, and the classes with their closing bracket. The
text may start inside of a class. -/
def symbolTokens : Bool → List Char → Nat
  | _, [] => 0
  | true, c :: cs => if c = ']' then symbolTokens false cs + 1 else symbolTokens true cs
  | false, c :: cs =>
    if c = '[' then symbolTokens true cs
    else if isLiteral c ∧ c ≠ emptyWordMark then symbolTokens false cs + 1
    else symbolTokens false cs

theorem symbolTokens_literal (h : isLiteral c = true) (hne : c ≠ emptyWordMark) (v : List Char) :
    symbolTokens false (c :: v) = symbolTokens false v + 1 := by
  rw [symbolTokens, if_neg (ne_of_isLiteral h (by decide)), if_pos ⟨h, hne⟩]

theorem symbolTokens_emptyWordMark (v : List Char) :
    symbolTokens false (emptyWordMark :: v) = symbolTokens false v := by
  rw [symbolTokens, if_neg (by decide), if_neg (fun h => h.2 rfl)]

theorem symbolTokens_reserved (h : c ∈ reserved) (hne : c ≠ '[') (v : List Char) :
    symbolTokens false (c :: v) = symbolTokens false v := by
  rw [symbolTokens, if_neg hne, if_neg (by simp [isLiteral_of_mem_reserved h])]

theorem symbolTokens_bracket (v : List Char) :
    symbolTokens false ('[' :: v) = symbolTokens true v := if_pos rfl

theorem symbolTokens_close (v : List Char) :
    symbolTokens true (']' :: v) = symbolTokens false v + 1 := if_pos rfl

/-- Inside a class only its end counts. -/
theorem symbolTokens_inside_cons (h : c ≠ ']') (v : List Char) :
    symbolTokens true (c :: v) = symbolTokens true v := if_neg h

theorem symbolTokens_inside (h : ']' ∉ u) (v : List Char) :
    symbolTokens true (u ++ v) = symbolTokens true v := by
  induction u with
  | nil => rfl
  | cons c u ih =>
    rw [List.mem_cons, not_or] at h
    obtain ⟨hc, hu⟩ := h
    rw [List.cons_append, symbolTokens_inside_cons (Ne.symm hc), ih hu]

/-- A class that is never closed is no token. -/
theorem symbolTokens_open (h : ']' ∉ u) (w : List Char) (inside : Bool) :
    symbolTokens inside (w ++ '[' :: u) = symbolTokens inside w := by
  have hopen : symbolTokens true u = 0 := by
    rw [← List.append_nil u, symbolTokens_inside h]
    rfl
  induction w generalizing inside with
  | nil => cases inside <;> simp [symbolTokens, hopen]
  | cons c w ih => cases inside <;> simp only [List.cons_append, symbolTokens, ih]

/-! ## The tokens of a tree -/

theorem Grammar.Items.not_mem {rs : List CharRange} (h : Items w rs) : ']' ∉ w := by
  induction h with
  | none => simp
  | more _ hi ih =>
    have hne : ∀ {c : Char}, isLiteral c = true → ']' ≠ c := fun hc =>
      (ne_of_isLiteral hc (by decide)).symm
    rw [List.mem_append, not_or]
    refine ⟨ih, ?_⟩
    cases hi with
    | single hc => simpa using hne hc
    | range hfirst hlast => simpa using ⟨hne hfirst, hne hlast⟩

theorem not_mem_hat (polarity : Polarity) : ']' ∉ hat polarity := by
  cases polarity <;> decide

mutual

theorem Grammar.Union.symbolTokens_append : ∀ {w : List Char} {t : Tree σ}, Union sym w t →
    ∀ v, symbolTokens false (w ++ v) = t.symbols.length + symbolTokens false v
  | _, _, .one h, v => h.symbolTokens_append v
  | _, _, .more h h', v => by
    rw [List.append_assoc, h.symbolTokens_append, List.cons_append,
      symbolTokens_reserved (by decide) (by decide), h'.symbolTokens_append, Tree.symbols,
      List.length_append, Nat.add_assoc]

theorem Grammar.Concat.symbolTokens_append : ∀ {w : List Char} {t : Tree σ}, Concat sym w t →
    ∀ v, symbolTokens false (w ++ v) = t.symbols.length + symbolTokens false v
  | _, _, .one h, v => h.symbolTokens_append v
  | _, _, .more h h' _, v => by
    rw [List.append_assoc, h.symbolTokens_append, h'.symbolTokens_append, Tree.symbols,
      List.length_append, Nat.add_assoc]

theorem Grammar.Repetition.symbolTokens_append : ∀ {a w : List Char} {t : Tree σ},
    Repetition sym a w t →
    ∀ v, symbolTokens false (w ++ v) = t.symbols.length + symbolTokens false v
  | _, _, _, .once h, v => h.symbolTokens_append v
  | _, _, _, .starred h, v => by
    rw [List.append_assoc, h.symbolTokens_append, List.singleton_append,
      symbolTokens_reserved (by decide) (by decide), Tree.symbols]

theorem Grammar.Atom.symbolTokens_append : ∀ {a : List Char} {t : Tree σ}, Atom sym a t →
    ∀ v, symbolTokens false (a ++ v) = t.symbols.length + symbolTokens false v
  | _, _, .emptyWord, v => by
    rw [List.singleton_append, symbolTokens_emptyWordMark]
    exact (Nat.zero_add _).symm
  | _, _, .emptySet, v => by
    rw [List.singleton_append, symbolTokens_reserved (by decide) (by decide)]
    exact (Nat.zero_add _).symm
  | _, _, .literal hc hne, v => by
    rw [List.singleton_append, symbolTokens_literal hc hne]
    exact Nat.add_comm _ _
  | _, _, .group h, v => by
    rw [List.append_assoc, List.cons_append, symbolTokens_reserved (by decide) (by decide),
      h.symbolTokens_append, List.singleton_append,
      symbolTokens_reserved (by decide) (by decide)]
  | _, _, .charClass h, v => by
    rw [List.append_assoc, List.append_assoc, List.cons_append, symbolTokens_bracket,
      symbolTokens_inside (not_mem_hat _), symbolTokens_inside h.not_mem,
      List.singleton_append, symbolTokens_close]
    exact Nat.add_comm _ _

end

/-! ## One character -/

theorem Opens.count_symbolBegun (h : Opens n f l c es l') : es.count .symbolBegun = 0 := by
  cases h <;> rfl

/-- A symbol is begun on a character that makes a token complete, and on no other. -/
theorem Takes.symbolTokens_cons (h : Takes b n s c es s') (v : List Char) :
    symbolTokens s.focus.inClass (c :: v) =
      es.count .symbolBegun + symbolTokens s'.focus.inClass v := by
  cases h with
  | emptyWord h =>
    rw [h.inClass, h.count_symbolBegun, symbolTokens_emptyWordMark]
    exact (Nat.zero_add _).symm
  | emptySet h =>
    rw [h.inClass, h.count_symbolBegun, symbolTokens_reserved (by decide) (by decide)]
    exact (Nat.zero_add _).symm
  | group h =>
    rw [h.inClass, List.count_append, h.count_symbolBegun,
      symbolTokens_reserved (by decide) (by decide)]
    exact (Nat.zero_add _).symm
  | charClass h =>
    rw [h.inClass, List.count_append, h.count_symbolBegun, symbolTokens_bracket]
    exact (Nat.zero_add _).symm
  | literal h hc hne =>
    rw [h.inClass, List.count_append, h.count_symbolBegun, symbolTokens_literal hc hne]
    exact Nat.add_comm _ _
  | star | bar | close =>
    exact (symbolTokens_reserved (by decide) (by decide) v).trans (Nat.zero_add _).symm
  | hat | dash => exact (symbolTokens_inside_cons (by decide) v).trans (Nat.zero_add _).symm
  | entry hk hc =>
    rw [Focus.inClass_of_openClass? hk, symbolTokens_inside_cons (ne_of_isLiteral hc (by decide))]
    exact (Nat.zero_add _).symm
  | classEnd hk =>
    rw [Focus.inClass_of_openClass? hk, symbolTokens_close]
    exact Nat.add_comm _ _
  | rangeEnd hc =>
    have hne := ne_of_isLiteral (d := ']') hc (by decide)
    exact (symbolTokens_inside_cons hne v).trans (Nat.zero_add _).symm

/-- A symbol that is begun is finished at once. -/
theorem Takes.count_symbolFinished (h : Takes b n s c es s') :
    es.count .symbolFinished = es.count .symbolBegun := by
  have hopens : ∀ {l l' : Level σ} {f : Focus σ} {c : Char} {es : List Event},
      Opens n f l c es l' → es.count .symbolFinished = es.count .symbolBegun := fun h => by
    cases h <;> rfl
  cases h with
  | emptyWord h | emptySet h => exact hopens h
  | group h | charClass h | literal h =>
    rw [List.count_append, List.count_append, hopens h]
    rfl
  | _ => rfl

/-! ## A whole text -/

/-- As many symbols have been begun as there are complete tokens in the text. -/
theorem Reached.symbolTokens_append (h : Reached b w s events) (v : List Char) :
    symbolTokens false (w ++ v) =
      events.toList.count .symbolBegun + symbolTokens s.focus.inClass v := by
  induction h generalizing v with
  | start => exact (Nat.zero_add _).symm
  | next h hc ih =>
    rw [List.append_assoc, ih, List.singleton_append, hc.symbolTokens_cons,
      Array.toList_appendList, List.count_append, Nat.add_assoc]

theorem Reached.count_symbolFinished (h : Reached b w s events) :
    events.toList.count .symbolFinished = events.toList.count .symbolBegun := by
  induction h with
  | start => rfl
  | next h hc ih =>
    rw [Array.toList_appendList, List.count_append, List.count_append, ih,
      hc.count_symbolFinished]

theorem Reached.count_symbolBegun (h : Reached b w s events) :
    events.count .symbolBegun = symbolTokens false w := by
  have htokens := h.symbolTokens_append []
  have hnil : symbolTokens s.focus.inClass [] = 0 := by cases s.focus.inClass <;> rfl
  rw [List.append_nil, hnil, Array.count_toList] at htokens
  exact htokens.symm

/-! ## Whole patterns -/

/-- Only where a reading stops is something left over. -/
theorem Ends.exists_stopped {v : List Char} {r : Reading σ} {offset : Nat} (h : Ends n s v r)
    (he : r.result .strict = .error ⟨.trailingInput c, offset⟩) : ∃ t, r = .stopped t offset c := by
  cases h with
  | whole => cases he
  | unfinished hu => cases he; cases hu
  | stopped => cases he; exact ⟨_, rfl⟩
  | failed hc => cases he; cases hc

theorem symbolsBegun_eq_symbolsFinished (b : SymbolBuilder β σ) (mode : Mode) (p : String) :
    (analyze b mode p).symbolsBegun = (analyze b mode p).symbolsFinished := by
  obtain ⟨w, s, v, -, hr, -⟩ := exists_ends b mode p
  have hcount := hr.count_symbolFinished
  rw [Array.count_toList, Array.count_toList] at hcount
  exact hcount.symm

/-- Behind a tree that is given there is a symbol for each of its literals. -/
theorem symbolsBegun_eq_length_symbols {t : Tree σ} (h : (analyze b mode p).result = .ok t) :
    (analyze b mode p).symbolsBegun = t.symbols.length := by
  obtain ⟨w, s, v, -, hr, hv⟩ := exists_ends b mode p
  rw [Analysis.result_eq] at h
  have htokens := (hv.union ⟨_, hr⟩ h).symbolTokens_append []
  rw [List.append_nil] at htokens
  exact hr.count_symbolBegun.trans htokens

/-- Behind an error there is a symbol for each token before the culprit. -/
theorem symbolsBegun_eq_symbolTokens {e : ParseError} (h : (analyze b mode p).result = .error e) :
    (analyze b mode p).symbolsBegun = symbolTokens false (p.toList.take e.culprit) := by
  obtain ⟨w, s, v, hp, hr, hv⟩ := exists_ends b mode p
  rw [Analysis.result_eq] at h
  rw [hv.culprit_eq hr.stateText h, hp, List.take_left]
  exact hr.count_symbolBegun

/-- What the strict mode refuses as left over, the lenient mode drops. -/
theorem exists_lenient_of_trailingInput {offset : Nat}
    (h : (analyze b .strict p).result = .error ⟨.trailingInput c, offset⟩) :
    ∃ t, (analyze b .lenient p).result = .ok t := by
  obtain ⟨w, s, v, -, -, hv⟩ := exists_ends b .strict p
  rw [Analysis.result_eq] at h
  obtain ⟨t, ht⟩ := hv.exists_stopped h
  rw [Analysis.result_eq]
  exact ⟨t, congrArg (Reading.result .lenient) ht⟩

/-- Every symbol that is begun is finished. Behind an analysis that gives a tree there are as many
as the tree has literals. Behind one that fails there are as many as the pattern has complete tokens
before the culprit, so none for a class that is still open there. What the strict mode refuses as
left over makes no difference to the symbols: they are those of the tree that the lenient mode
gives. -/
theorem symbols_made_for_complete_tokens (b : SymbolBuilder β σ) (mode : Mode) (p : String) :
    let a := analyze b mode p
    a.symbolsBegun = a.symbolsFinished ∧
    (∀ t, a.result = .ok t → a.symbolsBegun = t.symbols.length) ∧
    (∀ e, a.result = .error e →
      a.symbolsBegun = symbolTokens false (p.toList.take e.culprit) ∧
      ∀ w v, p.toList.take e.culprit = w ++ '[' :: v → ']' ∉ v →
        a.symbolsBegun = symbolTokens false w) ∧
    ∀ c offset, (analyze b .strict p).result = .error ⟨.trailingInput c, offset⟩ →
      ∃ t, (analyze b .lenient p).result = .ok t ∧
        (analyze b .strict p).events = (analyze b .lenient p).events ∧
        (analyze b .strict p).symbolsBegun = t.symbols.length := by
  intro a
  refine ⟨symbolsBegun_eq_symbolsFinished b mode p, fun t ht => symbolsBegun_eq_length_symbols ht,
    fun e he => ?_, fun c offset he => ?_⟩
  · have hcount : a.symbolsBegun = symbolTokens false (p.toList.take e.culprit) :=
      symbolsBegun_eq_symbolTokens he
    refine ⟨hcount, fun w v hw hv => ?_⟩
    rw [hcount, hw, symbolTokens_open hv]
  · -- The two modes read alike, so the same things happen.
    obtain ⟨t, ht⟩ := exists_lenient_of_trailingInput he
    have hcount : (analyze b .lenient p).symbolsBegun = t.symbols.length :=
      symbolsBegun_eq_length_symbols ht
    exact ⟨t, ht, rfl, hcount⟩

/-- Two literals and a class are complete before the range that is the wrong way round; the mark of
the empty word is no token outside of the class, and the class behind the error is not looked at. -/
theorem symbols_made_for_complete_tokens_before_inverted_range :
    let a := analyze SymbolBuilder.recording .strict "aε(b|[cε]*[dz-y][f]"
    a.result = .error ⟨.invertedRange 'z' 'y', 12⟩ ∧
    a.symbolsBegun = a.symbolsFinished ∧
    a.symbolsBegun = symbolTokens false "aε(b|[cε]*[dz-".toList ∧
    a.symbolsBegun = symbolTokens false "aε(b|[cε]*".toList ∧
    a.symbolsBegun = 3 := by
  intro a
  have h : a.result = .error ⟨.invertedRange 'z' 'y', 12⟩ := by decide +kernel
  obtain ⟨hfinished, -, herror, -⟩ :=
    symbols_made_for_complete_tokens SymbolBuilder.recording .strict "aε(b|[cε]*[dz-y][f]"
  obtain ⟨htokens, hopen⟩ := herror _ h
  exact ⟨h, hfinished, htokens, hopen "aε(b|[cε]*".toList ['d', 'z', '-'] (by decide) (by decide),
    by decide +kernel⟩

end RegexPattern.Parser
