/-
What the classes that are built have in them. However ranges come into a draft, the set that gathers
them is normal, so a finished class has the characters that were gathered, or all others if the draft
is inverted (`Draft.contains_finish`). That gives the characters of a class from all that its draft
was told (`Draft.contains_finish_tell`), and the class is determined by them (`build_eq_iff`).
-/
import RegexPattern.CharClass
import RegexPattern.Proofs.CharSet.Inversion

namespace RegexPattern

variable {c : Char} {polarity polarity' : Polarity} {ranges ranges' vs : List CharRange}

namespace CharSet

variable {s : CharSet}

theorem Normal.contains_extend (hs : s.Normal) (vs : List CharRange) (c : Char) :
    (s.extend vs).contains c = (s.contains c || vs.any (·.contains c)) := by
  obtain ⟨hnormal, hchars⟩ := hs.extend vs
  rw [Bool.eq_iff_iff, hnormal.contains_iff, hchars, Set.mem_union, ← hs.contains_iff,
    Bool.or_eq_true, List.any_eq_true]
  rfl

theorem contains_empty (c : Char) : CharSet.empty.contains c = false := rfl

end CharSet

namespace CharClass

open SymbolBuilder

/-! ## Drafts -/

variable {d : Draft}

theorem Draft.normal_add (hd : d.gathered.Normal) : (d.add polarity ranges).gathered.Normal :=
  (hd.extend ranges).1

theorem Draft.normal_finish (hd : d.gathered.Normal) : d.finish.set.Normal := by
  unfold Draft.finish
  split
  · exact hd.complement
  · exact hd

/-- A finished class has what was gathered, or all else if something was excluded. -/
theorem Draft.contains_finish (hd : d.gathered.Normal) (c : Char) :
    d.finish.contains c = (d.inverted ^^ d.gathered.contains c) := by
  unfold Draft.finish CharClass.contains
  cases d.inverted with
  | false => rw [Bool.false_xor, if_neg Bool.false_ne_true]
  | true => rw [Bool.true_xor, if_pos rfl, hd.contains_complement]

/-! ## Drafts that are told more than once -/

/-- The draft after all of `calls` in order. -/
def Draft.tell (d : Draft) (calls : List Call) : Draft :=
  calls.foldl (fun d call => d.add call.polarity call.ranges) d

theorem Draft.tell_cons (d : Draft) (call : Call) (calls : List Call) :
    d.tell (call :: calls) = (d.add call.polarity call.ranges).tell calls := rfl

theorem Draft.normal_tell (hd : d.gathered.Normal) (calls : List Call) :
    (d.tell calls).gathered.Normal := by
  induction calls generalizing d with
  | nil => exact hd
  | cons call calls ih => exact ih (normal_add hd)

/-- One exclusion inverts a draft, and nothing turns it back. -/
theorem Draft.inverted_tell (d : Draft) (calls : List Call) :
    (d.tell calls).inverted = (d.inverted || calls.any (·.polarity == .excluding)) := by
  induction calls generalizing d with
  | nil => exact (Bool.or_false _).symm
  | cons call calls ih => rw [tell_cons, ih, List.any_cons, ← Bool.or_assoc]; rfl

/-- Every range is gathered, whatever its polarity. -/
theorem Draft.contains_gathered_tell (hd : d.gathered.Normal) (calls : List Call) (c : Char) :
    (d.tell calls).gathered.contains c =
      (d.gathered.contains c || calls.any fun call => call.ranges.any (·.contains c)) := by
  induction calls generalizing d with
  | nil => exact (Bool.or_false _).symm
  | cons call calls ih =>
    rw [tell_cons, ih (normal_add hd), List.any_cons, ← Bool.or_assoc, ← hd.contains_extend]
    rfl

theorem Draft.contains_finish_tell (calls : List Call) (c : Char) :
    (fresh.tell calls).finish.contains c =
      (calls.any (·.polarity == .excluding) ^^
        calls.any fun call => call.ranges.any (·.contains c)) := by
  have hnormal : fresh.gathered.Normal := CharSet.normal_empty
  rw [contains_finish (normal_tell hnormal calls), inverted_tell, contains_gathered_tell hnormal]
  simp only [fresh, CharSet.contains_empty, Bool.false_or]

/-! ## Classes that are told their ranges once -/

theorem normal_build (polarity : Polarity) (ranges : List CharRange) :
    (builder.build polarity ranges).set.Normal :=
  Draft.normal_finish (Draft.normal_add CharSet.normal_empty)

theorem contains_build (polarity : Polarity) (ranges : List CharRange) (c : Char) :
    (builder.build polarity ranges).contains c =
      ((polarity == .excluding) ^^ ranges.any (·.contains c)) := by
  have h := Draft.contains_finish_tell [⟨polarity, ranges⟩] c
  simp only [List.any_cons, List.any_nil, Bool.or_false] at h
  exact h

/-- Classes are equal if they have the same characters, whatever ranges they were told. -/
theorem build_eq_iff :
    builder.build polarity ranges = builder.build polarity' ranges' ↔
      ∀ c, (builder.build polarity ranges).contains c =
        (builder.build polarity' ranges').contains c := by
  have hsets := (normal_build polarity ranges).eq_iff_contains (normal_build polarity' ranges')
  constructor
  · intro h c
    rw [h]
  · intro h
    exact congrArg CharClass.mk (hsets.2 h)

end CharClass

end RegexPattern
