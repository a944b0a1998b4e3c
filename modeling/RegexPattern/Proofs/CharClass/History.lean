/-
Classes under any history. A draft may be told ranges any number of times, to include some and to
exclude others. All that is left of this in the class is which characters came up in some range and
whether any range was to be excluded (`contains_replay`), so the tellings may come in any order
(`replay_eq_of_perm`). Such a class is normal, which is why a look at its ranges is enough to see
that it is empty (`isEmpty_iff`) or a single character (`single?_eq_some_iff`).
-/
import RegexPattern.Proofs.CharClass.Builder
import RegexPattern.Proofs.CharSet.Guarded
import RegexPattern.Proofs.Parser.Symbols

namespace RegexPattern

namespace CharRange

theorem mem_single_iff {c d : Char} : d ∈ single c ↔ d = c := by
  rw [mem_iff_ordinal, ← Scalar.ordinal_val_inj]
  show c.ordinal.val ≤ d.ordinal.val ∧ d.ordinal.val ≤ c.ordinal.val ↔ _
  omega

theorem isSingle_iff {r : CharRange} {c : Char} :
    r.isSingle = true ∧ r.first = c ↔ r = .single c := by
  obtain ⟨first, last, h⟩ := r
  simp only [isSingle, single, beq_iff_eq, CharRange.mk.injEq]
  constructor
  · rintro ⟨rfl, rfl⟩
    exact ⟨rfl, rfl⟩
  · rintro ⟨rfl, rfl⟩
    exact ⟨rfl, rfl⟩

end CharRange

namespace CharClass

open SymbolBuilder

variable {calls calls' : List Call} {c : Char} {d : Draft} {k : CharClass}

/-! ## Drafts that are told more than once -/

namespace Draft

/-- No slice lies out of bounds on the way. -/
theorem foldl_guarded_add (hd : d.gathered.Normal) (calls : List Call) :
    calls.foldl (fun draft call => guarded.add call.polarity call.ranges draft) (some d) =
      some (d.tell calls) := by
  induction calls generalizing d with
  | nil => rfl
  | cons call calls ih => rw [List.foldl_cons, guarded_add hd, ih (normal_add hd), tell_cons]

end Draft

/-! ## Classes that are told more than once -/

theorem normal_replay (calls : List Call) : (builder.replay calls).set.Normal :=
  Draft.normal_finish (Draft.normal_tell CharSet.normal_empty calls)

theorem guarded_replay (calls : List Call) :
    guarded.replay calls = some (builder.replay calls) := by
  have h := Draft.foldl_guarded_add (d := .fresh) CharSet.normal_empty calls
  exact congrArg (Option.map Draft.finish) h

theorem contains_replay (calls : List Call) (c : Char) :
    (builder.replay calls).contains c =
      (calls.any (·.polarity == .excluding) ^^
        calls.any fun call => call.ranges.any (·.contains c)) :=
  Draft.contains_finish_tell calls c

/-- The order in which a class was told its ranges leaves no trace. -/
theorem replay_eq_of_perm (h : calls'.Perm calls) :
    builder.replay calls' = builder.replay calls := by
  have hsets := (normal_replay calls').eq_iff_contains (normal_replay calls)
  refine congrArg CharClass.mk (hsets.2 fun c => ?_)
  calc
    (builder.replay calls').contains c = (calls'.any (·.polarity == .excluding) ^^
        calls'.any fun call => call.ranges.any (·.contains c)) := contains_replay calls' c
    _ = (calls.any (·.polarity == .excluding) ^^
        calls.any fun call => call.ranges.any (·.contains c)) := by rw [h.any_eq, h.any_eq]
    _ = (builder.replay calls).contains c := (contains_replay calls c).symm

/-! ## Classes of no character and of one -/

/-- Only the class of no character is stored without ranges. -/
theorem isEmpty_iff (hk : k.set.Normal) : k.isEmpty = true ↔ ∀ c, k.contains c = false := by
  have hempty : k.isEmpty = true ↔ k.set = .empty := by
    obtain ⟨⟨⟨ranges⟩⟩⟩ := k
    simp [isEmpty, CharSet.isEmpty, CharSet.empty]
  rw [hempty, hk.eq_iff_contains CharSet.normal_empty]
  exact Iff.rfl

theorem single?_eq_some_iff_set : k.single? = some c ↔ k.set = ⟨#[.single c]⟩ := by
  obtain ⟨⟨⟨ranges⟩⟩⟩ := k
  match ranges with
  | [] => simp [single?]
  | [r] => simp [single?, CharRange.isSingle_iff]
  | _ :: _ :: _ => simp [single?]

/-- Only the class of one character is stored as a range of one. -/
theorem single?_eq_some_iff (hk : k.set.Normal) :
    k.single? = some c ↔ ∀ d, k.contains d = true ↔ d = c := by
  have hone : (CharSet.mk #[.single c]).Normal := List.pairwise_singleton _ _
  rw [single?_eq_some_iff_set, hk.eq_iff_contains hone]
  have hmem : ∀ d, (CharSet.mk #[.single c]).contains d = true ↔ d = c := by
    intro d
    rw [hone.contains_iff]
    simp only [charsOf_cons, charsOf_nil, Set.union_empty, Set.mem_ofPred_eq]
    exact CharRange.mem_single_iff
  refine forall_congr' fun d => ?_
  rw [Bool.eq_iff_iff, hmem d]
  exact Iff.rfl

/-! ## Any history -/

/-- Whatever tellings a class comes from, it can be made, it has the characters of all their ranges,
or all other characters if one of them was an exclusion, and it is the same class in any order of
them. It says that it is empty exactly if it has no character, and names a character as its single
one exactly if it has that and no other. -/
theorem replay_means_what_was_told (calls : List Call) :
    guarded.replay calls = some (builder.replay calls) ∧
    (∀ c, (builder.replay calls).contains c =
      (calls.any (·.polarity == .excluding) ^^
        calls.any fun call => call.ranges.any (·.contains c))) ∧
    (∀ calls', calls'.Perm calls → builder.replay calls' = builder.replay calls) ∧
    ((builder.replay calls).isEmpty = true ↔ ∀ c, (builder.replay calls).contains c = false) ∧
    (∀ c, (builder.replay calls).single? = some c ↔
      ∀ d, (builder.replay calls).contains d = true ↔ d = c) ∧
    ((builder.replay calls).single? = none ↔
      ¬∃ c, ∀ d, (builder.replay calls).contains d = true ↔ d = c) := by
  have hnormal := normal_replay calls
  refine ⟨guarded_replay calls, contains_replay calls, fun _ => replay_eq_of_perm,
    isEmpty_iff hnormal, fun c => single?_eq_some_iff hnormal, ?_⟩
  simp only [Option.eq_none_iff_forall_ne_some, ne_eq, single?_eq_some_iff hnormal, not_exists]

/-- All characters but one are told, below it to exclude them and above it to include them, or the
other way round. -/
theorem replay_means_what_was_told_of_all_but_one :
    let below : Call := ⟨.excluding, [⟨'\x00', 'l', by decide⟩]⟩
    let above : Call := ⟨.including, [⟨'n', Scalar.greatest, by decide⟩]⟩
    (builder.replay [below, above]).single? = some 'm' ∧
    (∀ d, (builder.replay [below, above]).contains d = true ↔ d = 'm') ∧
    [above, below].Perm [below, above] ∧
      builder.replay [above, below] = builder.replay [below, above] := by
  intro below above
  have hm : (builder.replay [below, above]).single? = some 'm' := by decide +kernel
  have hperm : [above, below].Perm [below, above] := .swap _ _ _
  obtain ⟨-, -, horder, -, hsingle, -⟩ := replay_means_what_was_told [below, above]
  exact ⟨hm, (hsingle 'm').1 hm, hperm, horder _ hperm⟩

end CharClass

end RegexPattern
