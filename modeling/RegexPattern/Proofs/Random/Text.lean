/-
Texts of a drawn length. `TextOutcome` says what comes of drawing so many characters from a charset:
a text of them; a fault where there is no character to choose; or a fault where the text needs more
room than there can be. This is so for every length of 2 ^ 63 and more, and for others only where
characters of several bytes make the text so wide (`Overflows`), never up to a length of 2 ^ 60.
-/
import Mathlib.Algebra.Group.Nat.Defs
import RegexPattern.Proofs.Random.Ensures

namespace RegexPattern.Random.Draw

variable {α γ : Type} {charset : Array Char} {n : Nat}

/-! ## Outcomes -/

/-- A text of `n` characters of the charset can need more room than there can be: it has that many
characters, or the first of them outgrow both the room made for it at first and half of the most
room there can be. -/
def Overflows (charset : Array Char) (n : Nat) : Prop :=
  2 ^ 63 ≤ n ∨ ∃ t : String, t.length ≤ n ∧ (∀ c ∈ t.toList, c ∈ charset) ∧
    n < t.utf8ByteSize ∧ 2 ^ 62 < t.utf8ByteSize

/-- What comes of drawing `n` characters. -/
def TextOutcome (charset : Array Char) (n : Nat) : Except Fault String → Prop
  | .ok t => n < 2 ^ 63 ∧ t.length = n ∧ ∀ c ∈ t.toList, c ∈ charset
  | .error .emptyChoice => n < 2 ^ 63 ∧ charset = #[] ∧ 0 < n
  | .error .capacityOverflow => Overflows charset n
  | .error .noDepthLeft => False

/-- What comes of adding `n` characters to a text. -/
def AppendOutcome (charset : Array Char) (n : Nat) (out : Buffer) : Except Fault Buffer → Prop
  | .ok b => b.text.length = out.text.length + n ∧ ∀ c ∈ b.text.toList, c ∈ charset
  | .error .emptyChoice => charset = #[] ∧ 0 < n
  | .error .capacityOverflow => ∃ t : String, t.length ≤ out.text.length + n ∧
      (∀ c ∈ t.toList, c ∈ charset) ∧ out.capacity < t.utf8ByteSize ∧ 2 ^ 62 < t.utf8ByteSize
  | .error .noDepthLeft => False

/-! ## Characters -/

theorem maxCapacity_add_one : Buffer.maxCapacity + 1 = 2 ^ 63 := rfl

theorem ends_choose (xs : Array α) :
    (choose xs).Ends fun
      | .ok a => a ∈ xs
      | .error f => f = .emptyChoice ∧ xs = #[] := by
  unfold choose
  split
  · exact fun i => xs.getElem_mem i.isLt
  · next h => exact ⟨rfl, Array.size_eq_zero_iff.1 (by omega)⟩

theorem ends_appendChars (charset : Array Char) :
    ∀ (n : Nat) (out : Buffer), (∀ c ∈ out.text.toList, c ∈ charset) →
      (appendChars charset n out).Ends (AppendOutcome charset n out)
  | 0, out, hout => ⟨rfl, hout⟩
  | n + 1, out, hout => by
    refine (ends_choose charset).bind (fun c hc => ?_) fun f hf => ?_
    · have hpush : ∀ d ∈ (out.text.push c).toList, d ∈ charset := by
        simpa [or_imp, forall_and] using ⟨hout, hc⟩
      cases hroom : out.push? c with
      | none =>
        obtain ⟨hcapacity, hhalf⟩ := Buffer.push?_eq_none hroom
        have hlength : (out.text.push c).length ≤ out.text.length + (n + 1) := by
          rw [String.length_push]
          omega
        rw [maxCapacity_add_one] at hhalf
        exact ⟨out.text.push c, hlength, hpush, hcapacity, by omega⟩
      | some b =>
        obtain ⟨htext, hcapacity⟩ := Buffer.push?_eq_some hroom
        refine (ends_appendChars charset n b (by rwa [htext])).mono fun r hr => ?_
        have hlength : b.text.length + n = out.text.length + (n + 1) := by
          rw [htext, String.length_push]
          omega
        match r, hr with
        | .ok b', hr => exact ⟨hlength ▸ hr.1, hr.2⟩
        | .error .emptyChoice, hr => exact ⟨hr.1, Nat.succ_pos n⟩
        | .error .capacityOverflow, ⟨t, ht, hchars, hroom, hhalf⟩ =>
          exact ⟨t, hlength ▸ ht, hchars, by omega, hhalf⟩
    · obtain ⟨rfl, hempty⟩ := hf
      exact ⟨hempty, Nat.succ_pos n⟩

/-! ## Texts -/

theorem ends_textOfLength (charset : Array Char) (n : Nat) :
    (textOfLength charset n).Ends (TextOutcome charset n) := by
  unfold textOfLength
  cases hroom : Buffer.empty.reserve? n with
  | none => exact Or.inl (Nat.succ_le_of_lt (Buffer.reserve?_empty_eq_none_iff.1 hroom))
  | some out =>
    have hn : n < 2 ^ 63 := Nat.lt_of_not_le fun h => by
      rw [Buffer.reserve?_empty_eq_none_iff.2 (Nat.lt_of_succ_le h)] at hroom
      cases hroom
    obtain ⟨htext, -, hcapacity⟩ := Buffer.reserve?_eq_some hroom
    have hempty : out.text = "" := htext
    have hlength : out.text.length + n = n := by
      rw [hempty]
      exact Nat.zero_add n
    have hneeded : Buffer.empty.needed n = n := Nat.zero_add n
    refine (ends_appendChars charset n out (by simp [hempty])).bind (fun b hb => ?_) fun f hf => ?_
    · exact ⟨hn, hb.1.trans hlength, hb.2⟩
    · match f, hf with
      | .emptyChoice, hf => exact ⟨hn, hf⟩
      | .capacityOverflow, ⟨t, ht, hchars, hroom, hhalf⟩ =>
        exact Or.inr ⟨t, hlength ▸ ht, hchars, by omega, hhalf⟩

theorem utf8ByteSize_le (t : String) : t.utf8ByteSize ≤ 4 * t.length := by
  induction t using String.push_induction with
  | empty => simp
  | push t c ih =>
    rw [String.utf8ByteSize_push, String.length_push]
    have := c.utf8Size_le_four
    omega

/-- Up to 2 ^ 60 characters there is room. -/
theorem Overflows.lt (h : Overflows charset n) : 2 ^ 60 < n := by
  rcases h with h | ⟨t, ht, -, -, hhalf⟩
  · omega
  · have := utf8ByteSize_le t
    omega

/-- A text that is short enough has a length in its bounds, or the shortest one if there is none in
between, and all its characters are from the charset. -/
theorem ensures_text {lo hi : Nat} (hlo : lo ≤ 2 ^ 60) (hhi : hi ≤ 2 ^ 60) {charset : Array Char}
    (h : charset ≠ #[]) :
    (text lo hi charset).Ensures fun t =>
      (lo ≤ t.length ∧ t.length < max hi (lo + 1)) ∧ ∀ c ∈ t.toList, c ∈ charset := by
  refine (ensures_range lo hi).bind fun n hn => ?_
  refine ((ends_textOfLength charset n).ensures ?_).mono fun t ht => ⟨ht.2.1 ▸ hn, ht.2.2⟩
  intro f hf
  match f, hf with
  | .emptyChoice, hf => exact h hf.2.1
  | .capacityOverflow, hf =>
    have := hf.lt
    omega

end RegexPattern.Random.Draw
