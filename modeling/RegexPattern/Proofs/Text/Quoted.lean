/-
Quoted characters can be read back. An escaped character is the character itself, a backslash and
one sign, or its code point between braces (`Escaped`); the first two characters tell which, the
sign or the digits tell the character, and so no escape begins another one (`escape_prefixFree`).
With its quotation marks each character is told from whatever goes on behind it
(`char_prefixFree`), and none of what is written is a line break.
-/
import RegexPattern.Text.Quoted

namespace RegexPattern.Text

variable {α : Type} {c d : Char} {u v w : List Char} {m n : Nat}

/-! ## Texts that go on -/

/-- No value is written as the beginning of another one: from a text that begins with a written
value both the value and the rest can be told. -/
def PrefixFree (write : α → List Char) : Prop :=
  ∀ ⦃a b : α⦄ ⦃u v : List Char⦄, write a ++ u = write b ++ v → a = b ∧ u = v

/-- So it is behind words that are the same. -/
theorem PrefixFree.behind {write : α → List Char} (hwrite : PrefixFree write) {a b : α}
    (h : w ++ (write a ++ u) = w ++ (write b ++ v)) : a = b ∧ u = v :=
  hwrite (List.append_cancel_left h)

/-- Two texts up to the first place of a character are the same if what goes on behind them is. -/
theorem eq_of_append_cons (hu : c ∉ u) (hv : c ∉ v) {x y : List Char}
    (h : u ++ c :: x = v ++ c :: y) : u = v ∧ x = y := by
  have hsplit : u :: x.splitOn c = v :: y.splitOn c := by
    rw [← List.splitOn_append_cons_self_of_not_mem hu, h,
      List.splitOn_append_cons_self_of_not_mem hv]
  obtain ⟨rfl, -⟩ := List.cons.inj hsplit
  exact ⟨rfl, (List.cons.inj (List.append_cancel_left h)).2⟩

/-! ## Digits -/

theorem digitChar_inj (hm : m < 16) (hn : n < 16) (h : m.digitChar = n.digitChar) : m = n := by
  have hall : ∀ i : Fin 16, ∀ j : Fin 16, i.val.digitChar = j.val.digitChar → i = j := by decide
  exact congrArg Fin.val (hall ⟨m, hm⟩ ⟨n, hn⟩ h)

/-- Digits tell their number: the last one and the number before it are those of the other. -/
theorem toDigits_inj {b : Nat} (hb : 1 < b) (hb' : b ≤ 16)
    (h : Nat.toDigits b m = Nat.toDigits b n) : m = n := by
  have hdigit : ∀ k, k % b < 16 := fun k => Nat.lt_of_lt_of_le (Nat.mod_lt k (by omega)) hb'
  induction m using Nat.strongRecOn generalizing n with
  | ind m ih =>
    rw [Nat.toDigits_eq_if hb, Nat.toDigits_eq_if (n := n) hb] at h
    split at h <;> split at h
    · exact digitChar_inj (by omega) (by omega) (List.singleton_inj.1 h)
    · exact absurd (List.append_eq_singleton_iff.1 h.symm) (by simp [Nat.toDigits_ne_nil])
    · exact absurd (List.append_eq_singleton_iff.1 h) (by simp [Nat.toDigits_ne_nil])
    · obtain ⟨hinit, hlast⟩ := List.append_inj' h rfl
      have hdiv : m / b = n / b := ih (m / b) (Nat.div_lt_self (by omega) hb) hinit
      have hmod : m % b = n % b := digitChar_inj (hdigit m) (hdigit n) (List.singleton_inj.1 hlast)
      rw [← Nat.div_add_mod m b, ← Nat.div_add_mod n b, hdiv, hmod]

theorem not_mem_toDigits (hc : ∀ k, Nat.digitChar k ≠ c) : c ∉ Nat.toDigits 16 n := by
  induction n using Nat.strongRecOn with
  | ind n ih =>
    rw [Nat.toDigits_eq_if (by decide)]
    split
    · exact fun h => hc n (List.mem_singleton.1 h).symm
    · intro h
      rcases List.mem_append.1 h with h | h
      · exact ih (n / 16) (by omega) h
      · exact hc _ (List.mem_singleton.1 h).symm

namespace Quoted

/-! ## Escapes -/

/-- The characters that are escaped by a single sign between the marks of a character, each with its
sign. -/
def signs : List (Char × Char) :=
  [('\x00', '0'), ('\t', 't'), ('\n', 'n'), ('\r', 'r'), ('\\', '\\'), (charMark, charMark)]

/-- The ways in which a character is written between the marks of a character. -/
inductive Escaped : Char → List Char → Prop
  | sign {c d : Char} : (c, d) ∈ signs → Escaped c ['\\', d]
  | code {c : Char} : Escaped c ('\\' :: 'u' :: '\x7b' :: (Nat.toDigits 16 c.toNat ++ ['\x7d']))
  | plain {c : Char} : c ∉ signs.map Prod.fst → Escaped c [c]

theorem escaped_escape (c : Char) : Escaped c (escape charMark c) := by
  unfold escape
  split
  · next h => subst h; exact .sign (by decide)
  split
  · next h => subst h; exact .sign (by decide)
  split
  · next h => subst h; exact .sign (by decide)
  split
  · next h => subst h; exact .sign (by decide)
  split
  · next h =>
    rcases h with rfl | rfl
    · exact .sign (by decide)
    · exact .sign (by decide)
  split
  · exact .code
  · next h₀ ht hn hr hmarks _ =>
    rw [not_or] at hmarks
    exact .plain (by simp [signs, h₀, ht, hn, hr, hmarks])

/-- No two characters have the same sign. -/
theorem eq_of_mem_signs {p q : Char × Char} (hp : p ∈ signs) (hq : q ∈ signs) (h : p.2 = q.2) :
    p.1 = q.1 := by
  have hall : ∀ p ∈ signs, ∀ q ∈ signs, p.2 = q.2 → p.1 = q.1 := by decide
  exact hall p hp q hq h

/-- No sign begins a code point or breaks the line. -/
theorem ne_of_mem_signs {p : Char × Char} (hp : p ∈ signs) : p.2 ≠ 'u' ∧ p.2 ≠ '\n' := by
  have hall : ∀ p ∈ signs, p.2 ≠ 'u' ∧ p.2 ≠ '\n' := by decide
  exact hall p hp

theorem Escaped.eq_of_append {x y : List Char} (hc : Escaped c x) (hd : Escaped d y)
    (h : x ++ u = y ++ v) : c = d ∧ u = v := by
  have hbackslash : '\\' ∈ signs.map Prod.fst := by decide
  cases hc with
  | @sign i hi =>
    cases hd with
    | @sign j hj =>
      obtain ⟨rfl, rfl⟩ : i = j ∧ u = v := by simpa using h
      exact ⟨eq_of_mem_signs hi hj rfl, rfl⟩
    | code =>
      obtain ⟨rfl, -⟩ : i = 'u' ∧ u = _ := by simpa using h
      exact absurd rfl (ne_of_mem_signs hi).1
    | plain hplain =>
      obtain ⟨rfl, -⟩ : '\\' = d ∧ i :: u = v := by simpa using h
      exact absurd hbackslash hplain
  | code =>
    cases hd with
    | @sign j hj =>
      obtain ⟨rfl, -⟩ : 'u' = j ∧ _ = v := by simpa using h
      exact absurd rfl (ne_of_mem_signs hj).1
    | code =>
      -- The digits end at the first closing brace.
      have hbrace : ∀ n, '\x7d' ∉ Nat.toDigits 16 n := fun n =>
        not_mem_toDigits fun k => Nat.digitChar_ne _ (by decide)
      have hdigits : Nat.toDigits 16 c.toNat ++ '\x7d' :: u =
          Nat.toDigits 16 d.toNat ++ '\x7d' :: v := by simpa using h
      obtain ⟨hcode, rfl⟩ := eq_of_append_cons (hbrace _) (hbrace _) hdigits
      exact ⟨Char.toNat_inj.1 (toDigits_inj (by decide) (by decide) hcode), rfl⟩
    | plain hplain =>
      obtain ⟨rfl, -⟩ : '\\' = d ∧ _ = v := by simpa using h
      exact absurd hbackslash hplain
  | plain hplain =>
    cases hd with
    | plain => exact List.cons.inj h
    | _ =>
      obtain ⟨rfl, -⟩ : c = '\\' ∧ u = _ := by simpa using h
      exact absurd hbackslash hplain

theorem escape_prefixFree : PrefixFree (escape charMark) := fun c d _ _ h =>
  (escaped_escape c).eq_of_append (escaped_escape d) h

theorem Escaped.not_mem_newline (h : Escaped c w) : '\n' ∉ w := by
  cases h with
  | @sign d hd => simpa using (ne_of_mem_signs hd).2.symm
  | code =>
    have hdigits : '\n' ∉ Nat.toDigits 16 c.toNat :=
      not_mem_toDigits fun k => Nat.digitChar_ne _ (by decide)
    simpa using hdigits
  | plain hplain =>
    intro hmem
    obtain rfl := List.mem_singleton.1 hmem
    exact hplain (by decide)

/-! ## Quoted characters -/

theorem toList_char (c : Char) :
    (char c).toList = charMark :: (escape charMark c ++ [charMark]) := by
  simp [char]

/-- A quoted character is told from whatever goes on behind it. -/
theorem char_prefixFree : PrefixFree fun c => (char c).toList := by
  intro c d u v h
  have h : escape charMark c ++ charMark :: u = escape charMark d ++ charMark :: v := by
    simpa [toList_char] using h
  obtain ⟨rfl, hrest⟩ := escape_prefixFree h
  exact ⟨rfl, (List.cons.inj hrest).2⟩

/-- A quoted character stands on one line. -/
theorem not_mem_newline_char (c : Char) : '\n' ∉ (char c).toList := by
  have hescape := (escaped_escape c).not_mem_newline
  have hmark : '\n' ≠ charMark := by decide
  rw [toList_char]
  simp [hescape, hmark]

end Quoted

end RegexPattern.Text
