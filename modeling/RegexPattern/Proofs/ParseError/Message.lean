/-
The texts of errors. What a message begins with tells its kind (`Cause.opening_eq`), and each
character that it names is told from the words behind it. So no message begins another one
(`message_prefixFree`), and the text of an error tells its cause and its place.
-/
import RegexPattern.ParseError
import RegexPattern.Proofs.Text.Quoted

namespace RegexPattern.ParseError

open RegexPattern.Text

variable {c d : Cause} {u v : List Char}

/-- A quoted character begins with a quotation mark, and the end of a pattern without one. -/
theorem foundText_prefixFree : PrefixFree fun found => (foundText found).toList := by
  intro a b u v h
  cases a with
  | none =>
    cases b with
    | none => exact ⟨rfl, List.append_cancel_left h⟩
    | some d => simp [foundText, Quoted.toList_char, Quoted.charMark] at h
  | some c =>
    cases b with
    | none => simp [foundText, Quoted.toList_char, Quoted.charMark] at h
    | some d =>
      obtain ⟨rfl, rfl⟩ := Quoted.char_prefixFree h
      exact ⟨rfl, rfl⟩

/-! ## Openings -/

/-- What the messages of this kind begin with, up to where the kind is told. -/
def Cause.opening : Cause → String
  | unexpectedEnd => "unexpected e"
  | unknownCharacter _ => "unk"
  | expectedCharacter _ _ => "expected \x27"
  | expectedLiteral _ => "expected a"
  | invertedRange _ _ => "inv"
  | trailingInput _ => "unexpected t"

theorem Cause.opening_isPrefix (c : Cause) : c.opening.toList <+: c.message.toList := by
  unfold opening message
  cases c <;> simp [Quoted.toList_char, Quoted.charMark]

/-- No opening begins another one. -/
theorem Cause.opening_eq_of_isPrefix (h : c.opening.toList <+: d.opening.toList) :
    c.opening = d.opening := by
  unfold opening at *
  cases c <;> cases d <;> simp at h ⊢

theorem Cause.opening_eq (h : c.message.toList ++ u = d.message.toList ++ v) :
    c.opening = d.opening := by
  have hc : c.opening.toList <+: c.message.toList ++ u :=
    c.opening_isPrefix.trans (List.prefix_append _ _)
  have hd : d.opening.toList <+: c.message.toList ++ u := by
    rw [h]
    exact d.opening_isPrefix.trans (List.prefix_append _ _)
  rcases List.prefix_or_prefix_of_prefix hc hd with hprefix | hprefix
  · exact opening_eq_of_isPrefix hprefix
  · exact (opening_eq_of_isPrefix hprefix).symm

/-! ## Messages -/

/-- A message tells its cause, whatever goes on behind it. -/
theorem message_prefixFree : PrefixFree fun c : Cause => c.message.toList := by
  intro c d u v h
  have hopening := Cause.opening_eq h
  cases c with
  | unexpectedEnd =>
    cases d with
    | unexpectedEnd => exact ⟨rfl, List.append_cancel_left h⟩
    | _ => simp [Cause.opening] at hopening
  | unknownCharacter x =>
    cases d with
    | unknownCharacter y =>
      unfold Cause.message at h
      simp only [String.toList_append, List.append_assoc] at h
      obtain ⟨rfl, rfl⟩ := Quoted.char_prefixFree.behind h
      exact ⟨rfl, rfl⟩
    | _ => simp [Cause.opening] at hopening
  | expectedCharacter x found =>
    cases d with
    | expectedCharacter y found' =>
      unfold Cause.message at h
      simp only [String.toList_append, List.append_assoc] at h
      obtain ⟨rfl, hrest⟩ := Quoted.char_prefixFree.behind h
      obtain ⟨rfl, rfl⟩ := foundText_prefixFree.behind hrest
      exact ⟨rfl, rfl⟩
    | _ => simp [Cause.opening] at hopening
  | expectedLiteral found =>
    cases d with
    | expectedLiteral found' =>
      unfold Cause.message at h
      simp only [String.toList_append, List.append_assoc] at h
      obtain ⟨rfl, rfl⟩ := foundText_prefixFree.behind h
      exact ⟨rfl, rfl⟩
    | _ => simp [Cause.opening] at hopening
  | invertedRange first last =>
    cases d with
    | invertedRange first' last' =>
      unfold Cause.message at h
      simp only [String.toList_append, List.append_assoc] at h
      obtain ⟨rfl, hrest⟩ := Quoted.char_prefixFree.behind h
      obtain ⟨rfl, hend⟩ := Quoted.char_prefixFree.behind hrest
      exact ⟨rfl, List.append_cancel_left hend⟩
    | _ => simp [Cause.opening] at hopening
  | trailingInput x =>
    cases d with
    | trailingInput y =>
      unfold Cause.message at h
      simp only [String.toList_append, List.append_assoc] at h
      obtain ⟨rfl, rfl⟩ := Quoted.char_prefixFree.behind h
      exact ⟨rfl, rfl⟩
    | _ => simp [Cause.opening] at hopening

/-! ## Texts of errors -/

theorem repr_inj {m n : Nat} (h : Nat.repr m = Nat.repr n) : m = n := by
  rw [Nat.repr_eq_ofList_toDigits, Nat.repr_eq_ofList_toDigits, String.ofList_inj] at h
  exact toDigits_inj (by decide) (by decide) h

/-- The text of an error tells its cause, with the characters it names, and its place. -/
theorem toString_eq_iff (e e' : ParseError) : e.toString = e'.toString ↔ e = e' := by
  constructor
  · intro h
    have htext : e.cause.message.toList ++ (" at offset ".toList ++ (Nat.repr e.offset).toList) =
        e'.cause.message.toList ++ (" at offset ".toList ++ (Nat.repr e'.offset).toList) := by
      simpa [ParseError.toString, ParseError.message] using congrArg String.toList h
    obtain ⟨hcause, hrest⟩ := message_prefixFree htext
    have hoffset := repr_inj (String.toList_inj.1 (List.append_cancel_left hrest))
    obtain ⟨cause, offset⟩ := e
    obtain ⟨cause', offset'⟩ := e'
    obtain rfl : cause = cause' := hcause
    obtain rfl : offset = offset' := hoffset
    rfl
  · rintro rfl
    rfl

end RegexPattern.ParseError
