/-
The caret of an error. A message stands on one line, so an error and a pattern on one line are shown
on two (`lines_render`), the caret on the second one as far in as the place of the error. Each cause
tells what stands there (`Cause.named?`), the end of the pattern or a character of it; since causes
describe their pattern, the caret stands below that.
-/
import RegexPattern.Proofs.ParseError.Message
import RegexPattern.Proofs.Parser.Errors

namespace RegexPattern

namespace ParseError

variable {c : Cause} {e : ParseError} {p : String} {mode : Parser.Mode} {cs : List Char} {n : Nat}

/-! ## Two lines -/

theorem not_mem_newline_foundText (found : Option Char) : '\n' ∉ (foundText found).toList := by
  cases found with
  | none => simp [foundText]
  | some c => exact Text.Quoted.not_mem_newline_char c

theorem Cause.not_mem_newline_message (c : Cause) : '\n' ∉ c.message.toList := by
  unfold message
  cases c <;> simp [Text.Quoted.not_mem_newline_char, not_mem_newline_foundText]

/-- The caret has as many blanks before it as the offset says. -/
theorem toList_alignRight_caret (n : Nat) :
    (alignRight (n + 1) "^").toList = List.replicate n ' ' ++ ['^'] := by
  have hlength : n + 1 - "^".length = n := Nat.add_sub_cancel n 1
  rw [alignRight, hlength, String.toList_append, String.toList_ofList]
  rfl

theorem toList_render (e : ParseError) (p : String) : (e.render p).toList =
    p.toList ++ '\n' :: (List.replicate e.offset ' ' ++ '^' :: ' ' :: e.message.toList) := by
  simp [render, toList_alignRight_caret]

theorem lines_render (hp : '\n' ∉ p.toList) : (e.render p).toList.splitOn '\n' =
    [p.toList, List.replicate e.offset ' ' ++ '^' :: ' ' :: e.message.toList] := by
  have hmessage : '\n' ∉ e.message.toList := e.cause.not_mem_newline_message
  have hcaret : '\n' ∉ List.replicate e.offset ' ' ++ '^' :: ' ' :: e.message.toList := by
    simp [hmessage]
  rw [toList_render, List.splitOn_append_cons_self_of_not_mem hp,
    List.splitOn_eq_singleton hcaret]

theorem render?_eq (h : e.offset < 65535) (p : String) : e.render? p = some (e.render p) :=
  if_pos h

/-! ## The named character -/

/-- The character that stands at the place of the error, or none at the end of the pattern. -/
def Cause.named? : Cause → Option Char
  | unexpectedEnd => none
  | unknownCharacter c => some c
  | expectedCharacter _ found => found
  | expectedLiteral found => found
  | invertedRange first _ => some first
  | trailingInput c => some c

theorem Cause.named?_eq_none_iff : c.named? = none ↔
    c = .unexpectedEnd ∨ (∃ expected, c = .expectedCharacter expected none) ∨
      c = .expectedLiteral none := by
  cases c <;> simp [named?]

theorem Cause.Describes.getElem?_eq (h : c.Describes mode cs n) : cs[n]? = c.named? := by
  cases c with
  | unexpectedEnd => exact List.getElem?_eq_none (Nat.le_of_eq h.1.symm)
  | unknownCharacter x => exact h.1
  | expectedCharacter expected found => exact h.2.1.symm
  | expectedLiteral found => exact h.1.symm
  | invertedRange first last => exact h.1
  | trailingInput x => exact h.2.1

end ParseError

namespace Parser

variable {β σ : Type} {b : SymbolBuilder β σ} {mode : Mode} {p : String} {e : ParseError}

theorem getElem?_offset (h : (analyze b mode p).result = .error e) :
    p.toList[e.offset]? = e.cause.named? := by
  obtain ⟨r, hr⟩ := exists_reads b p.toList
  rw [hr.result_eq] at h
  exact (hr.describes h).getElem?_eq

/-- The place of an error is the end of the pattern just if the cause names no character. -/
theorem offset_eq_length_iff (h : (analyze b mode p).result = .error e) :
    e.offset = p.length ↔ e.cause.named? = none := by
  have hle := offset_le_of_result_eq_error h
  rw [← getElem?_offset h, List.getElem?_eq_none_iff, String.length_toList]
  omega

/-- A pattern on one line and an error in it are shown on two lines, if there is room for the caret:
the pattern, and below it as many spaces as the place of the error says, the caret and the message.
The caret stands at most right behind the pattern, and that just if the cause is that the pattern
ends; or else it stands below the character that the cause names. -/
theorem caret_stands_below_named (hp : '\n' ∉ p.toList)
    (h : (analyze b mode p).result = .error e) (hoffset : e.offset < 65535) :
    (∃ text, e.render? p = some text ∧ text.toList.splitOn '\n' =
      [p.toList, List.replicate e.offset ' ' ++ '^' :: ' ' :: e.message.toList]) ∧
    '\n' ∉ e.message.toList ∧
    e.offset ≤ p.length ∧
    (e.offset = p.length ↔
      e.cause = .unexpectedEnd ∨ (∃ expected, e.cause = .expectedCharacter expected none) ∨
        e.cause = .expectedLiteral none) ∧
    (e.offset ≠ p.length → ∃ c, p.toList[e.offset]? = some c ∧ e.cause.named? = some c) := by
  refine ⟨⟨_, ParseError.render?_eq hoffset p, ParseError.lines_render hp⟩,
    e.cause.not_mem_newline_message, offset_le_of_result_eq_error h, ?_, ?_⟩
  · rw [offset_eq_length_iff h, ParseError.Cause.named?_eq_none_iff]
  · intro hne
    rw [ne_eq, offset_eq_length_iff h] at hne
    obtain ⟨c, hc⟩ := Option.ne_none_iff_exists'.1 hne
    exact ⟨c, (getElem?_offset h).trans hc, hc⟩

/-- A quotation mark behind a group with letters of two bytes: it is named in a message with a
backslash and stands in the seventh column. -/
theorem caret_stands_below_named_quote :
    '\n' ∉ "(ε|é)a\x27b".toList ∧
    (analyze SymbolBuilder.recording .strict "(ε|é)a\x27b").result =
      .error ⟨.trailingInput '\x27', 6⟩ ∧
    6 < 65535 ∧
    (∃ text, ParseError.render? ⟨.trailingInput '\x27', 6⟩ "(ε|é)a\x27b" = some text ∧
      text.toList.splitOn '\n' = ["(ε|é)a\x27b".toList, List.replicate 6 ' ' ++ '^' :: ' ' ::
        (ParseError.message ⟨.trailingInput '\x27', 6⟩).toList]) ∧
    ∃ c, "(ε|é)a\x27b".toList[6]? = some c ∧
      (ParseError.Cause.trailingInput '\x27').named? = some c := by
  have hp : '\n' ∉ "(ε|é)a\x27b".toList := by decide +kernel
  have h : (analyze SymbolBuilder.recording .strict "(ε|é)a\x27b").result =
      .error ⟨.trailingInput '\x27', 6⟩ := by decide +kernel
  have hoffset : (6 : Nat) < 65535 := by decide
  obtain ⟨htext, -, -, -, hnamed⟩ := caret_stands_below_named hp h hoffset
  exact ⟨hp, h, hoffset, htext, hnamed (by decide +kernel)⟩

end Parser

end RegexPattern
