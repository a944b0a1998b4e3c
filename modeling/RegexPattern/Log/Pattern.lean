/-
Patterns that the texts of log messages are searched for. A text is searched for all occurrences at
once: a set of places in it, kept as the bits of a number, is carried through the pattern, each part
taking the places where it starts to those where it ends.
-/
namespace RegexPattern.Log

/-- What may occur in a text. -/
inductive Pattern where
  /-- Occurs everywhere. -/
  | empty
  /-- One character that passes the test. -/
  | char (accepts : Char → Bool)
  /-- No character, at a place where the characters before and after it, if any, pass the test. -/
  | look (holds : Option Char → Option Char → Bool)
  /-- The one right before the other. -/
  | concat (first second : Pattern)
  /-- The one or the other. -/
  | either (first second : Pattern)
  /-- Any number of times in a row. -/
  | star (body : Pattern)

namespace Pattern

/-- `n` times in a row. -/
def times (body : Pattern) : Nat → Pattern
  | 0 => empty
  | n + 1 => concat body (times body n)

/-- Up to `n` times in a row. -/
def upTo (body : Pattern) : Nat → Pattern
  | 0 => empty
  | n + 1 => either empty (concat body (upTo body n))

/-- `least` times in a row or more, not more than `most` times if that is given. -/
def repeated (body : Pattern) (least : Nat) (most : Option Nat) : Pattern :=
  concat (times body least) <|
    match most with
    | some most => upTo body (most - least)
    | none => star body

/-! ## Search -/

/-- The places before those characters that pass the test. -/
def charPlaces (accepts : Char → Bool) : List Char → Nat
  | [] => 0
  | c :: cs => 2 * charPlaces accepts cs + (accepts c).toNat

/-- The places whose neighbours pass the test, in a text that has `before` before it. -/
def lookPlaces (holds : Option Char → Option Char → Bool) (before : Option Char) :
    List Char → Nat
  | [] => (holds before none).toNat
  | c :: cs => 2 * lookPlaces holds (some c) cs + (holds before (some c)).toNat

/-- Takes a set of places `n` times through `f`, or until it stays the same. -/
def settle (f : Nat → Nat) : Nat → Nat → Nat
  | 0, places => places
  | n + 1, places =>
    let next := f places
    if next = places then places else settle f n next

/-- The places where the pattern ends that starts at one of these. Each time that it is repeated
takes it further in the text or changes nothing. -/
def ends (text : List Char) : Pattern → Nat → Nat
  | empty, places => places
  | char accepts, places => (places &&& charPlaces accepts text) <<< 1
  | look holds, places => places &&& lookPlaces holds none text
  | concat first second, places => second.ends text (first.ends text places)
  | either first second, places => first.ends text places ||| second.ends text places
  | star body, places => settle (fun s => s ||| body.ends text s) text.length places

/-- Whether the pattern occurs in the text. -/
def occursIn (p : Pattern) (text : String) : Bool :=
  let cs := text.toList
  p.ends cs (1 <<< (cs.length + 1) - 1) != 0

end Pattern

end RegexPattern.Log
