/-
The filter of a log: which messages are kept. Of the messages that come in turn the log holds the
lines of those that are kept, in their order.
-/
import RegexPattern.Log

namespace RegexPattern.Log

/-- The least severe level that is kept of each target, if any is, and a test on the texts. -/
structure Filter where
  limit : Target → Option Level
  keepsText : String → Bool

namespace Filter

variable {μ : Type} [Message μ]

/-- Keeps all messages. -/
def all : Filter := ⟨fun _ => some .trace, fun _ => true⟩

/-- Whether messages of this level and target are kept, if their texts are. -/
def keeps (f : Filter) (l : Level) (t : Target) : Bool :=
  match f.limit t with
  | some limit => l.rank ≤ limit.rank
  | none => false

/-- The line of the message, if it is kept. -/
def line? (f : Filter) (m : μ) : Option Line :=
  if f.keeps (Message.level m) (Message.target m) then
    let line := Line.ofMessage m
    if f.keepsText line.text then some line else none
  else none

/-- Adds the lines of those messages that are kept to the log. -/
def collect (f : Filter) (log : Array Line) (ms : List μ) : Array Line :=
  log ++ (ms.filterMap f.line?).toArray

/-- The filter that keeps all messages makes a line of each. -/
theorem collect_all (log : Array Line) (ms : List μ) :
    all.collect log ms = log ++ (ms.map Line.ofMessage).toArray := by
  have hline : (all.line? : μ → Option Line) = some ∘ Line.ofMessage := by
    funext m
    have hkeeps : all.keeps (Message.level m) (Message.target m) = true := by
      cases hlevel : Message.level m <;> rfl
    unfold line?
    rw [if_pos hkeeps]
    rfl
  rw [collect, hline, List.filterMap_eq_map]

end Filter

end RegexPattern.Log
