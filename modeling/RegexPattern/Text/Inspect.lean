/-
The one-line notation in which values are shown for inspection: records with named fields, tuples
with positional ones, lists in square brackets, quoted characters and texts.
-/
import RegexPattern.Text.Quoted

namespace RegexPattern

/-- Values with a one-line notation for inspection. -/
class Inspect (α : Type) where
  inspect : α → String

export Inspect (inspect)

namespace Inspect

/-- Parts in order, with commas between them. -/
def joined (parts : List String) : String := ", ".intercalate parts

/-- A record: its name, then its fields by name, in braces. -/
def record (name : String) (fields : List (String × String)) : String :=
  name ++ " \x7b " ++ joined (fields.map fun f => f.1 ++ ": " ++ f.2) ++ " \x7d"

/-- A tuple: its name, then its parts, in parentheses. -/
def tuple (name : String) (parts : List String) : String :=
  name ++ "(" ++ joined parts ++ ")"

/-- A list: its elements in square brackets. -/
def list (parts : List String) : String := "[" ++ joined parts ++ "]"

end Inspect

instance : Inspect Char := ⟨Text.Quoted.char⟩

instance : Inspect String := ⟨Text.Quoted.text⟩

instance : Inspect Nat := ⟨Nat.repr⟩

instance {α : Type} [Inspect α] : Inspect (List α) := ⟨fun xs => Inspect.list (xs.map inspect)⟩

instance {α : Type} [Inspect α] : Inspect (Array α) := ⟨fun xs => inspect xs.toList⟩

instance {α : Type} [Inspect α] : Inspect (Option α) where
  inspect
    | none => "None"
    | some a => Inspect.tuple "Some" [inspect a]

end RegexPattern
