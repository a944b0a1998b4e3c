/-
The notation of filters: directives with commas between them, each `level`, `path=level`, or `path`
alone for all levels. A directive applies to the targets whose path starts with its own; of those
that apply the longest decides, and with no directive at all only errors are kept. After a slash
there may be a pattern that has to occur in the text of a message.
-/
import RegexPattern.Log.Filter
import RegexPattern.Log.Pattern.Notation

namespace RegexPattern.Log

namespace Filter

/-! ## Directives -/

/-- The paths that a directive applies to, all if it has none of its own, and the least severe level
it keeps, if any. -/
structure Directive where
  path : Option (List Char)
  limit : Option Level
deriving DecidableEq

namespace Directive

/-- Puts `d` in the place of the directive with the same path, or at the end. -/
def insert (ds : List Directive) (d : Directive) : List Directive :=
  if ds.any fun e => e.path = d.path then ds.map fun e => if e.path = d.path then d else e
  else ds ++ [d]

def applies (t : Target) (d : Directive) : Bool :=
  d.path.all fun path => path.isPrefixOf t.path.toList

def length (d : Directive) : Nat := (d.path.getD []).length

/-- The directive that decides on a target, if one applies: of the longest the last. -/
def decisive? (ds : List Directive) (t : Target) : Option Directive :=
  (ds.mergeSort fun d e => d.length ≤ e.length).reverse.find? (applies t)

/-- No directive that applies is longer than the one that decides. -/
theorem length_le_of_decisive? {ds : List Directive} {t : Target} {d e : Directive}
    (h : decisive? ds t = some d) (he : e ∈ ds) (happlies : applies t e = true) :
    e.length ≤ d.length := by
  obtain ⟨-, before, behind, hsplit, hbefore⟩ := List.find?_eq_some_iff_append.1 h
  have hsorted : (before ++ d :: behind).Pairwise fun a b => b.length ≤ a.length := by
    rw [← hsplit, List.pairwise_reverse]
    refine (List.pairwise_mergeSort ?_ ?_ ds).imp fun h => by simpa using h
    · intro a b c hab hbc
      simp only [decide_eq_true_eq] at hab hbc ⊢
      omega
    · intro a b
      simp only [Bool.or_eq_true, decide_eq_true_eq]
      omega
  have hmem : e ∈ before ++ d :: behind := by
    rw [← hsplit, List.mem_reverse, List.mem_mergeSort]
    exact he
  rw [List.mem_append, List.mem_cons] at hmem
  rcases hmem with hmem | rfl | hmem
  · have hnot := hbefore e hmem
    rw [happlies] at hnot
    cases hnot
  · exact Nat.le_refl _
  · exact List.rel_of_pairwise_cons (List.pairwise_append.1 hsorted).2.1 hmem

end Directive

/-- The filter that directives make with a test on the texts. -/
def ofDirectives (ds : List Directive) (keepsText : String → Bool) : Filter where
  limit t :=
    let ds := if ds = [] then [⟨none, some .error⟩] else ds
    (Directive.decisive? ds t).bind Directive.limit
  keepsText

/-! ## Reading -/

/-- What in the notation of a filter is left out because it is not well-formed. -/
inductive Warning where
  | directive (text : String)
  | slashes (text : String)
  | pattern (text : String) (e : Pattern.Error)
deriving DecidableEq

def Warning.lines : Warning → List String
  | directive text => ("warning: invalid logging spec '" ++ text ++ "', ignoring it").splitOn "\n"
  | slashes text =>
    ("warning: invalid logging spec '" ++ text ++ "', ignoring it (too many '/'s)").splitOn "\n"
  | pattern text e =>
    match e.report text with
    | [] => []
    | first :: rest => ("warning: invalid regex filter - " ++ first) :: rest

def trimmed (cs : List Char) : List Char :=
  ((cs.dropWhile Unicode.isWhiteSpace).reverse.dropWhile Unicode.isWhiteSpace).reverse

/-- The limit of that name, in letters of either case; `off` keeps nothing. -/
def limit? (name : List Char) : Option (Option Level) :=
  let name := String.ofList (name.map Char.toUpper)
  if name = "OFF" then some none
  else (Level.all.find? fun l => l.name = name).map some

/-- The parts of a text between the characters `mark`. -/
def split (mark : Char) : List Char → List (List Char)
  | [] => [[]]
  | c :: cs =>
    if c = mark then [] :: split mark cs
    else
      match split mark cs with
      | [] => [[c]]
      | part :: parts => (c :: part) :: parts

def directive (cs : List Char) : Except Warning Directive :=
  match split '=' cs with
  | [path] =>
    match limit? path with
    | some limit => .ok ⟨none, limit⟩
    | none => .ok ⟨some path, some .trace⟩
  | [path, level] =>
    let level := trimmed level
    if level = [] then .ok ⟨some path, some .trace⟩
    else
      match limit? level with
      | some limit => .ok ⟨some path, limit⟩
      | none => .error (.directive (String.ofList level))
  | _ => .error (.directive (String.ofList cs))

/-- Reads one directive after others and the warnings about them. -/
def readDirective (read : List Directive × List Warning) (cs : List Char) :
    List Directive × List Warning :=
  match directive cs with
  | .ok d => (Directive.insert read.1 d, read.2)
  | .error w => (read.1, read.2 ++ [w])

def directives (cs : List Char) : List Directive × List Warning :=
  (((split ',' cs).map trimmed).filter (· ≠ [])).foldl readDirective ([], [])

/-- Reads a filter. What is not well-formed is left out, with a warning. -/
def ofString (s : String) : Filter × List Warning :=
  match split '/' s.toList with
  | [ds] =>
    let (ds, warnings) := directives ds
    (ofDirectives ds fun _ => true, warnings)
  | [ds, pattern] =>
    let (ds, warnings) := directives ds
    let pattern := String.ofList pattern
    match Pattern.ofString pattern with
    | .ok p => (ofDirectives ds p.occursIn, warnings)
    | .error e => (ofDirectives ds fun _ => true, warnings ++ [.pattern pattern e])
  | _ => (ofDirectives [] fun _ => true, [.slashes s])

end Filter

end RegexPattern.Log
