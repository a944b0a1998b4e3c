/-
The options of a fuzzing campaign and how they are written as arguments. Options and switches are
read from left to right. An option written without an equals sign waits for its value; whether it
got one, and a good one, is settled when the next option or switch is met or the arguments end.
-/
import RegexPattern.Parser.Analysis

namespace RegexPattern.Fuzz

/-! ## Options -/

/-- What a campaign does. Lengths and counts are 64-bit numbers. -/
structure Options where
  /-- The seed of the random numbers; without one the clock gives it. -/
  seed : Option UInt64
  iterations : UInt64
  minLen : UInt64
  maxLen : UInt64
  charset : String
  /-- How deep the groups of well-formed patterns are nested. -/
  maxDepth : UInt64
  /-- In which mode well-formed patterns have to be accepted. -/
  mode : Parser.Mode
  /-- Whether the first violation ends the campaign. -/
  failFast : Bool
deriving DecidableEq

namespace Options

def default : Options where
  seed := none
  iterations := 10000
  minLen := 0
  maxLen := 24
  charset := "ab_09()[]^-*|ε∅$ "
  maxDepth := 4
  mode := .lenient
  failFast := false

/-! ## Arguments -/

/-- An option that takes a value. -/
inductive Setting where
  | seed
  | iterations
  | minLen
  | maxLen
  | charset
  | maxDepth
deriving DecidableEq

/-- An option that takes none. -/
inductive Switch where
  | strict
  | failFast
deriving DecidableEq

/-- Why arguments are not options. -/
inductive ArgumentError where
  /-- The help is asked for. -/
  | help
  /-- There is no such option, and values have no place of their own. -/
  | unknown (argument : String)
  | missingValue (option : String)
  /-- The value of an option is not a number of 64 bits. -/
  | invalidNumber (option value : String)
  | repeated (option : String)
  | unwantedValue (option value : String)
deriving DecidableEq

namespace Setting

def all : List Setting := [seed, iterations, minLen, maxLen, charset, maxDepth]

def name : Setting → String
  | seed => "seed"
  | iterations => "iterations"
  | minLen => "min-len"
  | maxLen => "max-len"
  | charset => "charset"
  | maxDepth => "max-depth"

end Setting

namespace Switch

def all : List Switch := [strict, failFast]

def name : Switch → String
  | strict => "strict"
  | failFast => "fail-fast"

end Switch

/-- A number of 64 bits in decimal digits, with a plus sign before them or not. -/
def word? (s : String) : Option UInt64 :=
  let digits := match s.toList with
    | '+' :: rest => rest
    | cs => cs
  if digits ≠ [] ∧ digits.all Char.isDigit then
    let n := digits.foldl (fun n d => 10 * n + (d.toNat - '0'.toNat)) 0
    if n < UInt64.size then some n.toUInt64 else none
  else none

/-- The options with the value of one of them set. -/
def set (o : Options) (s : Setting) (value : String) : Except ArgumentError Options :=
  let number (put : UInt64 → Options) : Except ArgumentError Options :=
    match word? value with
    | some n => .ok (put n)
    | none => .error (.invalidNumber s.name value)
  match s with
  | .seed => number fun n => { o with seed := some n }
  | .iterations => number fun n => { o with iterations := n }
  | .minLen => number fun n => { o with minLen := n }
  | .maxLen => number fun n => { o with maxLen := n }
  | .charset => .ok { o with charset := value }
  | .maxDepth => number fun n => { o with maxDepth := n }

def turnOn (o : Options) : Switch → Options
  | .strict => { o with mode := .strict }
  | .failFast => { o with failFast := true }

/-- Arguments read so far. -/
structure Reading where
  options : Options
  settings : List Setting
  switches : List Switch
  /-- The option that waits to be settled, with its value if it has one. -/
  pending : Option (Setting × Option String)
  /-- Whether a double dash has ended the options. -/
  ended : Bool

namespace Reading

def initial : Reading := ⟨.default, [], [], none, false⟩

/-- Sets the value of an option, which must not have one. -/
def assign (r : Reading) (s : Setting) (value : String) : Except ArgumentError Reading :=
  if s ∈ r.settings then .error (.repeated s.name)
  else do
    let options ← r.options.set s value
    return { r with options, settings := s :: r.settings }

/-- Settles the option that waits, if one does. -/
def settle (r : Reading) : Except ArgumentError Reading :=
  match r.pending with
  | none => .ok r
  | some (s, none) => .error (.missingValue s.name)
  | some (s, some value) => { r with pending := none }.assign s value

/-- Reads an option with the value that follows an equals sign, or without one. -/
def takeSetting (r : Reading) (s : Setting) (value : Option String) :
    Except ArgumentError Reading := do
  let r ← r.settle
  match value with
  | some v => r.assign s v
  | none => return { r with pending := some (s, none) }

def takeSwitch (r : Reading) (s : Switch) : Except ArgumentError Reading := do
  let r ← r.settle
  if s ∈ r.switches then throw (.repeated s.name)
  return { r with options := r.options.turnOn s, switches := s :: r.switches }

/-- Asks for the help, if all is well before. -/
def takeHelp (r : Reading) : Except ArgumentError Reading := do
  let _ ← r.settle
  throw .help

/-- Reads an argument that starts with two dashes, without these. What is not known is refused
before anything else is settled. -/
def takeLong (r : Reading) (cs : List Char) : Except ArgumentError Reading :=
  let (name, rest) := cs.span (· != '=')
  let name := String.ofList name
  let value := match rest with
    | [] => none
    | _ :: v => some (String.ofList v)
  match Setting.all.find? fun s => s.name = name with
  | some s => r.takeSetting s value
  | none =>
    match Switch.all.find? fun s => s.name = name, value with
    | some s, none => r.takeSwitch s
    | some s, some v => .error (.unwantedValue s.name v)
    | none, none => if name = "help" then r.takeHelp else .error (.unknown name)
    | none, some v => .error (if name = "help" then .unwantedValue name v else .unknown name)

/-- Reads an argument that is no option: the value of the one that waits for it. -/
def takeValue (r : Reading) (argument : String) : Except ArgumentError Reading :=
  match r.pending with
  | some (s, none) => .ok { r with pending := some (s, some argument) }
  | _ => .error (.unknown argument)

def take (r : Reading) (argument : String) : Except ArgumentError Reading :=
  if r.ended then .error (.unknown argument)
  else match argument.toList with
    | ['-', '-'] => .ok { r with ended := true }
    | '-' :: '-' :: cs => r.takeLong cs
    | '-' :: 'h' :: _ => r.takeHelp
    | '-' :: _ :: _ => .error (.unknown argument)
    | _ => r.takeValue argument

end Reading

def ofArguments (arguments : List String) : Except ArgumentError Options := do
  let r ← arguments.foldlM Reading.take .initial
  return (← r.settle).options

/-! ## Refusals -/

/-- Why a campaign with such options cannot be run. -/
inductive Refusal where
  | lengthsInverted (minLen maxLen : UInt64)
  | maxLenTooLarge (maxLen : UInt64)
  | emptyCharset
deriving DecidableEq

def Refusal.message : Refusal → String
  | lengthsInverted minLen maxLen =>
    "--min-len (" ++ Nat.repr minLen.toNat ++ ") is larger than --max-len ("
      ++ Nat.repr maxLen.toNat ++ ")"
  | maxLenTooLarge maxLen => "--max-len (" ++ Nat.repr maxLen.toNat ++ ") is too large"
  | emptyCharset => "--charset can't be empty"

/-- Lengths of texts: from `start` on and below `stop`. -/
structure Lengths where
  start : UInt64
  stop : UInt64
deriving DecidableEq

/-- The lengths from `minLen` to `maxLen`, both included, if the number behind them has 64 bits. -/
def Lengths.ofBounds (minLen maxLen : UInt64) : Except Refusal Lengths :=
  if maxLen < minLen then .error (.lengthsInverted minLen maxLen)
  else if maxLen.toNat + 1 < UInt64.size then .ok ⟨minLen, maxLen + 1⟩
  else .error (.maxLenTooLarge maxLen)

/-- The lengths of random texts, if a campaign can be run. -/
def lengths (o : Options) : Except Refusal Lengths := do
  let lengths ← Lengths.ofBounds o.minLen o.maxLen
  if o.charset.isEmpty then throw .emptyCharset
  return lengths

end Options

end RegexPattern.Fuzz
