import RegexPattern.CharClass
import RegexPattern.CharRange
import RegexPattern.CharSet
import RegexPattern.Fuzz.Campaign
import RegexPattern.Fuzz.Check
import RegexPattern.Fuzz.CommandLine
import RegexPattern.Fuzz.Edit
import RegexPattern.Fuzz.Generator
import RegexPattern.Fuzz.Options
import RegexPattern.Fuzz.Violation
import RegexPattern.Literal
import RegexPattern.Log
import RegexPattern.Log.Filter
import RegexPattern.Log.Filter.Notation
import RegexPattern.Log.Pattern
import RegexPattern.Log.Pattern.Notation
import RegexPattern.Main
import RegexPattern.ParseError
import RegexPattern.Parser.Analysis
import RegexPattern.Parser.Event
import RegexPattern.Parser.State
import RegexPattern.Parser.Step
import RegexPattern.Random.Draw
import RegexPattern.Random.Mcg
import RegexPattern.Random.Source
import RegexPattern.Scalar
import RegexPattern.Search
import RegexPattern.SymbolBuilder
import RegexPattern.Text.Buffer
import RegexPattern.Text.Inspect
import RegexPattern.Text.Quoted
import RegexPattern.Tree
import RegexPattern.Unicode.Alphanumeric
import RegexPattern.Unicode.Table
import RegexPattern.Unicode.Unprintable
import RegexPattern.Unicode.WhiteSpace
import RegexPattern.Proofs.CharSet.Canonical
import RegexPattern.Proofs.CharSet.Complement
import RegexPattern.Proofs.CharSet.Guarded
import RegexPattern.Proofs.CharSet.History
import RegexPattern.Proofs.CharSet.Insert
import RegexPattern.Proofs.CharSet.Merge
import RegexPattern.Proofs.Fuzz.Campaign
import RegexPattern.Proofs.Fuzz.Check
import RegexPattern.Proofs.Fuzz.Edit
import RegexPattern.Proofs.Fuzz.WellFormed
import RegexPattern.Proofs.Parser.Bounds
import RegexPattern.Proofs.Parser.Completeness
import RegexPattern.Proofs.Parser.Grammar
import RegexPattern.Proofs.Parser.Modes
import RegexPattern.Proofs.Parser.Moves
import RegexPattern.Proofs.Parser.Prefix
import RegexPattern.Proofs.Parser.RoundTrip
import RegexPattern.Proofs.Parser.Run
import RegexPattern.Proofs.Parser.Soundness
import RegexPattern.Proofs.Random.Ensures
import RegexPattern.Proofs.Log.Pattern
import RegexPattern.Proofs.Random.Mcg
import RegexPattern.Proofs.Random.Text
import RegexPattern.Proofs.CharSet.Fewest
import RegexPattern.Proofs.CharSet.Inversion
import RegexPattern.Proofs.CharSet.Card
import RegexPattern.Proofs.CharClass.Builder
import RegexPattern.Proofs.Parser.WrittenClass
import RegexPattern.Proofs.CharClass.History
import RegexPattern.Proofs.Parser.Errors
import RegexPattern.Proofs.Parser.Signs
import RegexPattern.Proofs.Parser.Composition
import RegexPattern.Proofs.Parser.Ending
import RegexPattern.Proofs.Parser.Progress
import RegexPattern.Proofs.Parser.SymbolCount
import RegexPattern.Proofs.Fuzz.Nesting
import RegexPattern.Proofs.CharSet.Relations
import RegexPattern.Proofs.Fuzz.Lengths
import RegexPattern.Proofs.ParseError.Message
import RegexPattern.Proofs.Text.Quoted
import RegexPattern.Proofs.Parser.Caret
import RegexPattern.Proofs.CharSet.SplitPoints
import RegexPattern.Parser.Descent
import RegexPattern.Proofs.Parser.Descent
