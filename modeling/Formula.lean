import Formula.Text.Position
import Formula.Text.Lines
import Formula.Text.Escaped
import Formula.Number.FloatText
import Formula.Number.Checked
import Formula.Value.Outline
import Formula.Bindings
import Formula.Draft
import Formula.Grammar.Statement
import Formula.Session
import Formula.CommandLine.Program
import Formula.Main
import Formula.Proofs.Grammar.Derivation
import Formula.Proofs.Grammar.Frontier
import Formula.Proofs.Grammar.Record
import Formula.Proofs.Grammar.Reading
import Formula.Proofs.Grammar.Parts
import Formula.Proofs.Grammar.Alternative
import Formula.Proofs.Grammar.Expressions
import Formula.Proofs.Grammar.Statements
import Formula.Proofs.Grammar.Course
import Formula.Proofs.Grammar.Unambiguous
import Formula.Proofs.Grammar.Exact
import Formula.Proofs.Grammar.Prefixes
import Formula.Proofs.Grammar.Blame
import Formula.Proofs.Token.Boundary
import Formula.Proofs.Session.Joined
import Formula.Proofs.Session.Begun
import Formula.Proofs.Session.Memory
import Formula.Proofs.Session.History
import Formula.Proofs.Number.Shortest
import Formula.Proofs.Number.Positional
import Formula.Proofs.Token.Found
import Formula.Proofs.Token.Literals
import Formula.Proofs.Value.Parts
import Formula.Proofs.Value.Words
import Formula.Proofs.Value.Meaning
import Formula.Proofs.Value.Signs
import Formula.Proofs.Session.Rendering
import Formula.Proofs.Session.Pending
import Formula.Proofs.Token.Spelling
import Formula.Proofs.Token.Lexemes
import Formula.Proofs.Token.Layout
import Formula.Proofs.Grammar.Unplaced
import Formula.Proofs.Expr.Unplaced
import Formula.Proofs.Session.Layout
import Formula.Proofs.Expr.Evaluation
import Formula.Proofs.Expr.Plain
import Formula.Proofs.Expr.Parts
import Formula.Proofs.Expr.Results
import Formula.Proofs.Expr.Faults
import Formula.Proofs.Grammar.Origin
import Formula.Proofs.Token.Fronts
import Formula.Proofs.Token.Scanned
import Formula.Proofs.Token.Faults
import Formula.Proofs.Token.Longest
import Formula.Proofs.Token.Identifiers
import Formula.Proofs.Token.Woven
import Formula.Proofs.Token.Lossless
import Formula.Proofs.Session.Evaluations
import Formula.Proofs.Session.Names
import Formula.Proofs.Session.Faults
import Formula.Proofs.Value.Quotations
import Formula.Proofs.Session.Values
import Formula.Proofs.Session.Nesting
import Formula.Proofs.CommandLine.Agreement
import Formula.Proofs.Expr.Whole
import Formula.Proofs.Expr.Calls
import Formula.Proofs.Grammar.Induction
import Formula.Proofs.Grammar.Greedy
import Formula.Proofs.Grammar.Furthest
import Formula.Proofs.Grammar.Longest
import Formula.Proofs.Grammar.Levels
import Formula.Proofs.Grammar.Extents
import Formula.Proofs.Entries
import Formula.Proofs.Expr.Kinds
import Formula.Proofs.Expr.Substitution
import Formula.Proofs.Expr.Dictionaries
import Formula.Proofs.Session.Independence
import Formula.Proofs.Value.Equality
import Formula.Proofs.Expr.Rearrangement
import Formula.Proofs.Grammar.Procedure
import Formula.Proofs.Grammar.Advance
import Formula.Proofs.Grammar.Runs
import Formula.Proofs.Grammar.Ends
