import BracketScript.Main
import BracketScript.Proofs.Except
import BracketScript.Proofs.Script
import BracketScript.Proofs.Refusal
import BracketScript.Proofs.Regime
import BracketScript.Proofs.Limit
import BracketScript.Proofs.Growth
import BracketScript.Proofs.Sequence
import BracketScript.Proofs.TargetPath
import BracketScript.Proofs.Spans
import BracketScript.Proofs.Line
import BracketScript.Proofs.Control
import BracketScript.Proofs.Target
import BracketScript.Proofs.CodeLines
import BracketScript.Proofs.FileReport
import BracketScript.Proofs.DirectoryReport
import BracketScript.Proofs.DiskStore
import BracketScript.Proofs.Suite
import BracketScript.Proofs.FailureChains
import BracketScript.Proofs.Steps
import BracketScript.Proofs.Bookkeeping
import BracketScript.Proofs.WellFormedReports
import BracketScript.Proofs.VariableKinds
import BracketScript.Proofs.Names
import BracketScript.Proofs.Calls
import BracketScript.Proofs.CallSyntax
import BracketScript.Proofs.Paths
import BracketScript.Proofs.Reentry
import BracketScript.Proofs.Grammar
import BracketScript.Proofs.Literals
import BracketScript.Proofs.Coupling
import BracketScript.Proofs.Reading
import BracketScript.Proofs.CallPaths
import BracketScript.Proofs.Framing
import BracketScript.Proofs.RenderedValues
import BracketScript.Proofs.StrayBrackets
import BracketScript.Proofs.TaskPool
import BracketScript.Proofs.ParallelPost
import BracketScript.Proofs.Confinement
import BracketScript.Proofs.IntegerTexts
import BracketScript.Proofs.Counting
import BracketScript.Proofs.Encoding
import BracketScript.Proofs.CompactTexts
import BracketScript.Proofs.EscapedQuotes
import BracketScript.Proofs.PostedObjects
import BracketScript.Proofs.Numerals
import BracketScript.Proofs.Identifiers
import BracketScript.Proofs.Assignments
import BracketScript.Proofs.DelimitedLists
import BracketScript.Proofs.ListedRequests
import BracketScript.Proofs.Failures
import BracketScript.Proofs.Cascades
import BracketScript.Proofs.Arithmetic
import BracketScript.Proofs.Comparison
import BracketScript.Proofs.Spellings
import BracketScript.Proofs.Heads
import BracketScript.Proofs.ArgumentPieces
import BracketScript.Proofs.Cuts
import BracketScript.Proofs.TokenTexts
import BracketScript.Proofs.ListAssertions
import BracketScript.Proofs.Placeholders
