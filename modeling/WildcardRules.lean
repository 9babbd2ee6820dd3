import WildcardRules.Main
import WildcardRules.Proofs.Captures
import WildcardRules.Proofs.Filling
import WildcardRules.Proofs.Separator
import WildcardRules.Proofs.Traversal
import WildcardRules.Proofs.Compilation
import WildcardRules.Proofs.Writing
import WildcardRules.Proofs.Wildcard
import WildcardRules.Proofs.RuleSet
import WildcardRules.Proofs.Dispatch
import WildcardRules.Proofs.Escaping
import WildcardRules.Proofs.Concatenation
import WildcardRules.Proofs.Backtracking
import WildcardRules.Proofs.Matches
import WildcardRules.Proofs.Leftmost
import WildcardRules.Proofs.Fields
import WildcardRules.Proofs.BracketStyle
import WildcardRules.Proofs.Validity
import WildcardRules.Proofs.Selection
import WildcardRules.Proofs.Runs
import WildcardRules.Proofs.Reports
import WildcardRules.Proofs.Lines
import WildcardRules.Proofs.Values
import WildcardRules.Proofs.Invocations
import WildcardRules.Proofs.Interchange
import WildcardRules.Proofs.Rebuilding
import WildcardRules.Proofs.Reordering
import WildcardRules.Proofs.Inverses
import WildcardRules.Proofs.OpenEnd
import WildcardRules.Proofs.DeadRules
import WildcardRules.Proofs.Noise
import WildcardRules.Proofs.Reach
import WildcardRules.Proofs.SquareBrackets
import WildcardRules.Proofs.Edits
import WildcardRules.Proofs.FirstValue
import WildcardRules.Proofs.Layout
