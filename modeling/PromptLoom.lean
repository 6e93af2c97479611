import PromptLoom.Library.Change
import PromptLoom.Main
import PromptLoom.Proofs.Text.Opening
import PromptLoom.Proofs.Wildcard.Splice
import PromptLoom.Proofs.Expansion.Budget
import PromptLoom.Proofs.Text.Upper
import PromptLoom.Proofs.Expansion.Draft
import PromptLoom.Proofs.Pool.Selection
import PromptLoom.Proofs.Expansion.Termination
import PromptLoom.Proofs.Wildcard.Brackets
import PromptLoom.Proofs.Expansion.SinglePass
import PromptLoom.Proofs.Lint.Report
import PromptLoom.Proofs.Lint.Reachability
import PromptLoom.Proofs.Lint.Silence
import PromptLoom.Proofs.Expansion.Steering
import PromptLoom.Proofs.Lint.Exactness
import PromptLoom.Proofs.Expansion.Spent
import PromptLoom.Proofs.Lint.Depth
import PromptLoom.Proofs.Lint.Cycles
import PromptLoom.Proofs.Lint.ForcedRepeats
import PromptLoom.Proofs.Lint.Unterminated
import PromptLoom.Proofs.Wildcard.Count
import PromptLoom.Proofs.Expansion.Locality
import PromptLoom.Proofs.Library.Writes
import PromptLoom.Proofs.Library.Change
import PromptLoom.Proofs.Decimal.Natural
import PromptLoom.Proofs.Ron.Quoted
import PromptLoom.Proofs.Ron.RoundTrip
import PromptLoom.Proofs.Command.TemplateLinter
import PromptLoom.Proofs.Engine
import PromptLoom.Proofs.Pool.Outcomes
import PromptLoom.Proofs.Text.Braces
import PromptLoom.Proofs.Expansion.PassBound
import PromptLoom.Proofs.Command.Preview
import PromptLoom.Proofs.Command.VisitOrder
import PromptLoom.Proofs.Text.Blank
import PromptLoom.Proofs.Decimal.Word
import PromptLoom.Proofs.Expansion.Failure
import PromptLoom.Proofs.Wildcard.Tiling
import PromptLoom.Proofs.Wildcard.Grammar
import PromptLoom.Proofs.Expansion.Placeholder
import PromptLoom.Proofs.Command.Bulk
import PromptLoom.Proofs.Ron.Lexeme
import PromptLoom.Proofs.Ron.Record
import PromptLoom.Proofs.Text.Sentence
