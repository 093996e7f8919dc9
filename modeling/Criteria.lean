import Criteria.Main
import Criteria.Queue
import Criteria.Queue.Stock
import Criteria.Proofs.Evaluation.Meaning
import Criteria.Proofs.Queue.Activation
import Criteria.Proofs.Steps.Refinement
import Criteria.Proofs.Steps.Shelving
import Criteria.Proofs.Queue.Conservation
import Criteria.Proofs.Reading.Composition
import Criteria.Proofs.Reading.RoundTrip
import Criteria.Proofs.Reading.Concatenation
import Criteria.Proofs.Evaluation.Asking
import Criteria.Proofs.Reading.WellFormed
import Criteria.Proofs.Reading.Leading
import Criteria.Proofs.Evaluation.Callees
import Criteria.Proofs.Queue.Readiness
import Criteria.Proofs.Queue.Selection
import Criteria.Proofs.Token.Parts
import Criteria.Proofs.Evaluation.Isolation
import Criteria.Proofs.Registry.Naming
import Criteria.Proofs.Reading.Rejection
import Criteria.Proofs.Comparison.OwnText
import Criteria.Proofs.Reading.Quoting
import Criteria.Proofs.Evaluation.Comparing
import Criteria.Proofs.Comparison.Numbers
import Criteria.Proofs.Reading.Respelling
import Criteria.Proofs.Reading.Order
import Criteria.Proofs.Evaluation.Bridging
import Criteria.Proofs.Queue.Identity
import Criteria.Proofs.Evaluation.Stability
import Criteria.Proofs.Facts.Members
import Criteria.Proofs.Registry.Index
import Criteria.Proofs.Steps.Restoring
import Criteria.Proofs.Comparison.Coherence
import Criteria.Proofs.Comparison.Preorder
import Criteria.Proofs.Registry.Containment
import Criteria.Proofs.Record.Uniqueness
import Criteria.Proofs.Evaluation.Negation
import Criteria.Proofs.Facts.Removal
import Criteria.Proofs.Value.Views
import Criteria.Proofs.Outline.Lines
