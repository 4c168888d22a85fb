import ConstExpr.Main
import ConstExpr.Proofs.Signature.Identity
import ConstExpr.Proofs.Evaluate.Session
import ConstExpr.Proofs.Evaluate.TypeSafety
import ConstExpr.Proofs.Evaluate.ValueTypes
import ConstExpr.Proofs.Evaluate.Residuals
import ConstExpr.Proofs.Instantiate.TypePreservation
import ConstExpr.Proofs.Instantiate.Completion
import ConstExpr.Proofs.Instantiate.Staging
import ConstExpr.Proofs.Instantiate.Resumption
import ConstExpr.Proofs.Instantiate.Members
import ConstExpr.Proofs.Instantiate.Repetition
import ConstExpr.Proofs.Instantiate.Sharing
import ConstExpr.Proofs.Evaluate.Binding
import ConstExpr.Proofs.Unreachable
import ConstExpr.Proofs.Instantiate.Unbound
import ConstExpr.Proofs.Evaluate.Idempotence
import ConstExpr.Proofs.Evaluate.Reports
import ConstExpr.Proofs.Text.Lossless
import ConstExpr.Proofs.PackSizing
import ConstExpr.Proofs.Instantiate.Selection
import ConstExpr.Proofs.Evaluate.Exactness
import ConstExpr.Proofs.Evaluate.Skipping
import ConstExpr.Proofs.Evaluate.Blame
import ConstExpr.Proofs.Resolution
import ConstExpr.Proofs.Instantiate.Constness
import ConstExpr.Proofs.Insertions
import ConstExpr.Proofs.PackOrder
import ConstExpr.Proofs.Truncation
