import ConstExpr.Diagnostic.Report
import ConstExpr.Evaluate.Basic
import ConstExpr.Instantiate
import ConstExpr.Query.Category
import ConstExpr.Query.Constness

/-!
# Requests and outcomes

A request is an expression together with everything it refers to: the declarations at the point of
instantiation, the template arguments and the limits of the work. Its outcome answers every
question about the instantiated expression; a failed constant evaluation is reported.
-/
namespace ConstExpr

/-- The limits of the work on a request. -/
structure Limits where
  /-- The number of steps of the constant evaluation. -/
  steps : Nat
  /-- The depth down to which the tree is instantiated. -/
  depth : Nat
  deriving DecidableEq, Repr, Inhabited

/-- The limits of a request that sets none. -/
def Limits.default : Limits := ⟨defaultLimit, defaultDepth⟩

/-- An expression to evaluate, with everything it refers to. -/
structure Request where
  /-- The declarations at the point of instantiation. -/
  table : Table
  /-- The template arguments. -/
  arguments : Substitution
  /-- The expression. -/
  expression : Expr
  /-- The span that a failure is reported at. -/
  span : Span
  /-- The limits of the work. -/
  limits : Limits
  deriving Inhabited

/-- The answers about an instantiated expression. -/
structure Outcome where
  /-- Whether its type depends on a template parameter. -/
  isTypeDependent : Bool
  /-- Whether its value depends on a template parameter. -/
  isValueDependent : Bool
  /-- Whether it has the structure of a constant expression. -/
  isConstant : Bool
  /-- Its type. -/
  type : Ty
  /-- Its category. -/
  category : Category
  /-- Its value, unknown where the evaluation failed. -/
  value : Value
  /-- The number of steps that the evaluation performed. -/
  steps : Nat
  /-- Its signature. -/
  signature : Signature
  deriving DecidableEq, Repr, Inhabited

/-- The answers about an expression of the given value, of which the evaluation left the given
budget. -/
def Outcome.describe (scope : Scope) (expr : Expr) (value : Value) (budget : Budget) : Outcome where
  isTypeDependent := expr.isTypeDependent
  isValueDependent := expr.isValueDependent
  isConstant := expr.isConstant scope
  type := expr.typeOf scope
  category := expr.category scope
  value := value
  steps := budget.performed
  signature := ConstExpr.signature expr

namespace Request

/-- The point of instantiation of the request. -/
def scope (request : Request) : Scope := request.table.scope

/-- The expression of the request with the template arguments in place. -/
def instantiated (request : Request) : Expr :=
  request.expression.instantiate ⟨request.arguments, none, request.scope⟩ request.limits.depth none

/-- What the constant evaluation of an instantiated expression answers, and the budget it leaves;
an expression that depends on a template parameter is not evaluated. -/
def evaluation (request : Request) (expr : Expr) : EStateM.Result Failure Budget Value :=
  if expr.isValueDependent then .ok .dependent (Budget.fresh request.limits.steps)
  else (expr.constantValue request.scope).run (Budget.fresh request.limits.steps)

/-- The outcome of the request, and the log after the handler has received the report of a
failure. -/
def evaluate (request : Request) (handler : Handler) (log : DiagnosticLog) :
    Outcome × DiagnosticLog :=
  let expr := request.instantiated
  match request.evaluation expr with
  | .ok value budget => (Outcome.describe request.scope expr value budget, log)
  | .error failure budget =>
    (Outcome.describe request.scope expr .unknown budget,
      handler.receive log (failure.report request.scope request.span))

end Request

end ConstExpr
