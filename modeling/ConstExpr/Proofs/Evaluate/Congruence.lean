import ConstExpr.Evaluate.Basic

/-!
# Congruences of evaluations

The evaluation of a node uses the evaluation of other trees only by running it, one after the
other, and by blaming a refused step on a call. A relation between evaluations that sequences and
blamed calls keep is therefore kept by the evaluation of a node (`evaluateNode_related`), whatever
the relation says about budgets. Failures that a node raises itself are never refused steps.
-/
namespace ConstExpr

/-- The failure is a refused step. -/
def Failure.isStepLimit : Failure → Bool
  | stepLimitExceeded .. => true
  | _ => false

/-- A relation between evaluations that is kept when they are put together in the same way. -/
structure Evaluation.Congruence
    (related : {α : Type} → Evaluation α → Evaluation α → Prop) : Prop where
  /-- An answer is related to itself. -/
  pure : ∀ {α : Type} (answer : α), related (pure answer) (pure answer)
  /-- A failure other than a refused step is related to itself. -/
  throw : ∀ {α : Type} (failure : Failure), failure.isStepLimit = false →
    related (throw failure : Evaluation α) (throw failure)
  /-- Related evaluations followed by related ones are related. -/
  bind : ∀ {α β : Type} {first first' : Evaluation α} {next next' : α → Evaluation β},
    related first first' → (∀ answer, related (next answer) (next' answer)) →
      related (first >>= next) (first' >>= next')
  /-- Related bodies of a call are related with the call. -/
  withinCall : ∀ {α : Type} {body body' : Evaluation α} (function : FunctionId),
    related body body' →
      related (Evaluation.withinCall function body) (Evaluation.withinCall function body')

/-- An operator fails on a division by zero or on a shift amount out of range, and an assignment
does on the modification. -/
theorem BinaryOperator.compute_error {operator : BinaryOperator}
    {leftType rightType : Fundamental} {left right : Int} {failure : Failure}
    (failed : operator.compute leftType rightType left right = .error failure) :
    failure = .divisionByZero ∨ failure = .invalidShift ∨
      operator.isAssignment = true ∧ failure = .modification := by
  cases operator with
  | arithmetic operator =>
    simp only [compute] at failed
    cases operator with
    | divide | modulo =>
      simp only [ArithmeticOperator.compute] at failed
      split at failed
      · exact .inl (Except.error.inj failed).symm
      · contradiction
    | shiftLeft | shiftRight =>
      simp only [ArithmeticOperator.compute, shiftAmount] at failed
      split at failed
      · exact nomatch failed
      · exact .inr (.inl (Except.error.inj failed).symm)
    | _ => exact nomatch failed
  | assign | compoundAssign operator => exact .inr (.inr ⟨rfl, (Except.error.inj failed).symm⟩)
  | _ => exact nomatch failed

/-- Arithmetic fails for other reasons than a refused step. -/
theorem BinaryOperator.compute_failure {operator : BinaryOperator}
    {leftType rightType : Fundamental} {left right : Int} {failure : Failure}
    (failed : operator.compute leftType rightType left right = .error failure) :
    failure.isStepLimit = false := by
  obtain rfl | rfl | ⟨-, rfl⟩ := compute_error failed <;> rfl

/-- A call is refused for other reasons than a refused step. -/
theorem callee?_failure {scope : Scope} {set : OverloadSet} {arity : Nat} {failure : Failure}
    (failed : callee? scope set arity = .error failure) : failure.isStepLimit = false := by
  unfold callee? at failed
  split at failed
  · obtain rfl := Except.error.inj failed
    rfl
  · split at failed
    · obtain rfl := Except.error.inj failed
      rfl
    · split at failed
      · split at failed
        · exact nomatch failed
        · obtain rfl := Except.error.inj failed
          rfl
      · obtain rfl := Except.error.inj failed
        rfl

/-- A call that is not refused enters the body of the function that it resolves to. -/
theorem callee?_ok {scope : Scope} {set : OverloadSet} {arity : Nat} {id : FunctionId}
    {decl : FunctionDecl} {body : Expr} (entered : callee? scope set arity = .ok (id, decl, body)) :
    scope.resolve set arity = some id ∧ scope.functionDecl? id = some decl ∧
      decl.body = some body := by
  unfold callee? at entered
  split at entered
  · cases entered
  · next found resolved =>
    split at entered
    · cases entered
    · next declared =>
      split at entered
      · split at entered
        · next defined =>
          cases entered
          exact ⟨resolved, declared, defined⟩
        · cases entered
      · cases entered

/-- The value of an expression outside of any function, by evaluating trees with `recur`. -/
def valueWith (recur : List Expr → Expr → Evaluation Expr) (expr : Expr) : Evaluation Value := do
  if expr.isValueDependent then throw .dependentOperand
  let result ← recur [] expr
  return result.fixedValue?.getD .unknown

section Related

open Evaluation

variable {related : {α : Type} → Evaluation α → Evaluation α → Prop}
  (closed : Congruence related) (scope : Scope)
  {recur recur' : List Expr → Expr → Evaluation Expr}
  (children : ∀ parameters expr, related (recur parameters expr) (recur' parameters expr))
  (parameters : List Expr)

include closed children

/-- The evaluations of a list of trees, in order, are related. -/
theorem mapM_related (exprs : List Expr) :
    related (exprs.mapM (recur parameters)) (exprs.mapM (recur' parameters)) := by
  induction exprs with
  | nil =>
    simp only [List.mapM_nil]
    exact closed.pure []
  | cons expr exprs ih =>
    simp only [List.mapM_cons]
    exact closed.bind (children parameters expr) fun _ =>
      closed.bind ih fun _ => closed.pure _

omit children in
/-- Evaluations that start with the same refusal are related. -/
theorem refusal_related {α : Type} (refused : Bool) (failure : Failure)
    (raised : failure.isStepLimit = false) {next next' : Unit → Evaluation α}
    (rest : related (next ()) (next' ())) :
    related (if refused then throw failure >>= next else next ())
      (if refused then throw failure >>= next' else next' ()) := by
  split
  · exact closed.bind (closed.throw failure raised) fun _ => rest
  · exact rest

/-- Evaluations of an operator with one operand are related. -/
theorem evaluateUnary_related (expr : Expr) (operator : UnaryOperator) (operand : Expr) :
    related (evaluateUnary scope recur parameters expr operator operand)
      (evaluateUnary scope recur' parameters expr operator operand) := by
  unfold evaluateUnary
  dsimp only
  refine refusal_related closed operator.isMutation .modification rfl ?_
  refine closed.bind (children parameters operand) fun operand => ?_
  split <;> exact closed.pure _

omit children in
/-- Folding an operator on two evaluated operands is related to itself. -/
theorem foldBinary_related (expr : Expr) (operator : BinaryOperator) (left right : Expr) :
    related (foldBinary scope expr operator left right)
      (foldBinary scope expr operator left right) := by
  unfold foldBinary
  dsimp only
  split
  · split
    · exact closed.pure _
    · next failure failed => exact closed.throw failure (BinaryOperator.compute_failure failed)
  · exact closed.pure _

/-- Evaluations of an operator with two operands are related. -/
theorem evaluateBinary_related (expr : Expr) (operator : BinaryOperator) (left right : Expr) :
    related (evaluateBinary scope recur parameters expr operator left right)
      (evaluateBinary scope recur' parameters expr operator left right) := by
  unfold evaluateBinary
  dsimp only
  refine refusal_related closed operator.isAssignment .modification rfl ?_
  refine closed.bind (children parameters left) fun left => ?_
  have undecided : related
      (recur parameters right >>= foldBinary scope expr operator left)
      (recur' parameters right >>= foldBinary scope expr operator left) :=
    closed.bind (children parameters right) fun right =>
      foldBinary_related closed scope expr operator left right
  split
  · split
    · exact closed.pure _
    · exact undecided
  · exact undecided

/-- Evaluations of a choice are related. -/
theorem evaluateConditional_related (expr condition positive negative : Expr) :
    related (evaluateConditional scope recur parameters expr condition positive negative)
      (evaluateConditional scope recur' parameters expr condition positive negative) := by
  refine closed.bind (children parameters condition) fun condition => ?_
  split
  · exact closed.bind (children parameters _) fun _ => closed.pure _
  · exact closed.bind (children parameters positive) fun _ =>
      closed.bind (children parameters negative) fun _ => closed.pure _

/-- Evaluations of a call are related. -/
theorem evaluateCall_related (expr callee : Expr) (arguments : List Expr) :
    related (evaluateCall scope recur parameters expr callee arguments)
      (evaluateCall scope recur' parameters expr callee arguments) := by
  refine closed.bind (children parameters callee) fun callee =>
    closed.bind (mapM_related closed children parameters arguments) fun arguments => ?_
  dsimp only
  split
  · exact closed.pure _
  · split
    · exact closed.pure _
    · split
      · next failure failed => exact closed.throw failure (callee?_failure failed)
      · next id _ _ _ =>
        refine closed.bind (closed.withinCall id (children _ _)) fun result => ?_
        split <;> exact closed.pure _

/-- Evaluations of a braced list are related. -/
theorem evaluateBraced_related (expr : Expr) (clauses : List Expr) :
    related (evaluateBraced recur parameters expr clauses)
      (evaluateBraced recur' parameters expr clauses) := by
  refine closed.bind (mapM_related closed children parameters clauses) fun clauses => ?_
  split <;> exact closed.pure _

/-- Evaluations of a cast or a value initialization are related. -/
theorem evaluateConstruct_related (expr : Expr) (type : Ty) (arguments : List Expr) :
    related (evaluateConstruct scope recur parameters expr type arguments)
      (evaluateConstruct scope recur' parameters expr type arguments) := by
  refine closed.bind (mapM_related closed children parameters arguments) fun arguments => ?_
  dsimp only
  split
  · exact closed.pure _
  · split
    · exact closed.pure _
    · split <;> exact closed.pure _
    · exact closed.pure _

/-- Evaluations of a list of operands are related. -/
theorem evaluateComma_related (expr : Expr) (operands : List Expr) :
    related (evaluateComma recur parameters expr operands)
      (evaluateComma recur' parameters expr operands) := by
  refine closed.bind (mapM_related closed children parameters operands) fun operands => ?_
  split
  · split <;> exact closed.pure _
  · exact closed.pure _

/-- Evaluations of a variable are related. -/
theorem evaluateVariable_related (expr : Expr) (id : VariableId) (type : Ty) :
    related (evaluateVariable scope recur expr id type)
      (evaluateVariable scope recur' expr id type) := by
  unfold evaluateVariable
  split
  · exact closed.bind (children [] _) fun _ => closed.pure _
  · exact closed.pure _

/-- Evaluations of a node are related when those of all other trees are. -/
theorem evaluateNode_related (expr : Expr) :
    related (evaluateNode scope recur parameters expr)
      (evaluateNode scope recur' parameters expr) := by
  unfold evaluateNode
  cases expr.form with
  | fixed | templateRef | parameterRef | typeTrait | overloads | expansion =>
    exact closed.pure _
  | variableRef id type => exact evaluateVariable_related closed scope children expr id type
  | unary operator operand =>
    exact evaluateUnary_related closed scope children parameters expr operator operand
  | binary operator left right =>
    exact evaluateBinary_related closed scope children parameters expr operator left right
  | conditional condition positive negative =>
    exact evaluateConditional_related closed scope children parameters expr condition positive
      negative
  | comma operands => exact evaluateComma_related closed children parameters expr operands
  | call callee arguments =>
    exact evaluateCall_related closed scope children parameters expr callee arguments
  | braced clauses => exact evaluateBraced_related closed children parameters expr clauses
  | construct type arguments =>
    exact evaluateConstruct_related closed scope children parameters expr type arguments

omit scope parameters in
/-- The values of an expression are related when the evaluations of trees are. -/
theorem valueWith_related (expr : Expr) :
    related (valueWith recur expr) (valueWith recur' expr) := by
  unfold valueWith
  dsimp only
  exact refusal_related closed expr.isValueDependent .dependentOperand rfl
    (closed.bind (children [] expr) fun _ => closed.pure _)

end Related

end ConstExpr
