import ConstExpr.Evaluate.Arithmetic
import ConstExpr.Query.Typing

/-!
# Constant evaluation

A constant evaluation visits a tree in source order, spending one step for each node, and folds
what becomes known into literals; what cannot be folded is built anew from its evaluated children.
An unselected branch of a choice, and the right operand of a connective that its left operand
decides, are not visited. The body of a called function and the initializer of a variable are
evaluated from the same budget, which bounds the evaluation however the declarations refer to each
other.
-/
namespace ConstExpr

namespace Expr

/-- The literal that takes the place of a node: the integer in the type of the node. -/
def folded (scope : Scope) (expr : Expr) (value : Int) : Expr :=
  let type := (expr.typeOf scope).withoutReference
  expr.derive (.fixed type ((Value.integral value).convert type) .prvalue)

/-- A literal in the given type, if that is a scalar type other than its own; any other expression
is kept. -/
def convertTo (type : Ty) (expr : Expr) : Expr :=
  match expr.form with
  | .fixed actual value _ =>
    let target := type.withoutReference
    if target.isScalar && actual != target then
      expr.derive (.fixed target (value.convert target) .prvalue)
    else expr
  | _ => expr

/-- The values of a list of literals. -/
def fixedValues? (exprs : List Expr) : Option (List Value) := exprs.mapM fixedValue?

/-- The expression is a literal of a value that is known in all its parts. -/
def isKnown (expr : Expr) : Bool := expr.fixedValue?.any Value.isKnown

/-- The expression is a literal. -/
def isFixed (expr : Expr) : Bool := expr.fixedValue?.isSome

end Expr

section Steps

variable (scope : Scope) (recur : List Expr → Expr → Evaluation Expr) (parameters : List Expr)

/-- An operator with one operand folds on an integer, if it computes one. -/
def evaluateUnary (expr : Expr) (operator : UnaryOperator) (operand : Expr) :
    Evaluation Expr := do
  if operator.isMutation then throw .modification
  let operand ← recur parameters operand
  let rebuilt := expr.derive (.unary operator operand)
  match operand.fixedInteger?.bind operator.compute? with
  | some result => return rebuilt.folded scope result
  | none => return rebuilt

/-- An operator on two evaluated operands folds on integers of fundamental types. -/
def foldBinary (expr : Expr) (operator : BinaryOperator) (left right : Expr) :
    Evaluation Expr := do
  let rebuilt := expr.derive (.binary operator left right)
  match left.fixedInteger?, right.fixedInteger?, (left.typeOf scope).fundamental?,
    (right.typeOf scope).fundamental? with
  | some first, some second, some firstType, some secondType =>
    match operator.compute firstType secondType first second with
    | .ok result => return rebuilt.folded scope result
    | .error failure => throw failure
  | _, _, _, _ => return rebuilt

/-- A connective is decided by its left operand where it can be; otherwise both operands of an
operator are evaluated. -/
def evaluateBinary (expr : Expr) (operator : BinaryOperator) (left right : Expr) :
    Evaluation Expr := do
  if operator.isAssignment then throw .modification
  let left ← recur parameters left
  match operator.decisive?, left.fixedTruth? with
  | some decisive, some truth =>
    if truth = decisive then
      return expr.derive (.fixed (.fundamental .bool) (Value.ofBool decisive) .prvalue)
  | _, _ => pure ()
  let right ← recur parameters right
  foldBinary scope expr operator left right

/-- A type trait folds to what it says of its type, unless that is dependent or cannot be
measured. -/
def evaluateTypeTrait (expr : Expr) (operator : TypeOperator) (type : Ty) : Expr :=
  if expr.isValueDependent then expr
  else
    match operator.compute? type with
    | some result => expr.folded scope result
    | none => expr

/-- A choice becomes the branch that its condition selects, in the type of the choice; with an
undecided condition both branches are evaluated. -/
def evaluateConditional (expr condition positive negative : Expr) : Evaluation Expr := do
  let condition ← recur parameters condition
  match condition.fixedTruth? with
  | some truth =>
    let result ← recur parameters (if truth then positive else negative)
    return result.convertTo (expr.typeOf scope)
  | none =>
    let positive ← recur parameters positive
    let negative ← recur parameters negative
    return expr.derive (.conditional condition positive negative)

/-- The body of the function that a call of known arguments resolves to, with the function's
declaration and number. -/
def callee? (set : OverloadSet) (arity : Nat) :
    Except Failure (FunctionId × FunctionDecl × Expr) :=
  match scope.resolve set arity with
  | none => .error .unresolvedOverload
  | some id =>
    match scope.functionDecl? id with
    | none => .error (.missingDefinition id)
    | some decl =>
      if decl.isConstexpr then
        match decl.body with
        | some body => .ok (id, decl, body)
        | none => .error (.missingDefinition id)
      else .error (.nonConstexprFunction id)

/-- A call of known arguments becomes what the body makes of them, in the return type; with an
argument that is not known, or a body that does not fold, the call stays. -/
def evaluateCall (expr callee : Expr) (arguments : List Expr) : Evaluation Expr := do
  let callee ← recur parameters callee
  let arguments ← arguments.mapM (recur parameters)
  let rebuilt := expr.derive (.call callee arguments)
  match callee.overloadSet? with
  | none => return rebuilt
  | some set =>
    if !arguments.all Expr.isKnown || callee.isValueDependent then return rebuilt
    match callee? scope set arguments.length with
    | .error failure => throw failure
    | .ok (id, decl, body) =>
      let bound := arguments.zipWith (fun argument type => argument.convertTo type) decl.parameters
      let result ← Evaluation.withinCall id (recur bound body)
      if result.isFixed then return result.convertTo decl.returnType else return rebuilt

/-- A braced list of literals folds to the list of their values. -/
def evaluateBraced (expr : Expr) (clauses : List Expr) : Evaluation Expr := do
  let clauses ← clauses.mapM (recur parameters)
  match Expr.fixedValues? clauses with
  | some values => return expr.derive (.fixed .initializerList (.composite values) .prvalue)
  | none => return expr.derive (.braced clauses)

/-- A cast of a literal to a scalar type folds, and so does the value initialization of a scalar,
to zero. -/
def evaluateConstruct (expr : Expr) (type : Ty) (arguments : List Expr) : Evaluation Expr := do
  let arguments ← arguments.mapM (recur parameters)
  let rebuilt := expr.derive (.construct type arguments)
  if type.isDependent || !type.isScalar then return rebuilt
  match arguments with
  | [] => return expr.folded scope 0
  | [argument] => if argument.isFixed then return argument.convertTo type else return rebuilt
  | _ => return rebuilt

/-- Operands evaluated in order become the last of them, if that is a literal. -/
def evaluateComma (expr : Expr) (operands : List Expr) : Evaluation Expr := do
  let operands ← operands.mapM (recur parameters)
  match operands.getLast? with
  | some last => if last.isFixed then return last else return expr.derive (.comma operands)
  | none => return expr.derive (.comma operands)

/-- A variable that may be used in a constant expression becomes what its initializer evaluates
to, in the declared type; any other mention of a variable stays. -/
def evaluateVariable (expr : Expr) (id : VariableId) (type : Ty) : Evaluation Expr :=
  match scope.constantInitializer? id with
  | some initializer => do
    let value ← recur [] initializer
    return value.convertTo type
  | none => return expr

/-- Evaluates a node, whose step has been taken, by evaluating its children with `recur`. -/
def evaluateNode (expr : Expr) : Evaluation Expr :=
  match expr.form with
  | .fixed .. | .templateRef .. | .overloads _ | .expansion _ => return expr
  | .parameterRef position _ isPack =>
    return if isPack then expr else parameters[position]?.getD expr
  | .variableRef id type => evaluateVariable scope recur expr id type
  | .unary operator operand => evaluateUnary scope recur parameters expr operator operand
  | .binary operator left right => evaluateBinary scope recur parameters expr operator left right
  | .typeTrait operator type => return evaluateTypeTrait scope expr operator type
  | .conditional condition positive negative =>
    evaluateConditional scope recur parameters expr condition positive negative
  | .comma operands => evaluateComma recur parameters expr operands
  | .call callee arguments => evaluateCall scope recur parameters expr callee arguments
  | .braced clauses => evaluateBraced recur parameters expr clauses
  | .construct type arguments => evaluateConstruct scope recur parameters expr type arguments

end Steps

/-- Evaluates a tree with at most the given number of nested steps. -/
def evaluateWithin (scope : Scope) : Nat → List Expr → Expr → Evaluation Expr
  | 0, _, expr => do
    Evaluation.step
    return expr
  | depth + 1, parameters, expr => do
    Evaluation.step
    evaluateNode scope (evaluateWithin scope depth) parameters expr

namespace Expr

/-- Evaluates the tree with the given expressions for the function parameters, by position. The
steps that are left bound how deep the evaluation can go. -/
def evaluate (scope : Scope) (parameters : List Expr) (expr : Expr) : Evaluation Expr :=
  fun budget => evaluateWithin scope budget.remaining parameters expr budget

/-- The value of the expression outside of any function, which is unknown where it does not
fold. -/
def constantValue (scope : Scope) (expr : Expr) : Evaluation Value := do
  if expr.isValueDependent then throw .dependentOperand
  let result ← expr.evaluate scope []
  return result.fixedValue?.getD .unknown

/-- The value of the expression: dependent where it depends on a template parameter, and unknown
where the evaluation fails within the given number of steps. -/
def value (scope : Scope) (limit : Nat) (expr : Expr) : Value :=
  if expr.isValueDependent then .dependent
  else
    match (expr.constantValue scope).run (Budget.fresh limit) with
    | .ok value _ => value
    | .error _ _ => .unknown

/-- A constant evaluation that succeeds answers with the very node it was given: a literal, a name
that stands for nothing known, or a type trait that says nothing. -/
def isSettled (scope : Scope) (parameters : List Expr) (expr : Expr) : Bool :=
  match expr.form with
  | .fixed .. | .templateRef .. | .overloads _ | .expansion _ => true
  | .parameterRef position _ isPack => isPack || parameters[position]?.isNone
  | .variableRef id _ => (scope.constantInitializer? id).isNone
  | .typeTrait operator type => expr.isValueDependent || (operator.compute? type).isNone
  | _ => false

end Expr

end ConstExpr
