import ConstExpr.Scope

/-!
# Constant expressions

Whether an expression has the structure of a constant expression. Only the tree is inspected; the
evaluation of a constant expression can still fail.
-/
namespace ConstExpr

namespace Expr

mutual

/-- The expression has the structure of a constant expression. -/
def isConstant (scope : Scope) : Expr → Bool
  | node form _ => isConstantForm scope form

/-- The form has the structure of a constant expression, with all below it. -/
def isConstantForm (scope : Scope) : Form Expr → Bool
  | .fixed type value _ => !type.isProblem && value != .unknown
  | .templateRef .. | .typeTrait .. | .overloads _ => true
  | .parameterRef .. => false
  | .variableRef id _ => (scope.variableDecl? id).any VariableDecl.isUsable
  | .unary operator operand =>
    !operator.isIndirection && !operator.isMutation && isConstant scope operand
  | .binary operator left right =>
    !operator.isAssignment && isConstant scope left && isConstant scope right
  | .conditional condition positive negative =>
    isConstant scope condition && isConstant scope positive && isConstant scope negative
  | .comma operands => allConstant scope operands
  | .call callee arguments =>
    (scope.targetDecl callee arguments).any FunctionDecl.isConstexpr && allConstant scope arguments
  | .braced clauses => allConstant scope clauses
  | .construct type arguments => !type.isProblem && allConstant scope arguments
  | .expansion pattern => isConstant scope pattern

/-- Every expression of the list has the structure of a constant expression. -/
def allConstant (scope : Scope) : List Expr → Bool
  | [] => true
  | expr :: exprs => isConstant scope expr && allConstant scope exprs

end

end Expr

end ConstExpr
