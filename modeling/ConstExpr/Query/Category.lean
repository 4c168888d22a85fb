import ConstExpr.Scope

/-!
# The category of an expression

Whether an expression designates an object or a function, an expiring object, or is a pure value.
-/
namespace ConstExpr

/-- The category of a choice between branches of the given categories: theirs where both designate
an object, or both an expiring one. -/
def Category.merge : Category → Category → Category
  | .lvalue, .lvalue => .lvalue
  | .xvalue, .xvalue => .xvalue
  | _, _ => .prvalue

/-- The category of an operator applied to an operand. -/
def UnaryOperator.resultCategory : UnaryOperator → Category
  | dereference | preIncrement | preDecrement => .lvalue
  | _ => .prvalue

/-- The category of an operator applied to two operands. -/
def BinaryOperator.resultCategory (operator : BinaryOperator) : Category :=
  if operator.isAssignment then .lvalue else .prvalue

namespace Expr

mutual

/-- The category of an expression. -/
def category (scope : Scope) : Expr → Category
  | node form _ => formCategory scope form

/-- The category of an expression of the given form. -/
def formCategory (scope : Scope) : Form Expr → Category
  | .fixed _ _ category => category
  | .templateRef .. | .typeTrait .. | .braced _ => .prvalue
  | .parameterRef .. | .variableRef .. | .overloads _ => .lvalue
  | .unary operator _ => operator.resultCategory
  | .binary operator _ _ => operator.resultCategory
  | .conditional _ positive negative => (category scope positive).merge (category scope negative)
  | .comma operands => lastCategory scope operands
  | .call callee arguments =>
    match scope.targetDecl callee arguments with
    | some decl => decl.returnType.resultCategory
    | none => .prvalue
  | .construct type _ => type.resultCategory
  | .expansion pattern => category scope pattern

/-- The category of the last expression of a list; an empty list is a pure value. -/
def lastCategory (scope : Scope) : List Expr → Category
  | [] => .prvalue
  | [expr] => category scope expr
  | _ :: exprs => lastCategory scope exprs

end

end Expr

end ConstExpr
