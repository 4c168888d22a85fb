import ConstExpr.Scope
import ConstExpr.Signature.Expr

/-!
# The type of an expression

The type of an expression is read off its form and the types of its children. A type-dependent
expression has a type of its own, identified by the signature of the expression, unless its form
already fixes the type: a literal, a mention, a cast, a type trait, a size of a pack, an overload
set and a pack expansion keep the type that they carry.
-/
namespace ConstExpr

namespace UnaryOperator

/-- The type of an operator applied to an operand of the given type. -/
def resultType (operator : UnaryOperator) (operand : Ty) : Ty :=
  match operator with
  | plus | minus | bitwiseNot =>
    match operand.fundamental? with
    | some type => .fundamental type.promote
    | none => .problem
  | logicalNot => .fundamental .bool
  | dereference =>
    match operand.unqualified with
    | .pointer pointee => pointee
    | _ => .problem
  | addressOf => .pointer operand
  | preIncrement | preDecrement | postIncrement | postDecrement => operand
  | sizeofPack => .fundamental .sizeType

end UnaryOperator

/-- The common type of two integral operands, possibly qualified or referred to. -/
def Ty.common? (left right : Ty) : Option Ty :=
  match left.fundamental?, right.fundamental? with
  | some first, some second =>
    if first.isIntegral && second.isIntegral then some (.fundamental (first.common second))
    else none
  | _, _ => none

/-- The type of an operator applied to operands of the given types: a truth value for comparisons
and connectives, the type of the object assigned to, the promoted type of the left operand of a
shift, and otherwise the common type of the operands. -/
def BinaryOperator.resultType (operator : BinaryOperator) (left right : Ty) : Ty :=
  if operator.isBoolean then .fundamental .bool
  else if operator.isAssignment then left
  else
    match operator.isShift, left.fundamental? with
    | true, some type => .fundamental type.promote
    | _, _ => (left.common? right).getD .problem

/-- The type of a choice between branches of the given types: their own type where they agree, the
common type where both are integral, and otherwise the type of the first branch. -/
def Ty.merge (positive negative : Ty) : Ty :=
  if positive = negative then positive else (positive.common? negative).getD positive

/-- The type of an operator applied to a type. -/
def TypeOperator.resultType (operator : TypeOperator) : Ty :=
  if operator.isMeasure then .fundamental .sizeType else .fundamental .bool

namespace Expr

mutual

/-- The type of an expression of which no part is type-dependent. -/
def plainType (scope : Scope) : Expr → Ty
  | node form _ => plainFormType scope form

/-- The type of a form of which no part is type-dependent. -/
def plainFormType (scope : Scope) : Form Expr → Ty
  | .fixed type .. => type
  | .templateRef _ type | .parameterRef _ type _ | .variableRef _ type | .construct type _ =>
    type.withoutReference
  | .unary operator operand => operator.resultType (plainType scope operand)
  | .binary operator left right =>
    operator.resultType (plainType scope left) (plainType scope right)
  | .typeTrait operator _ => operator.resultType
  | .conditional _ positive negative =>
    (plainType scope positive).merge (plainType scope negative)
  | .comma operands => plainLastType scope operands
  | .call callee arguments =>
    match scope.targetDecl callee arguments with
    | some decl => decl.returnType.withoutReference
    | none => .problem
  | .overloads _ => .functionSet
  | .braced _ => .initializerList
  | .expansion pattern => .packExpansion (plainType scope pattern)

/-- The type of the last expression of a list; an empty list has the type `void`. -/
def plainLastType (scope : Scope) : List Expr → Ty
  | [] => .fundamental .void
  | [expr] => plainType scope expr
  | _ :: exprs => plainLastType scope exprs

end

mutual

/-- The type of an expression. -/
def typeOf (scope : Scope) : Expr → Ty
  | node form template => formType scope (node form template) form

/-- The type of an expression of the given form. -/
def formType (scope : Scope) (expr : Expr) : Form Expr → Ty
  | .fixed type .. => type
  | .templateRef _ type | .parameterRef _ type _ | .variableRef _ type | .construct type _ =>
    type.withoutReference
  | .typeTrait operator _ => operator.resultType
  | .unary .sizeofPack _ => .fundamental .sizeType
  | .overloads _ => .functionSet
  | .expansion pattern => .packExpansion (typeOf scope pattern)
  | _ =>
    if expr.isTypeDependent then .dependentExpression (signature expr) else expr.plainType scope

end

end Expr

end ConstExpr
