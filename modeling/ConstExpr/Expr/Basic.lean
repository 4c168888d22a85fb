import ConstExpr.Operator
import ConstExpr.Substitution

/-!
# Expression trees

A node has a form, which says what the expression is and holds its children, and the template
definition it occurs in. A node that is built without a template definition inherits the one of
its first child, in source order, that has one. A tree has the kinds of dependence of its nodes:
it is type-dependent when some node is of itself, and likewise for the value and for the mention
of template parameters.
-/
namespace ConstExpr

/-- The name of an overloaded function, with the template arguments written behind it. -/
structure OverloadSet where
  /-- The functions that the name was found to denote. -/
  candidates : List FunctionId
  /-- The name as written. -/
  name : String
  /-- The explicit template arguments, if any were written. -/
  templateArguments : Option (List TemplateArgument)
  deriving DecidableEq, Repr, Inhabited

namespace OverloadSet

/-- The explicit template arguments, none where none were written. -/
def arguments (set : OverloadSet) : List TemplateArgument := set.templateArguments.getD []

/-- Some explicit template argument is dependent. -/
def isDependent (set : OverloadSet) : Bool := set.arguments.any TemplateArgument.isDependent

/-- Some explicit template argument mentions a template parameter. -/
def mentionsParameter (set : OverloadSet) : Bool :=
  set.arguments.any TemplateArgument.mentionsParameter

end OverloadSet

/-- What an expression is, over the type of its children. -/
inductive Form (α : Type) where
  /-- A literal, or a value computed before. -/
  | fixed (type : Ty) (value : Value) (category : Category)
  /-- A mention of a non-type template parameter. -/
  | templateRef (parameter : TemplateParameter) (type : Ty)
  /-- A mention of a parameter of the function whose body this is; the type of a parameter pack is
  that of its elements. -/
  | parameterRef (position : Nat) (type : Ty) (isPack : Bool)
  /-- A mention of a variable. -/
  | variableRef (id : VariableId) (type : Ty)
  /-- An operator with one operand. -/
  | unary (operator : UnaryOperator) (operand : α)
  /-- An operator with two operands. -/
  | binary (operator : BinaryOperator) (left right : α)
  /-- An operator applied to a type. -/
  | typeTrait (operator : TypeOperator) (type : Ty)
  /-- A choice between two branches. -/
  | conditional (condition positive negative : α)
  /-- Operands evaluated from left to right. -/
  | comma (operands : List α)
  /-- A function call, whose arguments may be pack expansions. -/
  | call (callee : α) (arguments : List α)
  /-- The name of an overloaded function. -/
  | overloads (set : OverloadSet)
  /-- A braced list, whose clauses may be pack expansions. -/
  | braced (clauses : List α)
  /-- A functional cast or a value initialization. -/
  | construct (type : Ty) (arguments : List α)
  /-- A pack expansion: the pattern, once for each element of its packs. -/
  | expansion (pattern : α)
  deriving Repr, Inhabited

namespace Form

variable {α : Type}

/-- The children in source order. -/
def children : Form α → List α
  | fixed .. | templateRef .. | parameterRef .. | variableRef .. | typeTrait .. | overloads _ => []
  | unary _ operand => [operand]
  | binary _ left right => [left, right]
  | conditional condition positive negative => [condition, positive, negative]
  | comma operands => operands
  | call callee arguments => callee :: arguments
  | braced clauses => clauses
  | construct _ arguments => arguments
  | expansion pattern => [pattern]

/-- The form makes its node type-dependent, whatever its children are. -/
def isTypeDependent : Form α → Bool
  | fixed type .. | templateRef _ type | variableRef _ type | construct type _ => type.isDependent
  | parameterRef _ type isPack => isPack || type.isDependent
  | overloads set => set.isDependent
  | expansion _ => true
  | _ => false

/-- The form makes its node value-dependent, whatever its type and its children are. -/
def isValueDependent : Form α → Bool
  | fixed _ value _ => value.isDependent
  | templateRef .. | expansion _ => true
  | parameterRef _ _ isPack => isPack
  | typeTrait _ type => type.isDependent
  | overloads set => set.isDependent
  | _ => false

/-- The form mentions a template parameter, whatever its children do. -/
def mentionsParameter : Form α → Bool
  | fixed type .. | parameterRef _ type _ | variableRef _ type | typeTrait _ type
  | construct type _ => type.mentionsParameter
  | templateRef .. => true
  | overloads set => set.mentionsParameter
  | _ => false

end Form

/-- An expression tree. -/
inductive Expr where
  /-- A node with its form and the template definition it occurs in. -/
  | node (form : Form Expr) (template : Option TemplateId)
  deriving Inhabited

namespace Expr

/-- What the expression is. -/
def form : Expr → Form Expr
  | node form _ => form

/-- The template definition the expression occurs in. -/
def template : Expr → Option TemplateId
  | node _ template => template

/-- The children in source order. -/
def children (expr : Expr) : List Expr := expr.form.children

/-- The node of the given form in the given template definition, or else in that of the first
child that has one. -/
def build (template : Option TemplateId) (form : Form Expr) : Expr :=
  node form (template <|> form.children.findSome? Expr.template)

/-- A node written outside of any template definition. -/
def of (form : Form Expr) : Expr := build none form

/-- A node that takes the place of another one and stays in its template definition. -/
def derive (origin : Expr) (form : Form Expr) : Expr := build origin.template form

/-- A literal. -/
def literal (type : Ty) (value : Value) : Expr := of (.fixed type value .prvalue)

/-- A literal of type `int`. -/
def int (value : Int) : Expr := literal (.fundamental .int) (.integral value)

/-- A literal of type `bool`. -/
def bool (truth : Bool) : Expr := literal (.fundamental .bool) (Value.ofBool truth)

/-- The expression that stands for an invalid one. -/
def problem : Expr := literal .problem .unknown

/-- The value of a literal or of an expression that has been computed. -/
def fixedValue? (expr : Expr) : Option Value :=
  match expr.form with
  | .fixed _ value _ => some value
  | _ => none

/-- The integer that a literal holds. -/
def fixedInteger? (expr : Expr) : Option Int := expr.fixedValue?.bind Value.integer?

/-- The truth of the integer that a literal holds. -/
def fixedTruth? (expr : Expr) : Option Bool := expr.fixedValue?.bind Value.truth?

/-- The overload set that the expression names. -/
def overloadSet? (expr : Expr) : Option OverloadSet :=
  match expr.form with
  | .overloads set => some set
  | _ => none

/-- The expression is a pack expansion. -/
def isExpansion (expr : Expr) : Bool :=
  match expr.form with
  | .expansion _ => true
  | _ => false

/-- The expression is a braced list. -/
def isBraced (expr : Expr) : Bool :=
  match expr.form with
  | .braced _ => true
  | _ => false

mutual

/-- Some node of the tree has a form with the given property. -/
def anyForm (property : Form Expr → Bool) : Expr → Bool
  | node form _ => property form || anyChild property form

/-- Some node below the given form has a form with the given property. -/
def anyChild (property : Form Expr → Bool) : Form Expr → Bool
  | .fixed .. | .templateRef .. | .parameterRef .. | .variableRef .. | .typeTrait ..
  | .overloads _ => false
  | .unary _ operand => anyForm property operand
  | .binary _ left right => anyForm property left || anyForm property right
  | .conditional condition positive negative =>
    anyForm property condition || anyForm property positive || anyForm property negative
  | .comma operands => anyOf property operands
  | .call callee arguments => anyForm property callee || anyOf property arguments
  | .braced clauses => anyOf property clauses
  | .construct _ arguments => anyOf property arguments
  | .expansion pattern => anyForm property pattern

/-- Some node of some tree of the list has a form with the given property. -/
def anyOf (property : Form Expr → Bool) : List Expr → Bool
  | [] => false
  | expr :: exprs => anyForm property expr || anyOf property exprs

end

/-- The type depends on a template parameter that is not bound yet. -/
def isTypeDependent (expr : Expr) : Bool := expr.anyForm Form.isTypeDependent

/-- The value depends on a template parameter that is not bound yet; it does whenever the type
does. -/
def isValueDependent (expr : Expr) : Bool :=
  expr.anyForm fun form => form.isTypeDependent || form.isValueDependent

/-- The tree mentions a template parameter anywhere, also in a type it carries. -/
def mentionsParameter (expr : Expr) : Bool := expr.anyForm Form.mentionsParameter

mutual

/-- Structural equality of trees. -/
def same : Expr → Expr → Bool
  | node left template, node right template' => template == template' && sameForm left right

/-- Structural equality of forms. -/
def sameForm : Form Expr → Form Expr → Bool
  | .fixed type value category, .fixed type' value' category' =>
    type == type' && value == value' && category == category'
  | .templateRef parameter type, .templateRef parameter' type' =>
    parameter == parameter' && type == type'
  | .parameterRef position type isPack, .parameterRef position' type' isPack' =>
    position == position' && type == type' && isPack == isPack'
  | .variableRef id type, .variableRef id' type' => id == id' && type == type'
  | .unary operator operand, .unary operator' operand' =>
    operator == operator' && same operand operand'
  | .binary operator left right, .binary operator' left' right' =>
    operator == operator' && same left left' && same right right'
  | .typeTrait operator type, .typeTrait operator' type' => operator == operator' && type == type'
  | .conditional condition positive negative, .conditional condition' positive' negative' =>
    same condition condition' && same positive positive' && same negative negative'
  | .comma operands, .comma operands' => sameAll operands operands'
  | .call callee arguments, .call callee' arguments' =>
    same callee callee' && sameAll arguments arguments'
  | .overloads set, .overloads set' => set == set'
  | .braced clauses, .braced clauses' => sameAll clauses clauses'
  | .construct type arguments, .construct type' arguments' =>
    type == type' && sameAll arguments arguments'
  | .expansion pattern, .expansion pattern' => same pattern pattern'
  | _, _ => false

/-- Structural equality of lists of trees. -/
def sameAll : List Expr → List Expr → Bool
  | [], [] => true
  | left :: lefts, right :: rights => same left right && sameAll lefts rights
  | _, _ => false

end

instance : BEq Expr := ⟨same⟩

end Expr

end ConstExpr
