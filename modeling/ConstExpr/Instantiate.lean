import ConstExpr.Query.PackSize
import ConstExpr.Scope

/-!
# Instantiation

Template arguments take the place of the template parameters that an expression mentions. Packs
expand where a pack expansion stands in a list: the expansion is replaced by its pattern, once for
each element of the pack. A node that nothing happens to is kept as it is, together with all below
it; this is told apart from a node that is built anew, so the answer of a step is the new tree, or
nothing where the node is kept. Every level of the tree uses up one unit of depth, and what lies
deeper is kept.
-/
namespace ConstExpr

/-- The specialization of a template within which an expression is instantiated: overload sets
that occur in the template's definition name the members of the specialization instead. -/
structure Specialization where
  /-- The template that is specialized. -/
  template : TemplateId
  /-- The member functions of the template with those of the specialization. -/
  members : List (FunctionId × FunctionId)
  deriving Inhabited

namespace Specialization

/-- The specialization with the given pairs of members, the last pair of a member counting. -/
def ofPairs (template : TemplateId) (pairs : List (FunctionId × FunctionId)) : Specialization :=
  ⟨template, pairs.reverse⟩

/-- The function that stands for the given one within the specialization. -/
def member (specialization : Specialization) (function : FunctionId) : FunctionId :=
  (specialization.members.lookup function).getD function

end Specialization

/-- What an expression is instantiated with. -/
structure Instantiation where
  /-- The template arguments. -/
  map : Substitution
  /-- The specialization that the expression belongs to, if any. -/
  within : Option Specialization
  /-- The point of instantiation. -/
  scope : Scope

/-- A node derived with a new form where something changed, and otherwise nothing. -/
def Expr.deriveIf (origin : Expr) (changed : Bool) (form : Form Expr) : Option Expr :=
  if changed then some (origin.derive form) else none

namespace Instantiation

/-- The specialization, where it concerns the given node. -/
def specializing (work : Instantiation) (expr : Expr) : Option Specialization :=
  work.within.filter fun specialization => expr.template == some specialization.template

/-- Nothing can happen to the tree: it mentions no template parameter, and its root is not in the
definition that is specialized. -/
def spares (work : Instantiation) (expr : Expr) : Bool :=
  !expr.mentionsParameter && (work.specializing expr).isNone

/-- The type with its bound parameters replaced. -/
def substituteType (work : Instantiation) (offset : Option Nat) (type : Ty) : Ty :=
  type.instantiate work.map offset

/-- A mention of a template parameter becomes the literal of the value it is bound to; a parameter
bound to a type makes the expression invalid. -/
def substituteTemplateRef (work : Instantiation) (offset : Option Nat) (expr : Expr)
    (parameter : TemplateParameter) (type : Ty) : Option Expr :=
  match work.map.argument? parameter.id offset with
  | some (.nonType value actual) => some (expr.derive (.fixed actual value .prvalue))
  | some (.type _) => some Expr.problem
  | none =>
    let actual := work.substituteType offset type
    expr.deriveIf (actual != type) (.templateRef parameter actual)

/-- The element of a function parameter pack that the offset selects, where the type of the pack
has that many elements. -/
def element? (work : Instantiation) (offset : Option Nat) (type : Ty) (isPack : Bool) :
    Option Nat :=
  match offset, isPack, type.packSize work.map with
  | some place, true, .count size => if place < size then some place else none
  | _, _, _ => none

/-- The selected element of a function parameter pack is the parameter that many positions after
the pack; any other mention keeps its position. -/
def substituteParameterRef (work : Instantiation) (offset : Option Nat) (expr : Expr)
    (position : Nat) (type : Ty) (isPack : Bool) : Option Expr :=
  let actual := work.substituteType offset type
  match work.element? offset type isPack with
  | some place => some (expr.derive (.parameterRef (position + place) actual false))
  | none => expr.deriveIf (actual != type) (.parameterRef position actual isPack)

/-- The names of an overload set become those of the specialization, and the packs among its
template arguments expand. -/
def substituteOverloads (work : Instantiation) (offset : Option Nat) (expr : Expr)
    (set : OverloadSet) : Option Expr :=
  let actual : OverloadSet :=
    { set with
      candidates :=
        match work.specializing expr with
        | some specialization => set.candidates.map specialization.member
        | none => set.candidates
      templateArguments := set.templateArguments.map fun arguments =>
        arguments.flatMap (TemplateArgument.expand work.map offset) }
  expr.deriveIf (actual != set) (.overloads actual)

/-- An overload set of several candidates called with this list of arguments, reduced to the one
that accepts them; with a pack expansion left among them their number is not final. -/
def narrow (work : Instantiation) (callee : Expr) (arguments : List Expr) : Expr :=
  match callee.overloadSet? with
  | some set =>
    if 1 < set.candidates.length && !arguments.any Expr.isExpansion then
      match work.scope.resolve set arguments.length with
      | some function => callee.derive (.overloads { set with candidates := [function] })
      | none => callee
    else callee
  | none => callee

section Steps

variable (work : Instantiation) (recur : Option Nat → Expr → Option Expr) (offset : Option Nat)

/-- What becomes of an element of a list: an expansion of known size is replaced by one tree for
each element of its packs, and one that no pack gives a size is invalid. -/
def substituteElement (element : Expr) : Option (List Expr) :=
  match element.form with
  | .expansion pattern =>
    match element.packSize work.map with
    | .count size =>
      some ((List.range size).map fun place => (recur (some place) pattern).getD pattern)
    | .deferred => (recur offset element).map fun changed => [changed]
    | .failed | .absent => some [Expr.problem]
  | _ => (recur offset element).map fun changed => [changed]

/-- What becomes of a list: nothing where no element changes. -/
def substituteList : List Expr → Option (List Expr)
  | [] => none
  | head :: tail =>
    match substituteElement work recur offset head, substituteList tail with
    | none, none => none
    | heads, tails => some (heads.getD [head] ++ tails.getD tail)

/-- The number of elements of a pack becomes a literal once it is known; without a pack, or with
packs that do not agree, the expression is invalid. -/
def substituteSizeofPack (expr operand : Expr) : Option Expr :=
  match operand.packSize work.map with
  | .count size =>
    some (expr.derive (.fixed (.fundamental .sizeType) (.integral size) .prvalue))
  | .deferred =>
    (recur offset operand).map fun operand => expr.derive (.unary .sizeofPack operand)
  | .failed | .absent => some Expr.problem

/-- What becomes of a call: with its parts changed, its overload set is reduced to the candidate
that accepts the arguments. -/
def substituteCall (expr callee : Expr) (arguments : List Expr) : Option Expr :=
  match recur offset callee, substituteList work recur offset arguments with
  | none, none => none
  | callee', arguments' =>
    let arguments := arguments'.getD arguments
    some (expr.derive (.call (work.narrow (callee'.getD callee) arguments) arguments))

/-- What becomes of a node; `recur` says what becomes of its children. -/
def substituteNode (expr : Expr) : Option Expr :=
  match expr.form with
  | .fixed type value category =>
    let actual := work.substituteType offset type
    expr.deriveIf (actual != type) (.fixed actual value category)
  | .templateRef parameter type => work.substituteTemplateRef offset expr parameter type
  | .parameterRef position type isPack =>
    work.substituteParameterRef offset expr position type isPack
  | .variableRef id type =>
    let actual := work.substituteType offset type
    expr.deriveIf (actual != type) (.variableRef id actual)
  | .unary .sizeofPack operand => substituteSizeofPack work recur offset expr operand
  | .unary operator operand =>
    (recur offset operand).map fun operand => expr.derive (.unary operator operand)
  | .binary operator left right =>
    let left' := recur offset left
    let right' := recur offset right
    expr.deriveIf (left'.isSome || right'.isSome)
      (.binary operator (left'.getD left) (right'.getD right))
  | .typeTrait operator type =>
    let actual := work.substituteType offset type
    expr.deriveIf (actual != type) (.typeTrait operator actual)
  | .conditional condition positive negative =>
    let condition' := recur offset condition
    let positive' := recur offset positive
    let negative' := recur offset negative
    expr.deriveIf (condition'.isSome || positive'.isSome || negative'.isSome)
      (.conditional (condition'.getD condition) (positive'.getD positive)
        (negative'.getD negative))
  | .comma operands =>
    (substituteList work recur offset operands).map fun operands => expr.derive (.comma operands)
  | .call callee arguments => substituteCall work recur offset expr callee arguments
  | .overloads set => work.substituteOverloads offset expr set
  | .braced clauses =>
    (substituteList work recur offset clauses).map fun clauses => expr.derive (.braced clauses)
  | .construct type arguments =>
    let actual := work.substituteType offset type
    let arguments' := substituteList work recur offset arguments
    expr.deriveIf (actual != type || arguments'.isSome)
      (.construct actual (arguments'.getD arguments))
  | .expansion pattern =>
    (recur offset pattern).map fun pattern => expr.derive (.expansion pattern)

end Steps

/-- What becomes of a tree down to the given depth: nothing where it is kept as it is. -/
def substitute (work : Instantiation) : Nat → Option Nat → Expr → Option Expr
  | 0, _, _ => none
  | depth + 1, offset, expr =>
    if work.spares expr then none else substituteNode work (work.substitute depth) offset expr

end Instantiation

/-- The depth down to which a tree is instantiated unless asked otherwise. -/
def defaultDepth : Nat := 256

/-- The tree with the template arguments in the place of the parameters. The offset selects the
element of the packs that are being expanded; without one a mention of a pack stays. -/
def Expr.instantiate (work : Instantiation) (depth : Nat) (offset : Option Nat) (expr : Expr) :
    Expr := (work.substitute depth offset expr).getD expr

end ConstExpr
