import ConstExpr.Expr.Basic

/-!
# The size of a pack expansion

How many elements the packs that an expression mentions have. A pack expansion inside the
expression expands on its own, and the operand of a pack size names its pack without expanding it,
so neither of the two counts.
-/
namespace ConstExpr

namespace OverloadSet

/-- The size of the packs that the explicit template arguments mention. -/
def packSize (map : Substitution) (set : OverloadSet) : PackSize :=
  .combineAll (set.arguments.map (TemplateArgument.packSize map))

end OverloadSet

namespace Form

/-- The size of the packs that a form mentions by itself. -/
def packSize {α : Type} (map : Substitution) : Form α → PackSize
  | .fixed type .. | .parameterRef _ type _ | .variableRef _ type | .typeTrait _ type
  | .construct type _ => type.packSize map
  | .templateRef parameter type => (map.packSize parameter).combine (type.packSize map)
  | .overloads set => set.packSize map
  | _ => .absent

end Form

namespace Expr

mutual

/-- The size of the packs that an expression mentions, outside of the expansions in it. -/
def visiblePackSize (map : Substitution) : Expr → PackSize
  | node form _ => visibleFormPackSize map form

/-- The size of the packs that a form mentions with all below it. -/
def visibleFormPackSize (map : Substitution) : Form Expr → PackSize
  | .expansion _ | .unary .sizeofPack _ => .absent
  | .unary _ operand => visiblePackSize map operand
  | .binary _ left right => (visiblePackSize map left).combine (visiblePackSize map right)
  | .conditional condition positive negative =>
    ((visiblePackSize map condition).combine (visiblePackSize map positive)).combine
      (visiblePackSize map negative)
  | .comma operands => visiblePackSizeFrom map .absent operands
  | .call callee arguments =>
    visiblePackSizeFrom map (visiblePackSize map callee) arguments
  | .braced clauses => visiblePackSizeFrom map .absent clauses
  | .construct type arguments => visiblePackSizeFrom map (type.packSize map) arguments
  | form => form.packSize map

/-- The outcome found so far combined with those of the expressions of a list, in order. -/
def visiblePackSizeFrom (map : Substitution) (found : PackSize) : List Expr → PackSize
  | [] => found
  | expr :: exprs => visiblePackSizeFrom map (found.combine (visiblePackSize map expr)) exprs

end

/-- The size of the packs that an expression mentions; of a pack expansion the pattern is
searched. -/
def packSize (map : Substitution) (expr : Expr) : PackSize :=
  match expr.form with
  | .expansion pattern => pattern.visiblePackSize map
  | _ => expr.visiblePackSize map

end Expr

end ConstExpr
