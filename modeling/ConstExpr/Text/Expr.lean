import ConstExpr.Expr.Basic
import ConstExpr.Text.Term

/-!
# The serialized form of expressions

A node is written with its form and its template definition. The node that is read inherits the
template definition of its children where its text gives none.
-/
namespace ConstExpr

/-- Reads the fields of an overload set. -/
def OverloadSet.ofFields? : FieldDecoder OverloadSet := do
  let candidates ← .required "candidates" ofDatum?
  let name ← .required "name" ofDatum?
  return ⟨candidates, name, ← .defaulted "template_arguments" none ofDatum?⟩

instance : Serialized OverloadSet :=
  .ofFields "FunctionSet"
    (fun set => [("candidates", toDatum set.candidates), ("name", toDatum set.name),
      ("template_arguments", toDatum set.templateArguments)])
    OverloadSet.ofFields?

/-- An alternative that holds a structure with these fields. -/
def Datum.variant (name : String) (fields : Datum.Fields) : Datum :=
  .wrap name (.record none fields)

namespace Form

/-- A mention of an entity. -/
def mention (name : String) (fields : Datum.Fields) : Datum :=
  .wrap "Binding" (.record (some name) fields)

/-- Reads a mention of an entity, whose name selects the fields. -/
def ofMention? {α : Type} : Decoder (Form α) := fun place datum => do
  let choice ← Choice.at? place datum
  match choice.name with
  | "TemplateParameter" =>
    choice.fields do
      let parameter ← .required "parameter" Serialized.ofDatum?
      return templateRef parameter (← .required "ty" Serialized.ofDatum?)
  | "FunctionParameter" =>
    choice.fields do
      let position ← .required "position" .size
      let type ← .required "ty" Serialized.ofDatum?
      return parameterRef position type (← .required "is_pack" Serialized.ofDatum?)
  | "Variable" =>
    choice.fields do
      let id ← .required "id" Serialized.ofDatum?
      return variableRef id (← .required "ty" Serialized.ofDatum?)
  | _ => none

/-- Reads a form of which `child` reads the children. -/
def ofDatum? {α : Type} (child : Decoder α) : Decoder (Form α) := fun place datum => do
  let choice ← Choice.at? place datum
  let holding := choice.record choice.name
  match choice.name with
  | "Fixed" =>
    holding do
      let type ← .required "ty" Serialized.ofDatum?
      let value ← .required "value" Serialized.ofDatum?
      return fixed type value (← .required "category" Serialized.ofDatum?)
  | "Binding" => choice.item ofMention?
  | "Unary" =>
    holding do
      let operator ← .required "operator" Serialized.ofDatum?
      return unary operator (← .required "operand" child)
  | "Binary" =>
    holding do
      let operator ← .required "operator" Serialized.ofDatum?
      let left ← .required "lhs" child
      return binary operator left (← .required "rhs" child)
  | "UnaryTypeId" =>
    holding do
      let operator ← .required "operator" Serialized.ofDatum?
      return typeTrait operator (← .required "ty" Serialized.ofDatum?)
  | "Conditional" =>
    holding do
      let condition ← .required "condition" child
      let positive ← .required "positive" child
      return conditional condition positive (← .required "negative" child)
  | "Comma" => holding do return comma (← .required "expressions" (.list child))
  | "FunctionCall" =>
    holding do
      let callee ← .required "callee" child
      return call callee (← .required "arguments" (.list child))
  | "FunctionSet" => holding (overloads <$> OverloadSet.ofFields?)
  | "InitializerList" => holding do return braced (← .required "clauses" (.list child))
  | "TypeId" =>
    holding do
      let type ← .required "ty" Serialized.ofDatum?
      return construct type (← .required "arguments" (.list child))
  | "ParameterPack" => holding do return expansion (← .required "pattern" child)
  | _ => none

end Form

namespace Expr

mutual

/-- The serialized form of a tree. -/
def toDatum : Expr → Datum
  | node form template =>
    .record none [("kind", formDatum form), ("template_definition", Serialized.toDatum template)]

/-- The serialized form of a form with all below it. -/
def formDatum : Form Expr → Datum
  | .fixed type value category =>
    .variant "Fixed" [("ty", Serialized.toDatum type), ("value", Serialized.toDatum value),
      ("category", Serialized.toDatum category)]
  | .templateRef parameter type =>
    Form.mention "TemplateParameter"
      [("parameter", Serialized.toDatum parameter), ("ty", Serialized.toDatum type)]
  | .parameterRef position type isPack =>
    Form.mention "FunctionParameter"
      [("position", .ofNat position), ("ty", Serialized.toDatum type),
        ("is_pack", Serialized.toDatum isPack)]
  | .variableRef id type =>
    Form.mention "Variable" [("id", Serialized.toDatum id), ("ty", Serialized.toDatum type)]
  | .unary operator operand =>
    .variant "Unary" [("operator", Serialized.toDatum operator), ("operand", operand.toDatum)]
  | .binary operator left right =>
    .variant "Binary" [("operator", Serialized.toDatum operator), ("lhs", left.toDatum),
      ("rhs", right.toDatum)]
  | .typeTrait operator type =>
    .variant "UnaryTypeId"
      [("operator", Serialized.toDatum operator), ("ty", Serialized.toDatum type)]
  | .conditional condition positive negative =>
    .variant "Conditional" [("condition", condition.toDatum), ("positive", positive.toDatum),
      ("negative", negative.toDatum)]
  | .comma operands => .variant "Comma" [("expressions", .list (toDatumAll operands))]
  | .call callee arguments =>
    .variant "FunctionCall"
      [("callee", callee.toDatum), ("arguments", .list (toDatumAll arguments))]
  | .overloads set => .wrap "FunctionSet" (Serialized.toDatum set)
  | .braced clauses => .variant "InitializerList" [("clauses", .list (toDatumAll clauses))]
  | .construct type arguments =>
    .variant "TypeId"
      [("ty", Serialized.toDatum type), ("arguments", .list (toDatumAll arguments))]
  | .expansion pattern => .variant "ParameterPack" [("pattern", pattern.toDatum)]

/-- The serialized forms of trees in order. -/
def toDatumAll : List Expr → List Datum
  | [] => []
  | expr :: exprs => expr.toDatum :: toDatumAll exprs

end

/-- Reads a tree of at most `depth` trees inside one another. -/
def ofDatumWithin : Nat → Decoder Expr
  | 0 => fun _ _ => none
  | depth + 1 => .record "Node" do
    let form ← .required "kind" (Form.ofDatum? (ofDatumWithin depth))
    return build (← .defaulted "template_definition" none Serialized.ofDatum?) form

end Expr

instance : Serialized Expr where
  toDatum := Expr.toDatum
  ofDatum? place := Expr.ofDatumWithin place.levels place

end ConstExpr
