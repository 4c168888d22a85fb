import ConstExpr.Request
import ConstExpr.Text.Expr

/-!
# The serialized form of requests and outcomes

Of a request only the expression has to be given. An outcome is written and never read.
-/
namespace ConstExpr

instance : Serialized FunctionDecl :=
  .ofFields "Function"
    (fun decl => [("name", toDatum decl.name), ("parameters", toDatum decl.parameters),
      ("return_type", toDatum decl.returnType), ("body", toDatum decl.body),
      ("is_constexpr", toDatum decl.isConstexpr)])
    do
      let name ← .required "name" ofDatum?
      let parameters ← .required "parameters" ofDatum?
      let returnType ← .required "return_type" ofDatum?
      let body ← .defaulted "body" none ofDatum?
      return ⟨name, parameters, returnType, body, ← .defaulted "is_constexpr" false ofDatum?⟩

instance : Serialized VariableDecl :=
  .ofFields "Variable"
    (fun decl => [("name", toDatum decl.name), ("ty", toDatum decl.type),
      ("initializer", toDatum decl.initializer), ("is_constexpr", toDatum decl.isConstexpr)])
    do
      let name ← .required "name" ofDatum?
      let type ← .required "ty" ofDatum?
      let initializer ← .defaulted "initializer" none ofDatum?
      return ⟨name, type, initializer, ← .defaulted "is_constexpr" false ofDatum?⟩

instance : Serialized Table :=
  .ofFields "Table"
    (fun table => [("functions", toDatum table.functionDecls),
      ("variables", toDatum table.variableDecls)])
    do
      let functions ← .defaulted "functions" [] ofDatum?
      return ⟨functions, ← .defaulted "variables" [] ofDatum?⟩

instance : Serialized Severity := .ofNames Severity.name Severity.named?

instance : Serialized Span :=
  .ofFields "Span" (fun span => [("start", .ofNat span.start), ("end", .ofNat span.stop)])
    do return ⟨← .required "start" .size, ← .required "end" .size⟩

instance : Serialized Related :=
  .ofFields "Related"
    (fun related => [("span", toDatum related.span), ("message", toDatum related.message)])
    do return ⟨← .required "span" ofDatum?, ← .required "message" ofDatum?⟩

instance : Serialized Diagnostic :=
  .ofFields "Diagnostic"
    (fun diagnostic => [("span", toDatum diagnostic.span), ("message", toDatum diagnostic.message),
      ("severity", toDatum diagnostic.severity), ("help_message", toDatum diagnostic.help),
      ("related", toDatum diagnostic.related)])
    do
      let span ← .required "span" ofDatum?
      let message ← .required "message" ofDatum?
      let severity ← .required "severity" ofDatum?
      let help ← .defaulted "help_message" none ofDatum?
      return ⟨span, message, severity, help, ← .required "related" ofDatum?⟩

instance : Serialized Limits :=
  .ofFields "Config"
    (fun limits => [("step_limit", .ofNat limits.steps), ("max_depth", .ofNat limits.depth)])
    do
      let steps ← .defaulted "step_limit" Limits.default.steps .size
      return ⟨steps, ← .defaulted "max_depth" Limits.default.depth .size⟩

instance : Serialized Request :=
  .ofFields "Request"
    (fun request => [("table", toDatum request.table), ("arguments", toDatum request.arguments),
      ("expression", toDatum request.expression), ("span", toDatum request.span),
      ("config", toDatum request.limits)])
    do
      let table ← .defaulted "table" Table.empty ofDatum?
      let arguments ← .defaulted "arguments" Substitution.empty ofDatum?
      let expression ← .required "expression" ofDatum?
      let span ← .defaulted "span" ⟨0, 0⟩ ofDatum?
      return ⟨table, arguments, expression, span,
        ← .defaulted "config" Limits.default ofDatum?⟩

/-- The serialized form of an outcome, with the signature as text. -/
def Outcome.toDatum (outcome : Outcome) : Datum :=
  .record none [("is_type_dependent", Serialized.toDatum outcome.isTypeDependent),
    ("is_value_dependent", Serialized.toDatum outcome.isValueDependent),
    ("is_constant_expression", Serialized.toDatum outcome.isConstant),
    ("ty", Serialized.toDatum outcome.type), ("category", Serialized.toDatum outcome.category),
    ("value", Serialized.toDatum outcome.value), ("steps_performed", .ofNat outcome.steps),
    ("signature", Serialized.toDatum outcome.signature.text)]

end ConstExpr
