import ConstExpr.Operator
import ConstExpr.Substitution
import ConstExpr.Text.Serialized

/-!
# The serialized form of types, values and substitutions

Types and values nest; they are read down to the levels that are left at their place.
-/
namespace ConstExpr

instance : Serialized Fundamental := .ofNames Fundamental.name Fundamental.named?

instance : Serialized Category := .ofNames Category.name Category.named?

instance : Serialized ReferenceKind := .ofNames ReferenceKind.name ReferenceKind.named?

instance : Serialized UnaryOperator := .ofNames UnaryOperator.name UnaryOperator.named?

instance : Serialized ArithmeticOperator :=
  .ofNames ArithmeticOperator.name ArithmeticOperator.named?

instance : Serialized TypeOperator := .ofNames TypeOperator.name TypeOperator.named?

instance : Serialized BinaryOperator where
  toDatum
    | .compoundAssign operator => .wrap "CompoundAssign" (toDatum operator)
    | operator => .word operator.name
  ofDatum? place datum := do
    let choice ← Choice.at? place datum
    match choice.name with
    | "CompoundAssign" => .compoundAssign <$> choice.item ofDatum?
    | name => choice.nothing (← BinaryOperator.named? name)

instance : Serialized FunctionId := .ofNumber "FunctionID" FunctionId.index FunctionId.mk

instance : Serialized VariableId := .ofNumber "VariableID" VariableId.index VariableId.mk

instance : Serialized TemplateId := .ofNumber "TemplateID" TemplateId.index TemplateId.mk

/-- Reads the bytes of a signature. -/
def Signature.ofBytes? : Decoder Signature := fun place datum => do
  let bytes ← Decoder.list (Decoder.below 256) place datum
  return ⟨bytes.map UInt8.ofNat⟩

instance : Serialized Signature where
  toDatum signature := .tuple none [.list (signature.bytes.map fun byte => .ofNat byte.toNat)]
  ofDatum? := .wrapped "Signature" Signature.ofBytes?

instance : Serialized ParameterId :=
  .ofFields "TemplateParameterID"
    (fun id => [("depth", .ofNat id.depth), ("index", .ofNat id.index)])
    do
      let depth ← .required "depth" (.below parameterBound)
      return ⟨depth, ← .required "index" (.below parameterBound)⟩

/-- Reads the fields of a mention of a template parameter. -/
def TemplateParameter.ofFields? : FieldDecoder TemplateParameter := do
  let id ← .required "id" ofDatum?
  return ⟨id, ← .required "is_pack" ofDatum?⟩

instance : Serialized TemplateParameter :=
  .ofFields "TemplateParameter"
    (fun parameter => [("id", toDatum parameter.id), ("is_pack", toDatum parameter.isPack)])
    TemplateParameter.ofFields?

namespace Ty

/-- The serialized form of a type. -/
def toDatum : Ty → Datum
  | fundamental type => .wrap "Primitive" (Serialized.toDatum type)
  | pointer pointee => .wrap "Pointer" pointee.toDatum
  | reference kind referee =>
    .wrap "Reference"
      (.record none [("kind", Serialized.toDatum kind), ("referee", referee.toDatum)])
  | const inner => .wrap "Const" inner.toDatum
  | parameter mentioned => .wrap "Parameter" (Serialized.toDatum mentioned)
  | packExpansion pattern => .wrap "PackExpansion" pattern.toDatum
  | initializerList => .word "InitializerList"
  | functionSet => .word "FunctionSet"
  | dependentExpression expression =>
    .wrap "DependentExpression" (Serialized.toDatum expression)
  | problem => .word "Problem"

/-- Reads a type of at most `depth` types inside one another. -/
def ofDatumWithin : Nat → Decoder Ty
  | 0 => fun _ _ => none
  | depth + 1 => fun place datum => do
    let choice ← Choice.at? place datum
    match choice.name with
    | "Primitive" => fundamental <$> choice.item ofDatum?
    | "Pointer" => pointer <$> choice.item (ofDatumWithin depth)
    | "Reference" =>
      choice.record "Reference" do
        let kind ← .required "kind" ofDatum?
        return reference kind (← .required "referee" (ofDatumWithin depth))
    | "Const" => const <$> choice.item (ofDatumWithin depth)
    | "Parameter" =>
      parameter <$> choice.record "TemplateParameter" TemplateParameter.ofFields?
    | "PackExpansion" => packExpansion <$> choice.item (ofDatumWithin depth)
    | "InitializerList" => choice.nothing initializerList
    | "FunctionSet" => choice.nothing functionSet
    | "DependentExpression" =>
      dependentExpression <$> choice.wrapped "Signature" Signature.ofBytes?
    | "Problem" => choice.nothing problem
    | _ => none

end Ty

instance : Serialized Ty where
  toDatum := Ty.toDatum
  ofDatum? place := Ty.ofDatumWithin place.levels place

namespace Value

mutual

/-- The serialized form of a value. -/
def toDatum : Value → Datum
  | integral value => .wrap "Integral" (.ofInt value)
  | composite elements => .wrap "Composite" (.list (toDatumAll elements))
  | dependent => .word "Dependent"
  | unknown => .word "Unknown"

/-- The serialized forms of values in order. -/
def toDatumAll : List Value → List Datum
  | [] => []
  | element :: elements => element.toDatum :: toDatumAll elements

end

/-- Reads a value of at most `depth` values inside one another. -/
def ofDatumWithin : Nat → Decoder Value
  | 0 => fun _ _ => none
  | depth + 1 => fun place datum => do
    let choice ← Choice.at? place datum
    match choice.name with
    | "Integral" => integral <$> choice.item .integer
    | "Composite" => composite <$> choice.item (.list (ofDatumWithin depth))
    | "Dependent" => choice.nothing dependent
    | "Unknown" => choice.nothing unknown
    | _ => none

end Value

instance : Serialized Value where
  toDatum := Value.toDatum
  ofDatum? place := Value.ofDatumWithin place.levels place

instance : Serialized TemplateArgument where
  toDatum
    | .type type => .wrap "Type" (toDatum type)
    | .nonType value type =>
      .record (some "NonType") [("value", toDatum value), ("type", toDatum type)]
  ofDatum? place datum := do
    let choice ← Choice.at? place datum
    match choice.name with
    | "Type" => .type <$> choice.item ofDatum?
    | "NonType" =>
      choice.fields do
        let value ← .required "value" ofDatum?
        return .nonType value (← .required "type" ofDatum?)
    | _ => none

instance : Serialized Bound where
  toDatum
    | .single argument => .wrap "Single" (toDatum argument)
    | .pack arguments => .wrap "Pack" (toDatum arguments)
  ofDatum? place datum := do
    let choice ← Choice.at? place datum
    match choice.name with
    | "Single" => .single <$> choice.item ofDatum?
    | "Pack" => .pack <$> choice.item ofDatum?
    | _ => none

instance : Serialized Substitution :=
  .ofFields "TemplateParameterMap"
    (fun map => [("bindings",
      .map (map.entries.map fun entry => (toDatum entry.1, toDatum entry.2)))])
    do return .ofEntries (← .required "bindings" (.entries ofDatum? ofDatum?))

instance : Serialized PackSize where
  toDatum
    | .deferred => .word "Defer"
    | .failed => .word "Fail"
    | .absent => .word "NotFound"
    | .count arguments => .wrap "Count" (.ofNat arguments)
  ofDatum? place datum := do
    let choice ← Choice.at? place datum
    match choice.name with
    | "Defer" => choice.nothing .deferred
    | "Fail" => choice.nothing .failed
    | "NotFound" => choice.nothing .absent
    | "Count" => .count <$> choice.item .size
    | _ => none

end ConstExpr
