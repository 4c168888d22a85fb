/-!
# Identifiers

Declarations and template definitions are numbered; a template parameter is identified by the
nesting depth of the template that declares it and its position in that parameter list.
-/
namespace ConstExpr

/-- A function declared at the point of instantiation, by its place in the table. -/
structure FunctionId where
  /-- The place of the declaration. -/
  index : Nat
  deriving DecidableEq, Repr, Inhabited, Ord

/-- A variable declared at the point of instantiation, by its place in the table. -/
structure VariableId where
  /-- The place of the declaration. -/
  index : Nat
  deriving DecidableEq, Repr, Inhabited, Ord

/-- A template definition: a function, class or variable template. -/
structure TemplateId where
  /-- The number of the definition. -/
  index : Nat
  deriving DecidableEq, Repr, Inhabited, Ord

/-- The identity of a template parameter; parameters compare by depth, then by index. -/
structure ParameterId where
  /-- The nesting level of the template that declares the parameter. -/
  depth : Nat
  /-- The position in the parameter list of that template. -/
  index : Nat
  deriving DecidableEq, Repr, Inhabited, Ord

/-- A mention of a template parameter. -/
structure TemplateParameter where
  /-- The parameter mentioned. -/
  id : ParameterId
  /-- Whether it is a parameter pack. -/
  isPack : Bool
  deriving DecidableEq, Repr, Inhabited, Ord

/-- The function's number as it is shown where its name is unknown. -/
def FunctionId.text (function : FunctionId) : String := "function#" ++ toString function.index

/-- The variable's number as it is shown. -/
def VariableId.text (variable_ : VariableId) : String := "variable#" ++ toString variable_.index

/-- The parameter as it is shown: depth and index. -/
def ParameterId.text (parameter : ParameterId) : String :=
  "#" ++ toString parameter.depth ++ "." ++ toString parameter.index

/-- The category of an expression: whether it designates an object, an expiring object or a pure
value. -/
inductive Category where
  | lvalue
  | xvalue
  | prvalue
  deriving DecidableEq, Repr, Inhabited, Ord

/-- The category in words. -/
def Category.text : Category → String
  | .lvalue => "lvalue"
  | .xvalue => "xvalue"
  | .prvalue => "prvalue"

/-- The name of the category in the serialized form. -/
def Category.name : Category → String
  | .lvalue => "LValue"
  | .xvalue => "XValue"
  | .prvalue => "PRValue"

/-- Every category once, in order. -/
def Category.all : List Category := [.lvalue, .xvalue, .prvalue]

/-- The category of the given name in the serialized form. -/
def Category.named? (name : String) : Option Category :=
  all.find? fun category => category.name == name

end ConstExpr
