import ConstExpr.Signature.Basic

/-!
# Operators

The operators of the language with their spelling, their name in the serialized form, their place
in the canonical encoding and the classes that the rules distinguish.
-/
namespace ConstExpr

/-- The operators of one operand. -/
inductive UnaryOperator where
  | plus
  | minus
  | bitwiseNot
  | logicalNot
  | dereference
  | addressOf
  | preIncrement
  | preDecrement
  | postIncrement
  | postDecrement
  /-- The number of elements of a pack. -/
  | sizeofPack
  deriving DecidableEq, Repr, Inhabited

namespace UnaryOperator

/-- Every unary operator once, in order. -/
def all : List UnaryOperator :=
  [plus, minus, bitwiseNot, logicalNot, dereference, addressOf, preIncrement, preDecrement,
    postIncrement, postDecrement, sizeofPack]

/-- The spelling of the operator; the increments behind their operand say so. -/
def text : UnaryOperator → String
  | plus => "+"
  | minus => "-"
  | bitwiseNot => "~"
  | logicalNot => "!"
  | dereference => "*"
  | addressOf => "&"
  | preIncrement => "++"
  | preDecrement => "--"
  | postIncrement => "++ (postfix)"
  | postDecrement => "-- (postfix)"
  | sizeofPack => "sizeof..."

/-- The name of the operator in the serialized form. -/
def name : UnaryOperator → String
  | plus => "Plus"
  | minus => "Minus"
  | bitwiseNot => "BitwiseNot"
  | logicalNot => "LogicalNot"
  | dereference => "Dereference"
  | addressOf => "AddressOf"
  | preIncrement => "PreIncrement"
  | preDecrement => "PreDecrement"
  | postIncrement => "PostIncrement"
  | postDecrement => "PostDecrement"
  | sizeofPack => "SizeofPack"

/-- The unary operator of the given name in the serialized form. -/
def named? (name : String) : Option UnaryOperator := all.find? fun operator => operator.name == name

/-- The tag of the operator in the canonical encoding. -/
def tag : UnaryOperator → UInt8
  | plus => 0
  | minus => 1
  | bitwiseNot => 2
  | logicalNot => 3
  | dereference => 4
  | addressOf => 5
  | preIncrement => 6
  | preDecrement => 7
  | postIncrement => 8
  | postDecrement => 9
  | sizeofPack => 10

/-- The operators that modify their operand. -/
def isMutation : UnaryOperator → Bool
  | preIncrement | preDecrement | postIncrement | postDecrement => true
  | _ => false

/-- The operators that read or make an address. -/
def isIndirection : UnaryOperator → Bool
  | dereference | addressOf => true
  | _ => false

end UnaryOperator

/-- The operators that compute a number from two numbers. -/
inductive ArithmeticOperator where
  | add
  | subtract
  | multiply
  | divide
  | modulo
  | shiftLeft
  | shiftRight
  | bitwiseAnd
  | bitwiseOr
  | bitwiseXor
  deriving DecidableEq, Repr, Inhabited

namespace ArithmeticOperator

/-- Every arithmetic operator once, in order. -/
def all : List ArithmeticOperator :=
  [add, subtract, multiply, divide, modulo, shiftLeft, shiftRight, bitwiseAnd, bitwiseOr,
    bitwiseXor]

/-- The spelling of the operator. -/
def text : ArithmeticOperator → String
  | add => "+"
  | subtract => "-"
  | multiply => "*"
  | divide => "/"
  | modulo => "%"
  | shiftLeft => "<<"
  | shiftRight => ">>"
  | bitwiseAnd => "&"
  | bitwiseOr => "|"
  | bitwiseXor => "^"

/-- The name of the operator in the serialized form. -/
def name : ArithmeticOperator → String
  | add => "Add"
  | subtract => "Subtract"
  | multiply => "Multiply"
  | divide => "Divide"
  | modulo => "Modulo"
  | shiftLeft => "ShiftLeft"
  | shiftRight => "ShiftRight"
  | bitwiseAnd => "BitwiseAnd"
  | bitwiseOr => "BitwiseOr"
  | bitwiseXor => "BitwiseXor"

/-- The arithmetic operator of the given name in the serialized form. -/
def named? (name : String) : Option ArithmeticOperator :=
  all.find? fun operator => operator.name == name

/-- The tag of the operator in the canonical encoding. -/
def tag : ArithmeticOperator → UInt8
  | add => 0
  | subtract => 1
  | multiply => 2
  | divide => 3
  | modulo => 4
  | shiftLeft => 5
  | shiftRight => 6
  | bitwiseAnd => 7
  | bitwiseOr => 8
  | bitwiseXor => 9

end ArithmeticOperator

/-- The operators that compare two numbers. -/
inductive Comparison where
  | less
  | lessEqual
  | greater
  | greaterEqual
  | equal
  | notEqual
  deriving DecidableEq, Repr, Inhabited

/-- The operators of two operands. -/
inductive BinaryOperator where
  /-- An arithmetic operator. -/
  | arithmetic (operator : ArithmeticOperator)
  /-- A comparison. -/
  | comparison (operator : Comparison)
  /-- The conjunction, which leaves its right operand alone when the left one is false. -/
  | logicalAnd
  /-- The disjunction, which leaves its right operand alone when the left one is true. -/
  | logicalOr
  /-- The assignment. -/
  | assign
  /-- An assignment that computes with the object it modifies. -/
  | compoundAssign (operator : ArithmeticOperator)
  deriving DecidableEq, Repr, Inhabited

namespace BinaryOperator

/-- The operators that are not compound assignments, each once, in order. -/
def plain : List BinaryOperator :=
  ArithmeticOperator.all.map arithmetic ++
    ([.less, .lessEqual, .greater, .greaterEqual, .equal, .notEqual].map comparison ++
      [logicalAnd, logicalOr, assign])

/-- The spelling of the operator. -/
def text : BinaryOperator → String
  | arithmetic operator => operator.text
  | comparison .less => "<"
  | comparison .lessEqual => "<="
  | comparison .greater => ">"
  | comparison .greaterEqual => ">="
  | comparison .equal => "=="
  | comparison .notEqual => "!="
  | logicalAnd => "&&"
  | logicalOr => "||"
  | assign => "="
  | compoundAssign operator => operator.text ++ "="

/-- The name of the operator in the serialized form, where a compound assignment also carries the
name of its arithmetic operator. -/
def name : BinaryOperator → String
  | arithmetic operator => operator.name
  | comparison .less => "Less"
  | comparison .lessEqual => "LessEqual"
  | comparison .greater => "Greater"
  | comparison .greaterEqual => "GreaterEqual"
  | comparison .equal => "Equal"
  | comparison .notEqual => "NotEqual"
  | logicalAnd => "LogicalAnd"
  | logicalOr => "LogicalOr"
  | assign => "Assign"
  | compoundAssign _ => "CompoundAssign"

/-- The operator of the given name in the serialized form that is no compound assignment. -/
def named? (name : String) : Option BinaryOperator :=
  plain.find? fun operator => operator.name == name

/-- The operators whose result is a truth value. -/
def isBoolean : BinaryOperator → Bool
  | comparison _ | logicalAnd | logicalOr => true
  | _ => false

/-- The assignments. -/
def isAssignment : BinaryOperator → Bool
  | assign | compoundAssign _ => true
  | _ => false

/-- The shifts. -/
def isShift : BinaryOperator → Bool
  | arithmetic .shiftLeft | arithmetic .shiftRight => true
  | _ => false

end BinaryOperator

/-- The operators that are applied to a type. -/
inductive TypeOperator where
  | sizeOf
  | alignOf
  | isIntegral
  | isSigned
  | isPointer
  deriving DecidableEq, Repr, Inhabited

namespace TypeOperator

/-- Every type operator once, in order. -/
def all : List TypeOperator := [sizeOf, alignOf, isIntegral, isSigned, isPointer]

/-- The spelling of the operator. -/
def text : TypeOperator → String
  | sizeOf => "sizeof"
  | alignOf => "alignof"
  | isIntegral => "__is_integral"
  | isSigned => "__is_signed"
  | isPointer => "__is_pointer"

/-- The name of the operator in the serialized form. -/
def name : TypeOperator → String
  | sizeOf => "SizeOf"
  | alignOf => "AlignOf"
  | isIntegral => "IsIntegral"
  | isSigned => "IsSigned"
  | isPointer => "IsPointer"

/-- The type operator of the given name in the serialized form. -/
def named? (name : String) : Option TypeOperator := all.find? fun operator => operator.name == name

/-- The tag of the operator in the canonical encoding. -/
def tag : TypeOperator → UInt8
  | sizeOf => 0
  | alignOf => 1
  | isIntegral => 2
  | isSigned => 3
  | isPointer => 4

/-- The operators that measure a type; the others ask a question about it. -/
def isMeasure : TypeOperator → Bool
  | sizeOf | alignOf => true
  | _ => false

end TypeOperator

instance : Canonical UnaryOperator := ⟨fun operator rest => Canonical.tag operator.tag rest⟩

instance : Canonical ArithmeticOperator := ⟨fun operator rest => Canonical.tag operator.tag rest⟩

instance : Canonical TypeOperator := ⟨fun operator rest => Canonical.tag operator.tag rest⟩

instance : Canonical BinaryOperator :=
  ⟨fun
    | .arithmetic operator, rest => Canonical.tag operator.tag rest
    | .comparison .less, rest => Canonical.tag 10 rest
    | .comparison .lessEqual, rest => Canonical.tag 11 rest
    | .comparison .greater, rest => Canonical.tag 12 rest
    | .comparison .greaterEqual, rest => Canonical.tag 13 rest
    | .comparison .equal, rest => Canonical.tag 14 rest
    | .comparison .notEqual, rest => Canonical.tag 15 rest
    | .logicalAnd, rest => Canonical.tag 16 rest
    | .logicalOr, rest => Canonical.tag 17 rest
    | .assign, rest => Canonical.tag 18 rest
    | .compoundAssign operator, rest => Canonical.tag 19 (Canonical.tag operator.tag rest)⟩

end ConstExpr
