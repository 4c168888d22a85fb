import ConstExpr.Evaluate.Budget
import ConstExpr.Operator
import ConstExpr.Ty

/-!
# Arithmetic on literals

Operators on integers of given fundamental types. Operands are converted to their common type
first; results are computed in 128 bits of two's complement and are left to be converted to the
type of the expression.
-/
namespace ConstExpr

/-- One for true and zero for false. -/
def truthInteger (truth : Bool) : Int := if truth then 1 else 0

/-- The bits of an integer in 128 bits of two's complement. -/
def machineBits (value : Int) : BitVec 128 := BitVec.ofInt 128 value

/-- The integer that an operator makes of its operand; the operators on objects make none. -/
def UnaryOperator.compute? (operator : UnaryOperator) (operand : Int) : Option Int :=
  match operator with
  | plus => some operand
  | minus => some (machineWord (-operand))
  | bitwiseNot => some (-operand - 1)
  | logicalNot => some (truthInteger (operand == 0))
  | _ => none

/-- The truth of a comparison of two integers. -/
def Comparison.holds (operator : Comparison) (left right : Int) : Bool :=
  match operator with
  | less => left < right
  | lessEqual => left ≤ right
  | greater => right < left
  | greaterEqual => right ≤ left
  | equal => left == right
  | notEqual => left != right

/-- The amount of a shift of an operand of the given width. -/
def shiftAmount (width : Nat) (amount : Int) : Except Failure Nat :=
  if 0 ≤ amount ∧ amount < width then .ok amount.toNat else .error .invalidShift

/-- The integer that an arithmetic operator makes of operands of the given types. A shift converts
its left operand to that operand's promoted type and takes its right operand as it is. -/
def ArithmeticOperator.compute (operator : ArithmeticOperator) (leftType rightType : Fundamental)
    (left right : Int) : Except Failure Int :=
  let common := leftType.common rightType
  let first := common.convert left
  let second := common.convert right
  match operator with
  | add => .ok (machineWord (first + second))
  | subtract => .ok (machineWord (first - second))
  | multiply => .ok (machineWord (first * second))
  | divide => if second = 0 then .error .divisionByZero else .ok (machineWord (first.tdiv second))
  | modulo => if second = 0 then .error .divisionByZero else .ok (first.tmod second)
  | bitwiseAnd => .ok (machineBits first &&& machineBits second).toInt
  | bitwiseOr => .ok (machineBits first ||| machineBits second).toInt
  | bitwiseXor => .ok (machineBits first ^^^ machineBits second).toInt
  | shiftLeft => do
    let amount ← shiftAmount leftType.promote.width right
    return machineWord (leftType.promote.convert left * (twoPow amount : Int))
  | shiftRight => do
    let amount ← shiftAmount leftType.promote.width right
    return leftType.promote.convert left / (twoPow amount : Int)

/-- The integer that an operator makes of operands of the given types. -/
def BinaryOperator.compute (operator : BinaryOperator) (leftType rightType : Fundamental)
    (left right : Int) : Except Failure Int :=
  match operator with
  | arithmetic operator => operator.compute leftType rightType left right
  | comparison operator =>
    let common := leftType.common rightType
    .ok (truthInteger (operator.holds (common.convert left) (common.convert right)))
  | logicalAnd => .ok (truthInteger (left != 0 && right != 0))
  | logicalOr => .ok (truthInteger (left != 0 || right != 0))
  | assign | compoundAssign _ => .error .modification

/-- The truth value of the left operand that decides a connective. -/
def BinaryOperator.decisive? : BinaryOperator → Option Bool
  | logicalAnd => some false
  | logicalOr => some true
  | _ => none

/-- What an operator says of a type: its measure, where it has one, or whether it is of a class. -/
def TypeOperator.compute? (operator : TypeOperator) (type : Ty) : Option Int :=
  match operator with
  | sizeOf => type.size.map Int.ofNat
  | alignOf => type.alignment.map Int.ofNat
  | isIntegral => some (truthInteger type.isIntegral)
  | isSigned => some (truthInteger (type.fundamental?.any Fundamental.isSigned))
  | isPointer => some (truthInteger type.isPointer)

end ConstExpr
