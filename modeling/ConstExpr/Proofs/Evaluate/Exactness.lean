import ConstExpr.Proofs.Evaluate.Folding
import ConstExpr.Proofs.Evaluate.Metering
import ConstExpr.Proofs.Evaluate.Residues

/-!
# Exactness of binary operators

An operator on two literals is specified on integers of unbounded size (`BinaryOperator.exact`):
the operands are taken in the type in which the operator computes, and the literal that it folds to
holds the residue of the exact result in the type of the operation. The only failures are a division
by zero and an invalid shift (`BinaryOperator.failure?`). Neither the 128 bits in which results are
computed nor the order of the conversions can be told from the outcome (`evaluate_exact`).
-/
namespace ConstExpr

open Evaluation

/-- The result of an operator on integers of unbounded size. Bits are those of two's complement; a
quotient is rounded toward zero, but a shift to the right toward the lesser integer. -/
def ArithmeticOperator.exact (operator : ArithmeticOperator) (first second : Int) : Int :=
  match operator with
  | add => first + second
  | subtract => first - second
  | multiply => first * second
  | divide => first.tdiv second
  | modulo => first.tmod second
  | shiftLeft => first * (twoPow second.toNat : Int)
  | shiftRight => first.fdiv (twoPow second.toNat : Int)
  | bitwiseAnd => first.land second
  | bitwiseOr => first.lor second
  | bitwiseXor => first.xor second

namespace BinaryOperator

/-- The exact result of an operator on integers of the given types: of a shift of the left operand
in its promoted type, and of any other arithmetic or comparison in the common type. Assignments have
none and are counted as zero. -/
def exact (operator : BinaryOperator) (leftType rightType : Fundamental) (left right : Int) : Int :=
  let common := leftType.common rightType
  match operator with
  | arithmetic .shiftLeft => ArithmeticOperator.shiftLeft.exact (leftType.promote.convert left) right
  | arithmetic .shiftRight =>
    ArithmeticOperator.shiftRight.exact (leftType.promote.convert left) right
  | arithmetic operator => operator.exact (common.convert left) (common.convert right)
  | comparison operator =>
    truthInteger (operator.holds (common.convert left) (common.convert right))
  | logicalAnd => truthInteger (left != 0 && right != 0)
  | logicalOr => truthInteger (left != 0 || right != 0)
  | assign | compoundAssign _ => 0

/-- The failure of an operator other than an assignment, if it fails, whatever the left operand
is. -/
def failure? (operator : BinaryOperator) (leftType : Fundamental) (right : Int) : Option Failure :=
  match operator with
  | arithmetic .divide | arithmetic .modulo => if right = 0 then some .divisionByZero else none
  | arithmetic .shiftLeft | arithmetic .shiftRight =>
    if right < 0 ∨ (leftType.promote.width : Int) ≤ right then some .invalidShift else none
  | _ => none

/-- The integral type of an operator other than an assignment on operands of integral types. -/
def resultKind (operator : BinaryOperator) (leftType rightType : Fundamental) : Fundamental :=
  if operator.isBoolean then .bool
  else if operator.isShift then leftType.promote else leftType.common rightType

variable {operator : BinaryOperator} {leftType rightType : Fundamental} {left right : Int}

/-- The type of an operator on operands of integral types. -/
theorem resultType_fundamental (arithmetic : operator.isAssignment = false)
    (leftIntegral : leftType.isIntegral = true) (rightIntegral : rightType.isIntegral = true) :
    operator.resultType (.fundamental leftType) (.fundamental rightType) =
      .fundamental (operator.resultKind leftType rightType) := by
  have common : (Ty.fundamental leftType).common? (.fundamental rightType) =
      some (.fundamental (leftType.common rightType)) :=
    (Ty.IsOf.fundamental leftIntegral).common (.fundamental rightIntegral)
  have leftFound : (Ty.fundamental leftType).fundamental? = some leftType := rfl
  simp only [resultType, resultKind, arithmetic, common, leftFound, Bool.false_eq_true, if_false,
    Option.getD_some]
  split
  · rfl
  · cases operator.isShift <;> rfl

/-- The type of an operator on operands of integral types is integral. -/
theorem resultKind_isIntegral (operator : BinaryOperator)
    (leftIntegral : leftType.isIntegral = true) (rightIntegral : rightType.isIntegral = true) :
    (operator.resultKind leftType rightType).isIntegral = true := by
  unfold resultKind
  split
  · rfl
  · split
    · exact Fundamental.promote_isIntegral leftIntegral
    · exact Fundamental.common_isIntegral leftIntegral rightIntegral

end BinaryOperator

/-- The integer of a truth value is its own residue in the type of truth values. -/
theorem truthInteger_isResidue (truth : Bool) :
    Fundamental.bool.IsResidue (truthInteger truth) (truthInteger truth) where
  represents := by cases truth <;> decide
  congruent := rfl

/-- The integer of a truth value is converted to itself. -/
theorem convert_truthInteger (truth : Bool) :
    Fundamental.bool.convert (truthInteger truth) = truthInteger truth := by
  cases truth <;> rfl

section Compute

variable {leftType rightType : Fundamental} {right : Int}

/-- An amount out of range is refused. -/
theorem shiftAmount_of_invalid {width : Nat} {amount : Int}
    (invalid : amount < 0 ∨ (width : Int) ≤ amount) :
    shiftAmount width amount = .error .invalidShift := by
  have outside : ¬ (0 ≤ amount ∧ amount < width) := by omega
  rw [shiftAmount, if_neg outside]

/-- An amount in range is taken. -/
theorem shiftAmount_of_valid {width : Nat} {amount : Int}
    (valid : ¬ (amount < 0 ∨ (width : Int) ≤ amount)) :
    shiftAmount width amount = .ok amount.toNat := by
  have inside : 0 ≤ amount ∧ amount < width := by omega
  rw [shiftAmount, if_pos inside]

/-- What an arithmetic operator computes in 128 bits is congruent to the exact result, unless it
fails. -/
theorem ArithmeticOperator.compute_modEq (operator : ArithmeticOperator) (left : Int)
    (leftIntegral : leftType.isIntegral = true) (rightIntegral : rightType.isIntegral = true)
    (rightFits : rightType.Represents right) :
    match (BinaryOperator.arithmetic operator).failure? leftType right with
    | some failure => operator.compute leftType rightType left right = .error failure
    | none => ∃ computed, operator.compute leftType rightType left right = .ok computed ∧
        computed ≡ (BinaryOperator.arithmetic operator).exact leftType rightType left right
          [ZMOD twoPow 128] := by
  have zero_iff : (leftType.common rightType).convert right = 0 ↔ right = 0 :=
    Fundamental.convert_eq_zero_iff (Fundamental.common_isIntegral leftIntegral rightIntegral)
      (Fundamental.common_ne_bool leftType rightType) rightIntegral
      (Fundamental.width_le_common leftIntegral rightIntegral) rightFits
  cases operator with
  | add | subtract | multiply => exact ⟨_, rfl, machineWord_modEq _⟩
  | bitwiseAnd =>
    refine ⟨_, rfl, ?_⟩
    rw [machineBits_land, toInt_machineBits]
    exact machineWord_modEq _
  | bitwiseOr =>
    refine ⟨_, rfl, ?_⟩
    rw [machineBits_lor, toInt_machineBits]
    exact machineWord_modEq _
  | bitwiseXor =>
    refine ⟨_, rfl, ?_⟩
    rw [machineBits_xor, toInt_machineBits]
    exact machineWord_modEq _
  | divide =>
    by_cases zero : right = 0
    · simp only [BinaryOperator.failure?, if_pos zero, compute, if_pos (zero_iff.mpr zero)]
    · have nonzero := mt zero_iff.mp zero
      simp only [BinaryOperator.failure?, if_neg zero, compute, if_neg nonzero]
      exact ⟨_, rfl, machineWord_modEq _⟩
  | modulo =>
    by_cases zero : right = 0
    · simp only [BinaryOperator.failure?, if_pos zero, compute, if_pos (zero_iff.mpr zero)]
    · have nonzero := mt zero_iff.mp zero
      simp only [BinaryOperator.failure?, if_neg zero, compute, if_neg nonzero]
      exact ⟨_, rfl, rfl⟩
  | shiftLeft =>
    by_cases invalid : right < 0 ∨ (leftType.promote.width : Int) ≤ right
    · simp only [BinaryOperator.failure?, if_pos invalid, compute, shiftAmount_of_invalid invalid]
      rfl
    · simp only [BinaryOperator.failure?, if_neg invalid, compute, shiftAmount_of_valid invalid]
      exact ⟨_, rfl, machineWord_modEq _⟩
  | shiftRight =>
    by_cases invalid : right < 0 ∨ (leftType.promote.width : Int) ≤ right
    · simp only [BinaryOperator.failure?, if_pos invalid, compute, shiftAmount_of_invalid invalid]
      rfl
    · simp only [BinaryOperator.failure?, if_neg invalid, compute, shiftAmount_of_valid invalid]
      refine ⟨_, rfl, ?_⟩
      -- Dividing by a positive integer is rounding toward the lesser integer.
      rw [BinaryOperator.exact, ArithmeticOperator.exact,
        Int.fdiv_eq_ediv_of_nonneg _ (Int.le_of_lt (twoPow_pos right.toNat))]

/-- What an operator computes is converted to the residue of the exact result in the type of the
operation, unless it fails. -/
theorem BinaryOperator.compute_exact {operator : BinaryOperator}
    (arithmetic : operator.isAssignment = false) (leftIntegral : leftType.isIntegral = true)
    (rightIntegral : rightType.isIntegral = true) (rightFits : rightType.Represents right)
    (left : Int) :
    match operator.failure? leftType right with
    | some failure => operator.compute leftType rightType left right = .error failure
    | none => ∃ computed, operator.compute leftType rightType left right = .ok computed ∧
        (operator.resultKind leftType rightType).IsResidue
          (operator.exact leftType rightType left right)
          ((operator.resultKind leftType rightType).convert computed) := by
  cases operator with
  | arithmetic operation =>
    have computes := operation.compute_modEq left leftIntegral rightIntegral rightFits
    have integral := (BinaryOperator.arithmetic operation).resultKind_isIntegral leftIntegral
      rightIntegral
    have numeric : (BinaryOperator.arithmetic operation).resultKind leftType rightType ≠ .bool := by
      cases operation <;> first
        | exact Fundamental.promote_ne_bool leftType
        | exact Fundamental.common_ne_bool leftType rightType
    cases found : (BinaryOperator.arithmetic operation).failure? leftType right with
    | some failure =>
      rw [found] at computes
      exact computes
    | none =>
      rw [found] at computes
      obtain ⟨computed, same, congruent⟩ := computes
      exact ⟨computed, same, Fundamental.convert_isResidue_of_modEq integral numeric congruent⟩
  | comparison | logicalAnd | logicalOr =>
    refine ⟨_, rfl, ?_⟩
    change Fundamental.bool.IsResidue _ (Fundamental.bool.convert (truthInteger _))
    rw [convert_truthInteger]
    exact truthInteger_isResidue _
  | assign | compoundAssign => contradiction

end Compute

/-- The expression is a literal of the integer in the fundamental type. -/
def Expr.IsInteger (kind : Fundamental) (value : Int) (expr : Expr) : Prop :=
  ∃ category, expr.form = .fixed (.fundamental kind) (.integral value) category

/-- What an operator on literals of the integers comes to: its failure, or a literal of the one
integer that is the residue of the exact result in the type of the operation. -/
def BinaryOperator.IsExact (operator : BinaryOperator) (leftType rightType : Fundamental)
    (left right : Int) (outcome : Except Failure Expr) : Prop :=
  let kind := operator.resultKind leftType rightType
  match operator.failure? leftType right with
  | some failure => outcome = .error failure
  | none => ∃ result value, outcome = .ok result ∧
      result.form = .fixed (.fundamental kind) (.integral value) .prvalue ∧
      ∀ other, kind.IsResidue (operator.exact leftType rightType left right) other ↔ other = value

namespace Expr.IsInteger

variable {expr : Expr} {kind : Fundamental} {value : Int}

/-- The type of a literal. -/
theorem typeOf_eq (literal : expr.IsInteger kind value) (scope : Scope) :
    expr.typeOf scope = .fundamental kind := by
  obtain ⟨category, isForm⟩ := literal
  obtain ⟨form, template⟩ := expr
  obtain rfl : form = .fixed (.fundamental kind) (.integral value) category := isForm
  rw [Expr.typeOf, formType]

/-- A literal is not type-dependent. -/
theorem independent (literal : expr.IsInteger kind value) : expr.isTypeDependent = false := by
  obtain ⟨category, isForm⟩ := literal
  obtain ⟨form, template⟩ := expr
  obtain rfl : form = .fixed (.fundamental kind) (.integral value) category := isForm
  rfl

/-- The integer that a literal holds. -/
theorem fixedInteger_eq (literal : expr.IsInteger kind value) :
    expr.fixedInteger? = some value := by
  obtain ⟨category, isForm⟩ := literal
  rw [fixedInteger?, fixedValue?, isForm]
  rfl

/-- The truth of the integer that a literal holds. -/
theorem fixedTruth_eq (literal : expr.IsInteger kind value) :
    expr.fixedTruth? = some (value != 0) := by
  obtain ⟨category, isForm⟩ := literal
  rw [fixedTruth?, fixedValue?, isForm]
  rfl

/-- A literal is evaluated to itself in one step. -/
theorem completes (literal : expr.IsInteger kind value) (scope : Scope) (parameters : List Expr) :
    (expr.evaluate scope parameters).Completes (.ok expr) 1 := by
  obtain ⟨category, isForm⟩ := literal
  have stays : (evaluateNode scope (fun arguments other => other.evaluate scope arguments)
      parameters expr).Completes (.ok expr) 0 := by
    rw [evaluateNode, isForm]
    exact completes_pure expr
  rw [evaluate_eq]
  show Evaluation.Completes _ _ (1 + 0)
  exact completes_step.bind stays

end Expr.IsInteger

section Operations

variable {operator : BinaryOperator} {left right : Expr} {leftType rightType : Fundamental}
  {first second : Int} (leftIntegral : leftType.isIntegral = true)
  (rightIntegral : rightType.isIntegral = true)

include leftIntegral rightIntegral

/-- A literal of the residue of the exact result is the exact outcome. -/
theorem BinaryOperator.IsExact.of_residue {result : Expr} {value : Int}
    (works : operator.failure? leftType second = none)
    (isForm : result.form = .fixed (.fundamental (operator.resultKind leftType rightType))
      (.integral value) .prvalue)
    (residue : (operator.resultKind leftType rightType).IsResidue
      (operator.exact leftType rightType first second) value) :
    operator.IsExact leftType rightType first second (.ok result) := by
  have integral := operator.resultKind_isIntegral leftIntegral rightIntegral
  rw [IsExact, works]
  refine ⟨result, value, rfl, isForm, fun other => ⟨residue.unique integral, ?_⟩⟩
  rintro rfl
  exact residue

/-- A connective that the left operand decides has the deciding truth value. -/
theorem BinaryOperator.IsExact.of_decisive (decided : operator.decisive? = some (first != 0))
    (expr : Expr) : operator.IsExact leftType rightType first second
      (.ok (expr.derive (.fixed (.fundamental .bool) (Value.ofBool (first != 0)) .prvalue))) := by
  have boolean : operator.resultKind leftType rightType = .bool := by
    cases operator <;> first | rfl | contradiction
  have works : operator.failure? leftType second = none := by
    cases operator <;> first | rfl | contradiction
  have exactly : operator.exact leftType rightType first second = truthInteger (first != 0) := by
    cases operator with
    | logicalAnd =>
      have truth : (first != 0) = false := (Option.some.inj decided).symm
      rw [BinaryOperator.exact, truth, Bool.false_and]
    | logicalOr =>
      have truth : (first != 0) = true := (Option.some.inj decided).symm
      rw [BinaryOperator.exact, truth, Bool.true_or]
    | _ => contradiction
  refine .of_residue leftIntegral rightIntegral works (by rw [boolean]; rfl) ?_
  rw [boolean, exactly]
  exact truthInteger_isResidue _

variable (arithmetic : operator.isAssignment = false) (leftLiteral : left.IsInteger leftType first)
  (rightLiteral : right.IsInteger rightType second)

include arithmetic leftLiteral rightLiteral

/-- The type of an operation on literals. -/
theorem typeOf_operation (scope : Scope) (template : Option TemplateId) :
    (Expr.node (.binary operator left right) template).typeOf scope =
      .fundamental (operator.resultKind leftType rightType) := by
  rw [Expr.typeOf_binary leftLiteral.independent rightLiteral.independent,
    leftLiteral.typeOf_eq scope, rightLiteral.typeOf_eq scope,
    BinaryOperator.resultType_fundamental arithmetic leftIntegral rightIntegral]

/-- The literal that an operation on literals folds to holds the computed integer in the type of the
operation. -/
theorem folded_operation (scope : Scope) (expr : Expr) (computed : Int) :
    ((expr.derive (.binary operator left right)).folded scope computed).form =
      .fixed (.fundamental (operator.resultKind leftType rightType))
        (.integral ((operator.resultKind leftType rightType).convert computed)) .prvalue := by
  have integral := operator.resultKind_isIntegral leftIntegral rightIntegral
  have typed : (expr.derive (.binary operator left right)).typeOf scope =
      .fundamental (operator.resultKind leftType rightType) :=
    typeOf_operation leftIntegral rightIntegral arithmetic leftLiteral rightLiteral scope _
  have converted := (Ty.IsOf.fundamental integral).convert computed
  simp only [Expr.folded, typed, Ty.withoutReference, converted]
  rfl

variable (rightFits : rightType.Represents second)

include rightFits

/-- An operator on two literals folds to its exact outcome. -/
theorem foldBinary_exact (scope : Scope) (expr : Expr) :
    ∃ outcome, (foldBinary scope expr operator left right).Completes outcome 0 ∧
      operator.IsExact leftType rightType first second outcome := by
  have leftFound : (left.typeOf scope).fundamental? = some leftType := by
    rw [leftLiteral.typeOf_eq]
    rfl
  have rightFound : (right.typeOf scope).fundamental? = some rightType := by
    rw [rightLiteral.typeOf_eq]
    rfl
  have computes := operator.compute_exact arithmetic leftIntegral rightIntegral rightFits first
  simp only [foldBinary, leftLiteral.fixedInteger_eq, rightLiteral.fixedInteger_eq, leftFound,
    rightFound]
  cases found : operator.failure? leftType second with
  | some failure =>
    rw [found] at computes
    refine ⟨.error failure, ?_, ?_⟩
    · rw [computes]
      exact completes_throw (BinaryOperator.compute_failure computes)
    · rw [BinaryOperator.IsExact, found]
  | none =>
    rw [found] at computes
    obtain ⟨computed, same, residue⟩ := computes
    rw [same]
    have isForm := folded_operation leftIntegral rightIntegral arithmetic leftLiteral rightLiteral
      scope expr computed
    exact ⟨_, completes_pure _, .of_residue leftIntegral rightIntegral found isForm residue⟩

/-- An operation on literals comes to its exact outcome in three steps, and in two where the left
operand decides it. -/
theorem operation_completes (scope : Scope) (parameters : List Expr)
    (template : Option TemplateId) :
    ∃ outcome steps, steps ≤ 3 ∧
      ((Expr.node (.binary operator left right) template).evaluate scope parameters).Completes
        outcome steps ∧
      operator.IsExact leftType rightType first second outcome := by
  have leftSteps := leftLiteral.completes scope parameters
  have rightSteps := rightLiteral.completes scope parameters
  obtain ⟨outcome, folds, isExact⟩ := foldBinary_exact leftIntegral rightIntegral arithmetic
    leftLiteral rightLiteral rightFits scope (.node (.binary operator left right) template)
  have undecided := rightSteps.bind folds
  rw [evaluate_eq]
  simp only [evaluateNode, Expr.form, evaluateBinary, arithmetic, Bool.false_eq_true, if_false]
  by_cases decided : operator.decisive? = some (first != 0)
  · refine ⟨_, 1 + (1 + 0), by decide, completes_step.bind (leftSteps.bind ?_),
      .of_decisive leftIntegral rightIntegral decided (.node (.binary operator left right) template)⟩
    simp only [decided, leftLiteral.fixedTruth_eq, if_true]
    exact completes_pure _
  · refine ⟨outcome, 1 + (1 + (1 + 0)), by decide, completes_step.bind (leftSteps.bind ?_), isExact⟩
    simp only [leftLiteral.fixedTruth_eq]
    split
    · next decisive truth found same =>
      have differ : truth ≠ decisive := by
        rintro rfl
        exact decided (found.trans same.symm)
      rw [if_neg differ]
      exact undecided
    · exact undecided

end Operations

/-- Folding a binary operator is exact modular arithmetic. An operator that is no assignment, on two
literals of integers of integral types, fails with a division by zero exactly when it divides by
zero, and with an invalid shift exactly when the amount is negative or no less than the width of the
promoted left operand. Otherwise it folds to the literal, in the type of the operation, of the one
integer that is congruent to the result on integers of unbounded size. Three steps suffice. -/
theorem evaluate_exact (scope : Scope) (parameters : List Expr) {operator : BinaryOperator}
    (arithmetic : operator.isAssignment = false) {leftType rightType : Fundamental}
    (leftIntegral : leftType.isIntegral = true) (rightIntegral : rightType.isIntegral = true)
    {first second : Int} (rightFits : rightType.Represents second) {left right : Expr}
    (leftLiteral : left.IsInteger leftType first) (rightLiteral : right.IsInteger rightType second)
    (template : Option TemplateId) {budget : Budget} (enough : 3 ≤ budget.remaining) :
    (Expr.node (.binary operator left right) template).typeOf scope =
        .fundamental (operator.resultKind leftType rightType) ∧
      ∃ outcome rest,
        (Expr.node (.binary operator left right) template).evaluate scope parameters budget =
            reply outcome rest ∧
          operator.IsExact leftType rightType first second outcome := by
  have typed := typeOf_operation leftIntegral rightIntegral arithmetic leftLiteral rightLiteral
    scope template
  obtain ⟨outcome, steps, few, completes, isExact⟩ := operation_completes leftIntegral rightIntegral
    arithmetic leftLiteral rightLiteral rightFits scope parameters template
  exact ⟨typed, outcome, _, completes.enough budget (Nat.le_trans few enough), isExact⟩

/-- The square of the greatest `unsigned long`, which does not fit into 128 bits of two's
complement, is 1. -/
theorem evaluate_exact_of_square :
    let greatest : Expr := .literal (.fundamental .unsignedLong) (.integral 18446744073709551615)
    Fundamental.unsignedLong.Represents 18446744073709551615 ∧ 3 ≤ (Budget.fresh 3).remaining ∧
      ∃ result rest, (Expr.node (.binary (.arithmetic .multiply) greatest greatest) none).evaluate
          Table.empty.scope [] (Budget.fresh 3) = .ok result rest ∧
        result.form = .fixed (.fundamental .unsignedLong) (.integral 1) .prvalue := by
  intro greatest
  have fits : Fundamental.unsignedLong.Represents 18446744073709551615 := by decide
  have literal : greatest.IsInteger .unsignedLong 18446744073709551615 := ⟨.prvalue, rfl⟩
  have enough : 3 ≤ (Budget.fresh 3).remaining := by decide
  have arithmetic : (BinaryOperator.arithmetic .multiply).isAssignment = false := rfl
  obtain ⟨-, outcome, rest, comes, result, value, rfl, isForm, only⟩ :=
    evaluate_exact Table.empty.scope [] arithmetic rfl rfl fits literal literal none enough
  have one : 1 = value := (only 1).mp ⟨by decide, by decide⟩
  exact ⟨fits, enough, result, rest, comes, by rw [isForm, one]; rfl⟩

end ConstExpr
