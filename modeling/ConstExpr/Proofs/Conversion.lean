import ConstExpr.Query.Typing

/-!
# Integral types and conversion

A conversion to an integral type gives an integer that the type represents (`wrap_represents`).
Promotions and common types of integral types are integral, and references and qualifiers around a
type make no difference to any of this: only the fundamental type below them counts.
-/
namespace ConstExpr

/-- A power of two is twice the one before. -/
theorem twoPow_eq_double {bits : Nat} (positive : 0 < bits) :
    twoPow bits = 2 * twoPow (bits - 1) := by
  obtain ⟨lower, rfl⟩ := Nat.exists_eq_succ_of_ne_zero (Nat.ne_of_gt positive)
  simp only [twoPow, Nat.pow_eq, Nat.succ_sub_one, Nat.pow_succ]
  exact Nat.mul_comm _ _

namespace Fundamental

/-- No type is wider than 64 bits. -/
theorem width_le (type : Fundamental) : type.width ≤ 64 := by
  cases type <;> decide

/-- An integral type has a width. -/
theorem width_pos {type : Fundamental} (integral : type.isIntegral = true) : 0 < type.width := by
  cases type <;> first | contradiction | decide

/-- The least member of a balanced residue system, and the greatest. -/
theorem balanced_bounds {bits : Nat} (positive : 0 < bits) (value : Int) :
    -(twoPow (bits - 1) : Int) ≤ value.bmod (twoPow bits) ∧
      value.bmod (twoPow bits) ≤ (twoPow (bits - 1) : Int) - 1 := by
  have double := twoPow_eq_double positive
  have some : 0 < twoPow bits := Nat.pow_pos (by decide)
  have lower := Int.le_bmod (x := value) some
  have upper := Int.bmod_lt (x := value) some
  omega

/-- The representative of an integer in an integral type is an integer of the type. -/
theorem wrap_represents {type : Fundamental} (integral : type.isIntegral = true) (value : Int) :
    type.Represents (type.wrap value) := by
  unfold Represents wrap
  by_cases truth : type = bool
  · subst truth
    by_cases zero : value = 0 <;> simp [least, greatest, isSigned, zero]
  · simp only [least, greatest, truth, if_false]
    by_cases signed : type.isSigned = true
    · simp only [signed, if_true]
      exact balanced_bounds (width_pos integral) value
    · have some : (0 : Int) < twoPow type.width := by
        exact_mod_cast (Nat.pow_pos (by decide) : 0 < 2 ^ type.width)
      simp only [signed, Bool.false_eq_true, if_false]
      have below := Int.emod_lt_of_pos value some
      exact ⟨Int.emod_nonneg _ (Int.ne_of_gt some), Int.le_sub_one_of_lt below⟩

/-- A conversion to an integral type gives an integer of the type. -/
theorem convert_represents {type : Fundamental} (integral : type.isIntegral = true)
    (value : Int) : type.Represents (type.convert value) := by
  rw [convert, if_pos integral]
  exact wrap_represents integral value

/-- The promotion of an integral type is integral. -/
theorem promote_isIntegral {type : Fundamental} (integral : type.isIntegral = true) :
    type.promote.isIntegral = true := by
  cases type <;> first | rfl | contradiction

/-- Only integral types are promoted to integral ones. -/
theorem isIntegral_of_promote {type : Fundamental} (integral : type.promote.isIntegral = true) :
    type.isIntegral = true := by
  cases type <;> first | rfl | contradiction

/-- The unsigned type of the same rank as an integral type is integral. -/
theorem toUnsigned_isIntegral {type : Fundamental} (integral : type.isIntegral = true) :
    type.toUnsigned.isIntegral = true := by
  cases type <;> first | rfl | contradiction

/-- The common type of promoted integral types is integral. -/
theorem commonPromoted_isIntegral {left right : Fundamental} (leftIntegral : left.isIntegral = true)
    (rightIntegral : right.isIntegral = true) :
    (left.commonPromoted right).isIntegral = true := by
  unfold commonPromoted
  dsimp only
  -- Every branch is one of the two types, or the unsigned type of the same rank as one of them.
  repeat' split
  all_goals first
    | assumption
    | exact toUnsigned_isIntegral leftIntegral
    | exact toUnsigned_isIntegral rightIntegral

/-- The common type of integral types is integral. -/
theorem common_isIntegral {left right : Fundamental} (leftIntegral : left.isIntegral = true)
    (rightIntegral : right.isIntegral = true) : (left.common right).isIntegral = true :=
  commonPromoted_isIntegral (promote_isIntegral leftIntegral) (promote_isIntegral rightIntegral)

end Fundamental

namespace Ty

/-- The type is the integral type, possibly qualified or referred to. -/
def IsOf (type : Ty) (kind : Fundamental) : Prop :=
  type.fundamental? = some kind ∧ kind.isIntegral = true

/-- References and qualifiers stand around the same type without the outermost reference. -/
theorem unqualified_withoutReference (type : Ty) :
    type.withoutReference.unqualified = type.unqualified := by
  cases type <;> rfl

/-- A type is scalar when it is without its outermost reference. -/
theorem isScalar_withoutReference (type : Ty) : type.withoutReference.isScalar = type.isScalar := by
  simp only [isScalar, unqualified_withoutReference]

/-- A type is dependent when it is without its outermost reference. -/
theorem isDependent_withoutReference (type : Ty) :
    type.withoutReference.isDependent = type.isDependent := by
  cases type <;> rfl

/-- A type that is no reference has none to remove. -/
theorem withoutReference_of_direct {type : Ty}
    (direct : ∀ kind referee, type ≠ .reference kind referee) : type.withoutReference = type := by
  cases type with
  | reference kind referee => exact absurd rfl (direct kind referee)
  | _ => rfl

/-- What stands below references and qualifiers is dependent when the type is. -/
theorem isDependent_unqualified (type : Ty) : type.unqualified.isDependent = type.isDependent := by
  induction type with
  | reference _ _ ih | const _ ih => exact ih
  | _ => rfl

/-- A type is of an integral type when it is without its outermost reference. -/
theorem isOf_withoutReference {type : Ty} {kind : Fundamental} :
    type.withoutReference.IsOf kind ↔ type.IsOf kind := by
  simp only [IsOf, fundamental?, unqualified_withoutReference]

/-- An integral type is one of the fundamental integral types, possibly qualified or referred to. -/
theorem exists_isOf {type : Ty} (integral : type.isIntegral = true) : ∃ kind, type.IsOf kind := by
  simpa only [isIntegral, Option.any_eq_true, IsOf] using integral

namespace IsOf

variable {type : Ty} {kind : Fundamental}

/-- An integral type by itself. -/
theorem fundamental (integral : kind.isIntegral = true) : (Ty.fundamental kind).IsOf kind :=
  ⟨rfl, integral⟩

/-- The integral type below references and qualifiers. -/
theorem unqualified (isOf : type.IsOf kind) : type.unqualified = .fundamental kind := by
  have found := isOf.1
  unfold fundamental? at found
  split at found
  · next same => rw [same, Option.some.inj found]
  · contradiction

/-- A reference is of the type that it refers to. -/
theorem withoutReference (isOf : type.IsOf kind) : type.withoutReference.IsOf kind :=
  isOf_withoutReference.mpr isOf

/-- A type is of one integral type only. -/
theorem unique {other : Fundamental} (isOf : type.IsOf kind) (isOther : type.IsOf other) :
    other = kind :=
  Option.some.inj (isOther.1.symm.trans isOf.1)

/-- An integral type is scalar. -/
theorem isScalar (isOf : type.IsOf kind) : type.isScalar = true := by
  rw [Ty.isScalar, isOf.unqualified]

/-- An integral type is not dependent. -/
theorem not_dependent (isOf : type.IsOf kind) : type.isDependent = false := by
  have below := isOf.unqualified
  clear isOf
  induction type with
  | fundamental => rfl
  | reference _ _ ih | const _ ih => exact ih below
  | _ => exact nomatch below

/-- A value converted to an integral type is an integer of the type. -/
theorem convert (isOf : type.IsOf kind) (value : Int) :
    (Value.integral value).convert type = .integral (kind.convert value) := by
  simp only [Value.convert, isOf.unqualified]
  cases kind with
  | void => exact nomatch isOf.2
  | _ => rfl

/-- Operands of integral types have an integral common type. -/
theorem common {left right : Ty} {first second : Fundamental} (leftOf : left.IsOf first)
    (rightOf : right.IsOf second) :
    left.common? right = some (.fundamental (first.common second)) := by
  simp only [common?, leftOf.1, rightOf.1, leftOf.2, rightOf.2, Bool.and_self, if_true]

/-- Operands that have an integral common type are of integral types. -/
theorem of_common {left right : Ty} (isOf : ((left.common? right).getD .problem).IsOf kind) :
    ∃ first second, left.IsOf first ∧ right.IsOf second := by
  unfold common? at isOf
  split at isOf
  · next first second leftFound rightFound =>
    split at isOf
    · next integral =>
      rw [Bool.and_eq_true] at integral
      exact ⟨first, second, ⟨leftFound, integral.1⟩, ⟨rightFound, integral.2⟩⟩
    · cases isOf.1
  · cases isOf.1

/-- A choice between branches of integral types has an integral type. -/
theorem merge {left right : Ty} {first second : Fundamental} (leftOf : left.IsOf first)
    (rightOf : right.IsOf second) : ∃ kind, (left.merge right).IsOf kind := by
  unfold Ty.merge
  split
  · exact ⟨first, leftOf⟩
  · rw [leftOf.common rightOf, Option.getD_some]
    exact ⟨_, fundamental (Fundamental.common_isIntegral leftOf.2 rightOf.2)⟩

end IsOf

/-- A common type is not dependent. -/
theorem common?_independent {left right other : Ty} (independent : other.isDependent = false) :
    ((left.common? right).getD other).isDependent = false := by
  unfold common?
  split
  · split
    · rfl
    · exact independent
  · exact independent

/-- A choice between branches of types that are not dependent has such a type. -/
theorem merge_independent {left right : Ty} (independent : left.isDependent = false) :
    (left.merge right).isDependent = false := by
  unfold merge
  split
  · exact independent
  · exact common?_independent independent

end Ty

/-- The operators whose result on an integer is an integer: the sign operators and the two
negations. -/
def UnaryOperator.isArithmetic : UnaryOperator → Bool
  | plus | minus | bitwiseNot | logicalNot => true
  | _ => false

namespace UnaryOperator

variable {operator : UnaryOperator}

/-- An operator on an operand of a type that is not dependent has such a type. -/
theorem resultType_independent {type : Ty} (independent : type.isDependent = false) :
    (operator.resultType type).isDependent = false := by
  cases operator with
  | plus | minus | bitwiseNot =>
    simp only [resultType]
    split <;> rfl
  | dereference =>
    simp only [resultType]
    split
    · next pointee same => rwa [← Ty.isDependent_unqualified, same] at independent
    · rfl
  | logicalNot | sizeofPack => rfl
  | _ => exact independent

/-- The type of an arithmetic operator depends on the fundamental type of its operand only. -/
theorem resultType_congr (arithmetic : operator.isArithmetic = true) {type type' : Ty}
    (same : type.fundamental? = type'.fundamental?) :
    operator.resultType type = operator.resultType type' := by
  cases operator <;> first | contradiction | simp only [resultType, same]

/-- An arithmetic operator on an operand of integral type has an integral type. -/
theorem resultType_isOf (arithmetic : operator.isArithmetic = true) {type : Ty}
    {kind : Fundamental} (isOf : type.IsOf kind) :
    ∃ result, (operator.resultType type).IsOf result := by
  cases operator with
  | plus | minus | bitwiseNot =>
    simp only [resultType, isOf.1]
    exact ⟨_, .fundamental (Fundamental.promote_isIntegral isOf.2)⟩
  | logicalNot => exact ⟨.bool, .fundamental rfl⟩
  | _ => contradiction

/-- Where the type of an arithmetic operator is integral, it stays so for every operand that has the
integral type of the operand, if that has one. -/
theorem resultType_keeps (arithmetic : operator.isArithmetic = true) {type type' : Ty}
    (keeps : ∀ kind, type.IsOf kind → type'.IsOf kind) {result : Fundamental}
    (isOf : (operator.resultType type).IsOf result) : (operator.resultType type').IsOf result := by
  cases operator with
  | plus | minus | bitwiseNot =>
    simp only [resultType] at isOf ⊢
    split at isOf
    · next kind found =>
      have integral := Fundamental.isIntegral_of_promote (Option.some.inj isOf.1 ▸ isOf.2)
      rwa [(keeps kind ⟨found, integral⟩).1]
    · cases isOf.1
  | logicalNot => exact isOf
  | _ => contradiction

end UnaryOperator

namespace BinaryOperator

variable {operator : BinaryOperator}

/-- An operator on operands of types that are not dependent has such a type. -/
theorem resultType_independent {left right : Ty} (independent : left.isDependent = false) :
    (operator.resultType left right).isDependent = false := by
  unfold resultType
  split
  · rfl
  · split
    · exact independent
    · split
      · rfl
      · exact Ty.common?_independent rfl

/-- The type of an operator other than an assignment depends on the fundamental types of its
operands only. -/
theorem resultType_congr (arithmetic : operator.isAssignment = false) {left left' right right' : Ty}
    (sameLeft : left.fundamental? = left'.fundamental?)
    (sameRight : right.fundamental? = right'.fundamental?) :
    operator.resultType left right = operator.resultType left' right' := by
  simp only [resultType, arithmetic, Ty.common?, sameLeft, sameRight, Bool.false_eq_true, if_false]

/-- An operator other than an assignment on operands of integral types has an integral type. -/
theorem resultType_isOf (arithmetic : operator.isAssignment = false) {left right : Ty}
    {first second : Fundamental} (leftOf : left.IsOf first) (rightOf : right.IsOf second) :
    ∃ kind, (operator.resultType left right).IsOf kind := by
  simp only [resultType, arithmetic, leftOf.1, leftOf.common rightOf, Option.getD_some,
    Bool.false_eq_true, if_false]
  split
  · exact ⟨.bool, .fundamental rfl⟩
  · split
    · next type _ same =>
      obtain rfl := Option.some.inj same
      exact ⟨_, .fundamental (Fundamental.promote_isIntegral leftOf.2)⟩
    · exact ⟨_, .fundamental (Fundamental.common_isIntegral leftOf.2 rightOf.2)⟩

/-- Where the type of an operator other than an assignment is integral, it stays so for all operands
that have the integral types of the operands, as far as these have some. -/
theorem resultType_keeps (arithmetic : operator.isAssignment = false)
    {left left' right right' : Ty} (keepsLeft : ∀ kind, left.IsOf kind → left'.IsOf kind)
    (keepsRight : ∀ kind, right.IsOf kind → right'.IsOf kind) {result : Fundamental}
    (isOf : (operator.resultType left right).IsOf result) :
    (operator.resultType left' right').IsOf result := by
  simp only [resultType, arithmetic, Bool.false_eq_true, if_false] at isOf ⊢
  split
  · next boolean => rwa [if_pos boolean] at isOf
  · next other =>
    rw [if_neg other] at isOf
    split at isOf
    · next type isShift found =>
      have integral := Fundamental.isIntegral_of_promote (Option.some.inj isOf.1 ▸ isOf.2)
      simpa only [isShift, (keepsLeft type ⟨found, integral⟩).1] using isOf
    · next noShift =>
      obtain ⟨first, second, leftOf, rightOf⟩ := Ty.IsOf.of_common isOf
      rw [leftOf.common rightOf, Option.getD_some] at isOf
      rw [(keepsLeft first leftOf).1, (keepsLeft first leftOf).common (keepsRight second rightOf)]
      split
      · next type isShift _ => exact absurd leftOf.1 (noShift first isShift)
      · exact isOf

end BinaryOperator

/-- What an operator says of a type has an integral type. -/
theorem TypeOperator.resultType_isOf (operator : TypeOperator) :
    ∃ kind, operator.resultType.IsOf kind := by
  unfold resultType
  split
  · exact ⟨.sizeType, .fundamental rfl⟩
  · exact ⟨.bool, .fundamental rfl⟩

end ConstExpr
