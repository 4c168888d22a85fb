import ConstExpr.Evaluate.Arithmetic
import ConstExpr.Proofs.Conversion
import Mathlib.Data.Int.Bitwise
import Mathlib.Data.Int.ModEq

/-!
# Residues of unbounded integers

Computing in 128 bits of two's complement keeps residues modulo `2 ^ 128`, for sums and products as
for the bits of the operands, and no integral type is wider. So the representative of a result in an
integral type is the one of the unbounded result (`Fundamental.IsResidue`), whatever was lost in
between.
-/
namespace ConstExpr

/-- A smaller power of two divides a greater one. -/
theorem twoPow_dvd {bits other : Nat} (least : bits ≤ other) :
    (twoPow bits : Int) ∣ (twoPow other : Int) :=
  Int.natCast_dvd_natCast.mpr (Nat.pow_dvd_pow 2 least)

/-- A power of two is positive. -/
theorem twoPow_pos (bits : Nat) : (0 : Int) < twoPow bits :=
  Int.natCast_pos.mpr (Nat.pow_pos (by decide))

section Machine

/-- The integer of 128 bits is congruent to the given one. -/
theorem machineWord_modEq (value : Int) : machineWord value ≡ value [ZMOD twoPow 128] :=
  Int.bmod_emod

/-- The integer that is read from the bits of an integer is that of 128 bits. -/
theorem toInt_machineBits (value : Int) : (machineBits value).toInt = machineWord value :=
  BitVec.toInt_ofInt value

/-- The bits of an integer are those of its two's complement of any length. -/
theorem getLsbD_machineBits (value : Int) {place : Nat} (below : place < 128) :
    (machineBits value).getLsbD place = value.testBit place := by
  cases value with
  | ofNat magnitude =>
    have bits : machineBits (.ofNat magnitude) = BitVec.ofNat 128 magnitude :=
      BitVec.ofInt_natCast 128 magnitude
    rw [bits, BitVec.getLsbD_ofNat, decide_eq_true below, Bool.true_and]
    rfl
  | negSucc magnitude =>
    have bits : machineBits (.negSucc magnitude) = ~~~BitVec.ofNat 128 magnitude :=
      BitVec.ofInt_negSucc_eq_not_ofNat
    rw [bits, BitVec.getLsbD_not, BitVec.getLsbD_ofNat, decide_eq_true below, Bool.true_and,
      Bool.true_and]
    rfl

variable (first second : Int)

/-- The conjunction of bits is that of the integers. -/
theorem machineBits_land :
    machineBits first &&& machineBits second = machineBits (first.land second) := by
  refine BitVec.eq_of_getLsbD_eq fun place below => ?_
  rw [BitVec.getLsbD_and]
  simp only [getLsbD_machineBits _ below, Int.testBit_land]

/-- The disjunction of bits is that of the integers. -/
theorem machineBits_lor :
    machineBits first ||| machineBits second = machineBits (first.lor second) := by
  refine BitVec.eq_of_getLsbD_eq fun place below => ?_
  rw [BitVec.getLsbD_or]
  simp only [getLsbD_machineBits _ below, Int.testBit_lor]

/-- The exclusive disjunction of bits is that of the integers. -/
theorem machineBits_xor :
    machineBits first ^^^ machineBits second = machineBits (first.xor second) := by
  refine BitVec.eq_of_getLsbD_eq fun place below => ?_
  rw [BitVec.getLsbD_xor]
  simp only [getLsbD_machineBits _ below, Int.testBit_lxor]

end Machine

namespace Fundamental

variable {type : Fundamental} {value other exact : Int}

/-- A type represents integers that are less than `2 ^ width` apart. -/
theorem greatest_sub_least_lt (integral : type.isIntegral = true) :
    type.greatest - type.least < twoPow type.width := by
  cases type <;> first | contradiction | decide

/-- The integers that a type represents are less than `2 ^ width` in magnitude. -/
theorem abs_lt_of_represents (integral : type.isIntegral = true)
    (represents : type.Represents value) : |value| < twoPow type.width := by
  have lower : -(twoPow type.width : Int) < type.least := by
    cases type <;> first | contradiction | decide
  have upper : type.greatest < (twoPow type.width : Int) := by
    cases type <;> first | contradiction | decide
  have least := represents.1
  have greatest := represents.2
  exact abs_lt.mpr ⟨by omega, by omega⟩

/-- The value is the integer of the type that is congruent to the exact one modulo the number of
integers that the width of the type tells apart. -/
structure IsResidue (type : Fundamental) (exact value : Int) : Prop where
  /-- The type represents the value. -/
  represents : type.Represents value
  /-- The value is congruent to the exact integer. -/
  congruent : value ≡ exact [ZMOD twoPow type.width]

/-- Only one integer of a type is congruent to a given one. -/
theorem IsResidue.unique (integral : type.isIntegral = true) (residue : type.IsResidue exact value)
    (another : type.IsResidue exact other) : other = value := by
  have apart : (twoPow type.width : Int) ∣ other - value :=
    (residue.congruent.trans another.congruent.symm).dvd
  have near : |other - value| < twoPow type.width := by
    have span := greatest_sub_least_lt integral
    have ⟨least, greatest⟩ := residue.represents
    have ⟨otherLeast, otherGreatest⟩ := another.represents
    exact abs_lt.mpr ⟨by omega, by omega⟩
  exact Int.sub_eq_zero.mp (Int.eq_zero_of_abs_lt_dvd apart near)

/-- The representative of an integer in a type other than `bool` is congruent to it. -/
theorem wrap_modEq (numeric : type ≠ bool) (value : Int) :
    type.wrap value ≡ value [ZMOD twoPow type.width] := by
  rw [wrap, if_neg numeric]
  split
  · exact Int.bmod_emod
  · exact Int.mod_modEq _ _

/-- Conversion to an integral type other than `bool` finds the residue. -/
theorem convert_isResidue (integral : type.isIntegral = true) (numeric : type ≠ bool)
    (value : Int) : type.IsResidue value (type.convert value) where
  represents := convert_represents integral value
  congruent := by
    rw [convert, if_pos integral]
    exact wrap_modEq numeric value

/-- Integers that are congruent are converted to the same. -/
theorem convert_congr (integral : type.isIntegral = true) (numeric : type ≠ bool)
    (congruent : value ≡ other [ZMOD twoPow type.width]) :
    type.convert value = type.convert other := by
  have residue := convert_isResidue integral numeric value
  have another : type.IsResidue value (type.convert other) :=
    ⟨convert_represents integral other,
      (convert_isResidue integral numeric other).congruent.trans congruent.symm⟩
  exact (residue.unique integral another).symm

/-- An integer of a type is converted to itself. -/
theorem convert_of_represents (integral : type.isIntegral = true) (numeric : type ≠ bool)
    (represents : type.Represents value) : type.convert value = value := by
  have own : type.IsResidue value value := ⟨represents, rfl⟩
  exact own.unique integral (convert_isResidue integral numeric value)

/-- What is computed in 128 bits is converted to the residue of the exact result. -/
theorem convert_isResidue_of_modEq (integral : type.isIntegral = true) (numeric : type ≠ bool)
    (computed : value ≡ exact [ZMOD twoPow 128]) : type.IsResidue exact (type.convert value) where
  represents := convert_represents integral value
  congruent := (convert_isResidue integral numeric value).congruent.trans
    (computed.of_dvd (twoPow_dvd (Nat.le_trans type.width_le (by decide))))

/-- A type at least as wide as that of an integer converts nothing else to zero. -/
theorem convert_eq_zero_iff {source : Fundamental} (integral : type.isIntegral = true)
    (numeric : type ≠ bool) (sourceIntegral : source.isIntegral = true)
    (wide : source.width ≤ type.width) (represents : source.Represents value) :
    type.convert value = 0 ↔ value = 0 := by
  have congruent := (convert_isResidue integral numeric value).congruent
  constructor
  · intro zero
    rw [zero] at congruent
    have multiple : (twoPow source.width : Int) ∣ value :=
      (twoPow_dvd wide).trans (Int.modEq_zero_iff_dvd.mp congruent.symm)
    exact Int.eq_zero_of_abs_lt_dvd multiple (abs_lt_of_represents sourceIntegral represents)
  · rintro rfl
    have zero : type.Represents 0 := by
      cases type <;> first | contradiction | decide
    exact convert_of_represents integral numeric zero

/-- A promoted type is not `bool`. -/
theorem promote_ne_bool (type : Fundamental) : type.promote ≠ bool := by
  cases type <;> decide

/-- A common type is not `bool`. -/
theorem common_ne_bool (left right : Fundamental) : left.common right ≠ bool := by
  cases left <;> cases right <;> decide

/-- A common type is at least as wide as the right one of the types. -/
theorem width_le_common {left right : Fundamental} (leftIntegral : left.isIntegral = true)
    (rightIntegral : right.isIntegral = true) : right.width ≤ (left.common right).width := by
  cases left <;> first
    | contradiction
    | cases right <;> first | contradiction | decide

end Fundamental

end ConstExpr
