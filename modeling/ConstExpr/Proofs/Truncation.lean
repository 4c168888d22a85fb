import ConstExpr.Proofs.Evaluate.Residues

/-!
# Truncation to the width of a type

A conversion to an integral type other than `bool` gives the one integer of the type that is
congruent to the given one modulo `2 ^ width` (`convert_canonical`). In 128 bits it is done by steps
(`Fundamental.truncate?`): the low bits are masked, and `2 ^ width` is taken away when the type is
signed and the highest of them is set. The numbers in between are below `2 ^ 65` in magnitude, so no
step leaves the 128 bits, and the last one comes to the result of the conversion (`truncate?_eq`).
-/
namespace ConstExpr

/-- The result of a step of a computation in 128 bits, none if it leaves them. -/
def checkedWord (value : Int) : Option Int := if IsMachineWord value then some value else none

/-- The conjunction of the bits of two integers of 128 bits. -/
def wordAnd (first second : Int) : Int := (machineBits first &&& machineBits second).toInt

/-- The integer in a type, computed in 128 bits: its low bits, as many as the type is wide, less
`2 ^ width` when the type is signed and the highest of the bits is set. A type that has no size or
fills the 128 bits leaves the integer as it is. -/
def Fundamental.truncate? (type : Fundamental) (value : Int) : Option Int :=
  match type.size with
  | none => some value
  | some size =>
    let bits := size * 8
    if 128 ≤ bits then some value
    else do
      let modulus ← checkedWord (twoPow bits)
      let mask ← checkedWord (modulus - 1)
      let low := wordAnd value mask
      let sign := wordAnd (low / twoPow (bits - 1)) 1
      if type.isSigned ∧ sign = 1 then checkedWord (low - modulus) else some low

/-- A step that stays in the 128 bits completes. -/
theorem checkedWord_of_isMachineWord {value : Int} (word : IsMachineWord value) :
    checkedWord value = some value := if_pos word

/-- The bits of an integer are those of its remainder. -/
theorem toNat_machineBits (value : Int) :
    ((machineBits value).toNat : Int) = value % (twoPow 128 : Int) := by
  have positive := twoPow_pos 128
  have bits : (machineBits value).toNat = (value % (twoPow 128 : Int)).toNat :=
    BitVec.toNat_ofInt value
  rw [bits, Int.toNat_of_nonneg (Int.emod_nonneg value (Int.ne_of_gt positive))]

/-- The mask of a number of low bits takes the remainder. -/
theorem wordAnd_mask {bits : Nat} (narrow : bits < 128) (value : Int) :
    wordAnd value (twoPow bits - 1) = value % (twoPow bits : Int) := by
  have positive := twoPow_pos bits
  have below : (twoPow bits : Int) ≤ twoPow 127 :=
    Int.ofNat_le.mpr (Nat.pow_le_pow_right (by decide) (by omega))
  have double : (twoPow 128 : Int) = 2 * twoPow 127 := rfl
  have mask : (machineBits (twoPow bits - 1)).toNat = twoPow bits - 1 := by
    have whole := toNat_machineBits (twoPow bits - 1)
    rw [Int.emod_eq_of_lt (by omega) (by omega)] at whole
    omega
  have masked : ((machineBits value &&& machineBits (twoPow bits - 1)).toNat : Int) =
      value % (twoPow bits : Int) := by
    calc ((machineBits value &&& machineBits (twoPow bits - 1)).toNat : Int)
      _ = ((machineBits value).toNat % twoPow bits : Nat) := by
        rw [BitVec.toNat_and, mask]
        exact congrArg Nat.cast (Nat.and_two_pow_sub_one_eq_mod _ bits)
      _ = value % (twoPow 128 : Int) % (twoPow bits : Int) := by
        rw [Int.natCast_emod, toNat_machineBits]
      _ = value % (twoPow bits : Int) := Int.emod_emod_of_dvd value (twoPow_dvd (by omega))
  have small := Int.emod_lt_of_pos value positive
  rw [wordAnd, BitVec.toInt_eq_toNat_of_lt, masked]
  change 2 * (machineBits value &&& machineBits (twoPow bits - 1)).toNat < twoPow 128
  omega

/-- The lowest bit of an integer is its remainder. -/
theorem wordAnd_one (value : Int) : wordAnd value 1 = value % 2 :=
  wordAnd_mask (show 1 < 128 by decide) value

/-- The highest of a number of low bits is set in the upper half of what they represent. -/
theorem signBit_iff {half low : Int} (positive : 0 < half) (least : 0 ≤ low)
    (below : low < 2 * half) : wordAnd (low / half) 1 = 1 ↔ half ≤ low := by
  have quotient : low / half < 2 := Int.ediv_lt_of_lt_mul positive below
  have nonneg : 0 ≤ low / half := Int.ediv_nonneg least (Int.le_of_lt positive)
  have upper : 1 ≤ low / half ↔ 1 * half ≤ low := Int.le_ediv_iff_mul_le positive
  rw [wordAnd_one]
  omega

namespace Fundamental

variable {type : Fundamental}

/-- The representative in a type other than `bool`: the low bits, less `2 ^ width` in the upper half
of a signed type. -/
theorem wrap_eq_low (integral : type.isIntegral = true) (numeric : type ≠ bool) (value : Int) :
    type.wrap value =
      let low := value % (twoPow type.width : Int)
      if type.isSigned = true ∧ (twoPow (type.width - 1) : Int) ≤ low then low - twoPow type.width
      else low := by
  have double := twoPow_eq_double (width_pos integral)
  rw [wrap, if_neg numeric]
  by_cases signed : type.isSigned = true
  · rw [if_pos signed, Int.bmod_def]
    simp only [signed, true_and]
    split <;> split <;> omega
  · rw [if_neg signed, if_neg fun set => signed set.1]

/-- Truncation in 128 bits completes, and comes to what the integer is converted to. -/
theorem truncate?_eq (integral : type.isIntegral = true) (numeric : type ≠ bool) (value : Int) :
    type.truncate? value = some (type.convert value) := by
  obtain ⟨size, sized⟩ : ∃ size, type.size = some size := by
    cases type <;> first | contradiction | exact ⟨_, rfl⟩
  have bits : type.width = size * 8 := by rw [width, sized, Option.getD_some]
  have narrow := type.width_le
  have double := twoPow_eq_double (width_pos integral)
  have half := twoPow_pos (type.width - 1)
  have bound : (twoPow type.width : Int) ≤ twoPow 64 :=
    Int.ofNat_le.mpr (Nat.pow_le_pow_right (by decide) narrow)
  have room : (twoPow 64 : Int) < twoPow 127 := by decide
  have modulus : IsMachineWord (twoPow type.width) := ⟨by omega, by omega⟩
  have mask : IsMachineWord (twoPow type.width - 1) := ⟨by omega, by omega⟩
  have least := Int.emod_nonneg value (show (twoPow type.width : Int) ≠ 0 by omega)
  have below := Int.emod_lt_of_pos value (twoPow_pos type.width)
  have lowered : IsMachineWord (value % (twoPow type.width : Int) - twoPow type.width) :=
    ⟨by omega, by omega⟩
  have sign := signBit_iff half least (by omega)
  rw [convert, if_pos integral, wrap_eq_low integral numeric, truncate?, sized]
  simp only [← bits, if_neg (show ¬ 128 ≤ type.width by omega), Option.bind_eq_bind,
    checkedWord_of_isMachineWord modulus, checkedWord_of_isMachineWord mask, Option.bind_some,
    wordAnd_mask (show type.width < 128 by omega), sign, checkedWord_of_isMachineWord lowered]
  split <;> rfl

/-- A conversion to a type that is at least as wide may come before a conversion. -/
theorem convert_convert {wider : Fundamental} (integral : type.isIntegral = true)
    (numeric : type ≠ bool) (widerIntegral : wider.isIntegral = true) (widerNumeric : wider ≠ bool)
    (wide : type.width ≤ wider.width) (value : Int) :
    type.convert (wider.convert value) = type.convert value := by
  have congruent : wider.convert value ≡ value [ZMOD twoPow wider.width] :=
    (convert_isResidue widerIntegral widerNumeric value).congruent
  exact convert_congr integral numeric (congruent.of_dvd (twoPow_dvd wide))

end Fundamental

/-- What an integer becomes in a type that is of the given integral type. -/
structure ConvertsCanonically (type : Ty) (kind : Fundamental) (value : Int) : Prop where
  /-- The result is the one integer of the type that is congruent to the given one. -/
  residue : ∃ result, (Value.integral value).convert type = .integral result ∧
    kind.IsResidue value result ∧ ∀ other, kind.IsResidue value other → other = result
  /-- An integer of the type stays as it is. -/
  identity : kind.Represents value → (Value.integral value).convert type = .integral value
  /-- A conversion that is repeated changes nothing. -/
  idempotent : ((Value.integral value).convert type).convert type =
    (Value.integral value).convert type
  /-- A conversion to a type that is at least as wide may come before. -/
  through (wider : Ty) (widerKind : Fundamental) : wider.IsOf widerKind → widerKind ≠ .bool →
    kind.width ≤ widerKind.width →
      ((Value.integral value).convert wider).convert type = (Value.integral value).convert type
  /-- The steps of the computation in 128 bits do not overflow, and come to the result. -/
  computed : ∃ result, kind.truncate? value = some result ∧
    (Value.integral value).convert type = .integral result

/-- Conversion to an integral type other than `bool`, possibly qualified or referred to, gives the
canonical representative of every integer. -/
theorem convert_canonical {type : Ty} {kind : Fundamental} (isOf : type.IsOf kind)
    (numeric : kind ≠ .bool) (value : Int) : ConvertsCanonically type kind value := by
  have integral := isOf.2
  have residue := Fundamental.convert_isResidue integral numeric value
  refine ⟨⟨kind.convert value, isOf.convert value, residue, fun _ => residue.unique integral⟩,
    fun represents => ?_, ?_, fun wider widerKind widerOf widerNumeric wide => ?_,
    ⟨kind.convert value, Fundamental.truncate?_eq integral numeric value, isOf.convert value⟩⟩
  · rw [isOf.convert, Fundamental.convert_of_represents integral numeric represents]
  · rw [isOf.convert, isOf.convert,
      Fundamental.convert_of_represents integral numeric residue.represents]
  · rw [widerOf.convert, isOf.convert, isOf.convert,
      Fundamental.convert_convert integral numeric widerOf.2 widerNumeric wide]

/-- The greatest integer of 128 bits is `-1` in a reference to a constant of type `short`, also when
it becomes one of type `unsigned long` before. -/
theorem convert_canonical_of_greatest :
    (Ty.reference .lvalue (.const (.fundamental .short))).IsOf .short ∧
      Fundamental.short ≠ .bool ∧ IsMachineWord (twoPow 127 - 1) ∧
      (Value.integral (twoPow 127 - 1)).convert
        (.reference .lvalue (.const (.fundamental .short))) = .integral (-1) ∧
      ((Value.integral (twoPow 127 - 1)).convert (.fundamental .unsignedLong)).convert
        (.reference .lvalue (.const (.fundamental .short))) = .integral (-1) := by
  have isOf : (Ty.reference .lvalue (.const (.fundamental .short))).IsOf .short := ⟨rfl, rfl⟩
  have numeric : Fundamental.short ≠ .bool := by decide
  have canonical := convert_canonical isOf numeric (twoPow 127 - 1)
  have converted : (Value.integral (twoPow 127 - 1)).convert
      (.reference .lvalue (.const (.fundamental .short))) = .integral (-1) := by decide
  refine ⟨isOf, numeric, by decide, converted, ?_⟩
  rw [canonical.through (.fundamental .unsignedLong) .unsignedLong ⟨rfl, rfl⟩ (by decide)
    (by decide), converted]

end ConstExpr
