import ConstExpr.Signature.Basic

/-!
# Writers that delimit what they write

A writer separates two terms when no bytes behind them can make their encodings agree: equal
bytes come from equal terms with equal bytes behind them. Separation composes in the order of
writing, since what remains after one field is what the next field is written in front of. The
building blocks of the canonical encoding separate the numbers that fit their fields, texts and
sequences of a length that fits the length field, and optional terms. None of them looks at the
bytes behind a term.
-/
namespace ConstExpr

namespace Canonical

/-- Encodings of the two terms are equal only for equal terms with equal bytes behind them. -/
def Separates {α : Type} (write : α → List UInt8 → List UInt8) (left right : α) : Prop :=
  ∀ rest rest', write left rest = write right rest' → left = right ∧ rest = rest'

/-- A tag in front of bytes is read off them. -/
theorem tag_inj {left right : UInt8} {rest rest' : List UInt8} :
    tag left rest = tag right rest' ↔ left = right ∧ rest = rest' := by
  simp [tag]

/-- One byte tells the truth values apart. -/
theorem bool_separates (left right : Bool) : Separates bool left right := by
  intro rest rest' equal
  cases left <;> cases right <;> simp_all [bool]

/-- Eight more bits make for 256 times as many numbers. -/
theorem twoPow_succ_byte (count : Nat) :
    twoPow (8 * (count + 1)) = 256 * twoPow (8 * count) := by
  rw [Nat.mul_succ, twoPow, Nat.pow_eq, Nat.pow_add, Nat.mul_comm]
  rfl

/-- As many bytes as a number needs tell it apart from the others that need no more. -/
theorem littleEndian_separates (count left right : Nat) (leftFits : left < twoPow (8 * count))
    (rightFits : right < twoPow (8 * count)) : Separates (littleEndian count) left right := by
  intro rest rest' equal
  induction count generalizing left right with
  | zero =>
    have leftZero : left = 0 := Nat.lt_one_iff.mp leftFits
    have rightZero : right = 0 := Nat.lt_one_iff.mp rightFits
    exact ⟨leftZero.trans rightZero.symm, equal⟩
  | succ count ih =>
    rw [twoPow_succ_byte] at leftFits rightFits
    simp only [littleEndian, List.cons.injEq] at equal
    obtain ⟨low, high⟩ := equal
    have lowDigit : left % 256 = right % 256 := by
      have digits := congrArg UInt8.toNat low
      simpa only [UInt8.toNat_ofNat'] using digits
    obtain ⟨quotient, remaining⟩ := ih (left / 256) (right / 256)
      (Nat.div_lt_of_lt_mul leftFits) (Nat.div_lt_of_lt_mul rightFits) high
    exact ⟨by omega, remaining⟩

/-- Eight bytes tell the numbers of 64 bits apart. -/
theorem word_separates {left right : Nat} (leftFits : left < sizeBound)
    (rightFits : right < sizeBound) : Separates word left right :=
  littleEndian_separates 8 left right leftFits rightFits

/-- An integer of 128 bits is known from its residue. -/
theorem eq_of_residue_eq {left right : Int} (leftWord : IsMachineWord left)
    (rightWord : IsMachineWord right)
    (equal : left % (twoPow 128 : Int) = right % (twoPow 128 : Int)) : left = right := by
  simp only [IsMachineWord, show (twoPow 127 : Int) = 2 ^ 127 from rfl,
    show (twoPow 128 : Int) = 2 ^ 128 from rfl] at leftWord rightWord equal
  omega

/-- Sixteen bytes tell the integers of 128 bits apart. -/
theorem integer_separates {left right : Int} (leftWord : IsMachineWord left)
    (rightWord : IsMachineWord right) : Separates integer left right := by
  intro rest rest' equal
  have modulus : (0 : Int) < (twoPow 128 : Int) := by decide
  have bounded (value : Int) : (value % (twoPow 128 : Int)).toNat < twoPow 128 := by
    have below := Int.emod_lt_of_pos value modulus
    omega
  obtain ⟨residues, remaining⟩ :=
    littleEndian_separates 16 _ _ (bounded left) (bounded right) rest rest' equal
  have leftNonnegative := Int.emod_nonneg left (Int.ne_of_gt modulus)
  have rightNonnegative := Int.emod_nonneg right (Int.ne_of_gt modulus)
  exact ⟨eq_of_residue_eq leftWord rightWord (by omega), remaining⟩

/-- Bytes behind their number are told apart from any others. -/
theorem bytes_separates {left right : List UInt8} (leftFits : left.length < sizeBound)
    (rightFits : right.length < sizeBound) : Separates bytes left right := by
  intro rest rest' equal
  obtain ⟨lengths, content⟩ := word_separates leftFits rightFits _ _ equal
  exact List.append_inj content lengths

/-- Listing the bytes of an array from an index on puts them behind those listed before. -/
theorem toList_loop (value : ByteArray) (index : Nat) (reversed : List UInt8) :
    ByteArray.toList.loop value index reversed =
      reversed.reverse ++ value.data.toList.drop index := by
  fun_induction ByteArray.toList.loop value index reversed with
  | case1 index reversed inside ih =>
    have byte : value.get! index = value.data[index] := getElem!_pos value.data index inside
    rw [ih, List.reverse_cons, List.append_assoc, List.singleton_append, byte,
      ← Array.getElem_toList, List.getElem_cons_drop]
  | case2 index reversed outside =>
    rw [List.drop_eq_nil_of_le (Nat.le_of_not_lt outside), List.append_nil]

/-- The bytes of an array are those that its data lists. -/
theorem toList_eq_data (value : ByteArray) : value.toList = value.data.toList := by
  rw [ByteArray.toList, toList_loop, List.reverse_nil, List.nil_append, List.drop_zero]

/-- A text has as many bytes as its UTF-8 form. -/
theorem text_length (value : String) :
    value.toByteArray.toList.length = value.utf8ByteSize := by
  rw [toList_eq_data]
  rfl

/-- Texts are told apart by the bytes of their UTF-8 form. -/
theorem text_separates {left right : String} (leftFits : left.utf8ByteSize < sizeBound)
    (rightFits : right.utf8ByteSize < sizeBound) : Separates text left right := by
  intro rest rest' equal
  obtain ⟨content, remaining⟩ := bytes_separates (by rwa [text_length]) (by rwa [text_length])
    _ _ equal
  rw [toList_eq_data, toList_eq_data] at content
  exact ⟨String.toByteArray_inj.mp (ByteArray.ext (Array.toList_inj.mp content)), remaining⟩

variable {α : Type}

/-- Terms written one after the other are told apart from as many others when each is. -/
theorem foldr_separates {write : α → List UInt8 → List UInt8} {left right : List α}
    (lengths : left.length = right.length)
    (each : ∀ first ∈ left, ∀ second ∈ right, Separates write first second) :
    ∀ rest rest', left.foldr write rest = right.foldr write rest' →
      left = right ∧ rest = rest' := by
  intro rest rest' equal
  induction left generalizing right with
  | nil =>
    obtain rfl := List.eq_nil_of_length_eq_zero lengths.symm
    exact ⟨rfl, equal⟩
  | cons first lefts ih =>
    cases right with
    | nil => simp at lengths
    | cons second rights =>
      obtain ⟨rfl, tails⟩ := each first (by simp) second (by simp) _ _ equal
      obtain ⟨rfl, remaining⟩ := ih (by simpa using lengths)
        (fun one inLefts other inRights => each one (by simp [inLefts]) other (by simp [inRights]))
        tails
      exact ⟨rfl, remaining⟩

/-- Terms behind their number are told apart from any others when each is. -/
theorem counted_separates {write : α → List UInt8 → List UInt8} {left right : List α}
    (leftFits : left.length < sizeBound) (rightFits : right.length < sizeBound)
    (each : ∀ first ∈ left, ∀ second ∈ right, Separates write first second) :
    Separates (fun terms rest => word terms.length (terms.foldr write rest)) left right := by
  intro rest rest' equal
  obtain ⟨lengths, content⟩ := word_separates leftFits rightFits _ _ equal
  exact foldr_separates lengths each rest rest' content

/-- A term that may be absent is told apart when it is where it is present. -/
theorem optional_separates [Canonical α] {left right : Option α}
    (each : ∀ first ∈ left, ∀ second ∈ right, Separates write first second) :
    Separates optional left right := by
  intro rest rest' equal
  cases left with
  | none =>
    cases right with
    | none => exact ⟨rfl, (tag_inj.mp equal).2⟩
    | some second => simp [optional, tag] at equal
  | some first =>
    cases right with
    | none => simp [optional, tag] at equal
    | some second =>
      obtain ⟨rfl, remaining⟩ := each first rfl second rfl _ _ (tag_inj.mp equal).2
      exact ⟨rfl, remaining⟩

end Canonical

end ConstExpr
