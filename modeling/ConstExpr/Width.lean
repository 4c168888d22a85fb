/-!
# Widths of numbers

Integers are those of 128 bits of two's complement. Sizes, positions and the numbers of
declarations have 64 bits, and the parts of the identity of a template parameter 32.
-/
namespace ConstExpr

/-- How many numbers a width in bits tells apart. -/
def twoPow (bits : Nat) : Nat := Nat.pow 2 bits

/-- The integer of 128 bits of two's complement that is congruent to the given one. -/
def machineWord (value : Int) : Int := value.bmod (twoPow 128)

/-- The integer is one of 128 bits of two's complement. -/
def IsMachineWord (value : Int) : Prop :=
  -(twoPow 127 : Int) ≤ value ∧ value < (twoPow 127 : Int)

instance (value : Int) : Decidable (IsMachineWord value) := inferInstanceAs (Decidable (_ ∧ _))

/-- Sizes, positions and the numbers of declarations are below this bound. -/
def sizeBound : Nat := twoPow 64

/-- The depth and the index of a template parameter are below this bound. -/
def parameterBound : Nat := twoPow 32

end ConstExpr
