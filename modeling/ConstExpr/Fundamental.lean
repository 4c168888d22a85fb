import ConstExpr.Width

/-!
# Fundamental types

The arithmetic types of the language with their sizes in the LP64 data model, their signedness,
the integral promotion and the usual arithmetic conversions. An integral type of `w` bits
represents the integers of one residue system modulo `2 ^ w`: the balanced one when it is signed,
the least one when it is unsigned.
-/
namespace ConstExpr

/-- The fundamental types, in the order in which they compare. -/
inductive Fundamental where
  | void
  | bool
  | char
  | signedChar
  | unsignedChar
  | short
  | unsignedShort
  | int
  | unsignedInt
  | long
  | unsignedLong
  | longLong
  | unsignedLongLong
  | nullPtr
  deriving DecidableEq, Repr, Inhabited, Ord

namespace Fundamental

/-- Every fundamental type once, in order. -/
def all : List Fundamental :=
  [void, bool, char, signedChar, unsignedChar, short, unsignedShort, int, unsignedInt, long,
    unsignedLong, longLong, unsignedLongLong, nullPtr]

/-- The spelling of the type in source text. -/
def text : Fundamental → String
  | void => "void"
  | bool => "bool"
  | char => "char"
  | signedChar => "signed char"
  | unsignedChar => "unsigned char"
  | short => "short"
  | unsignedShort => "unsigned short"
  | int => "int"
  | unsignedInt => "unsigned int"
  | long => "long"
  | unsignedLong => "unsigned long"
  | longLong => "long long"
  | unsignedLongLong => "unsigned long long"
  | nullPtr => "std::nullptr_t"

/-- The name of the type in the serialized form. -/
def name : Fundamental → String
  | void => "Void"
  | bool => "Bool"
  | char => "Char"
  | signedChar => "SignedChar"
  | unsignedChar => "UnsignedChar"
  | short => "Short"
  | unsignedShort => "UnsignedShort"
  | int => "Int"
  | unsignedInt => "UnsignedInt"
  | long => "Long"
  | unsignedLong => "UnsignedLong"
  | longLong => "LongLong"
  | unsignedLongLong => "UnsignedLongLong"
  | nullPtr => "NullPtr"

/-- The type of the given name in the serialized form. -/
def named? (name : String) : Option Fundamental := all.find? fun type => type.name == name

/-- The size in bytes; `void` has none. -/
def size : Fundamental → Option Nat
  | void => none
  | bool | char | signedChar | unsignedChar => some 1
  | short | unsignedShort => some 2
  | int | unsignedInt => some 4
  | long | unsignedLong | longLong | unsignedLongLong | nullPtr => some 8

/-- The width in bits, zero for a type without a size. -/
def width (type : Fundamental) : Nat := type.size.getD 0 * 8

/-- The Boolean type, the character types and the integer types. -/
def isIntegral : Fundamental → Bool
  | void | nullPtr => false
  | _ => true

/-- The types that represent negative numbers; plain `char` is one of them. -/
def isSigned : Fundamental → Bool
  | char | signedChar | short | int | long | longLong => true
  | _ => false

/-- The integer conversion rank. -/
def rank : Fundamental → Nat
  | void | nullPtr => 0
  | bool => 1
  | char | signedChar | unsignedChar => 2
  | short | unsignedShort => 3
  | int | unsignedInt => 4
  | long | unsignedLong => 5
  | longLong | unsignedLongLong => 6

/-- The unsigned type of the same rank. -/
def toUnsigned : Fundamental → Fundamental
  | char | signedChar => unsignedChar
  | short => unsignedShort
  | int => unsignedInt
  | long => unsignedLong
  | longLong => unsignedLongLong
  | other => other

/-- The integral promotion: everything of a rank below `int` becomes `int`. -/
def promote : Fundamental → Fundamental
  | bool | char | signedChar | unsignedChar | short | unsignedShort => int
  | other => other

/-- The common type of two promoted types: of equal signedness the one of higher rank, otherwise
the unsigned one unless the signed one has the higher rank, and then the signed one if it is wider
and its unsigned counterpart if it is not. -/
def commonPromoted (left right : Fundamental) : Fundamental :=
  if left = right then left
  else if left.isSigned = right.isSigned then
    if right.rank ≤ left.rank then left else right
  else
    let signed := if left.isSigned then left else right
    let unsigned := if left.isSigned then right else left
    if signed.rank ≤ unsigned.rank then unsigned
    else
      match signed.size, unsigned.size with
      | some wide, some narrow => if narrow < wide then signed else signed.toUnsigned
      | _, _ => signed.toUnsigned

/-- The usual arithmetic conversions: the type in which a binary operator computes. -/
def common (left right : Fundamental) : Fundamental :=
  commonPromoted left.promote right.promote

/-- The type of `sizeof`, `alignof` and `sizeof...`. -/
def sizeType : Fundamental := unsignedLong

/-- The least integer that the type represents. -/
def least (type : Fundamental) : Int :=
  if type.isSigned then -(twoPow (type.width - 1) : Int) else 0

/-- The greatest integer that the type represents; `bool` represents zero and one. -/
def greatest (type : Fundamental) : Int :=
  if type = bool then 1
  else if type.isSigned then (twoPow (type.width - 1) : Int) - 1
  else (twoPow type.width : Int) - 1

/-- The type represents the integer. -/
def Represents (type : Fundamental) (value : Int) : Prop :=
  type.least ≤ value ∧ value ≤ type.greatest

instance (type : Fundamental) (value : Int) : Decidable (type.Represents value) :=
  inferInstanceAs (Decidable (_ ∧ _))

/-- The representative of the integer in an integral type: its truth for `bool`, otherwise the
member of the residue system of the type's width that is congruent to it. -/
def wrap (type : Fundamental) (value : Int) : Int :=
  if type = bool then (if value = 0 then 0 else 1)
  else if type.isSigned then value.bmod (twoPow type.width)
  else value % (twoPow type.width : Int)

/-- The integer in the type: its representative in an integral type, itself in any other. -/
def convert (type : Fundamental) (value : Int) : Int :=
  if type.isIntegral then type.wrap value else value

end Fundamental

end ConstExpr
