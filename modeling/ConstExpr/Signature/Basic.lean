import ConstExpr.Identifier
import ConstExpr.Width

/-!
# Signatures

A signature is the canonical byte encoding of a term, usable as its identity. A term is written in
front of the bytes that follow it, so that a writer composes with the writers around it and a
whole tree is written in one pass. Every encoding delimits itself: a tag selects the shape of what
follows, numbers have a fixed width, and a sequence is preceded by its length.
-/
namespace ConstExpr

/-- The identity bytes of a term. -/
structure Signature where
  /-- The bytes in order. -/
  bytes : List UInt8
  deriving DecidableEq, Repr, Inhabited

instance : Ord Signature := ⟨fun left right => compare left.bytes right.bytes⟩

/-- The lowercase hexadecimal digit of a number below sixteen. -/
def hexDigit (digit : Nat) : Char :=
  if digit < 10 then Char.ofNat (48 + digit) else Char.ofNat (87 + digit)

/-- Two hexadecimal digits for each byte. -/
def Signature.text (signature : Signature) : String :=
  String.ofList (signature.bytes.flatMap fun byte =>
    [hexDigit (byte.toNat / 16), hexDigit (byte.toNat % 16)])

/-- Terms with a canonical byte encoding. -/
class Canonical (α : Type) where
  /-- Writes the term in front of the bytes that follow it. -/
  write : α → List UInt8 → List UInt8

/-- The signature of a term is its encoding with nothing after it. -/
def signature {α : Type} [Canonical α] (term : α) : Signature := ⟨Canonical.write term []⟩

namespace Canonical

/-- A byte that selects a shape. -/
def tag (value : UInt8) (rest : List UInt8) : List UInt8 := value :: rest

/-- A truth value in one byte. -/
def bool (value : Bool) (rest : List UInt8) : List UInt8 := (if value then 1 else 0) :: rest

/-- The low `count` bytes of a number, the least significant first. -/
def littleEndian : Nat → Nat → List UInt8 → List UInt8
  | 0, _, rest => rest
  | count + 1, value, rest => UInt8.ofNat value :: littleEndian count (value / 256) rest

/-- A length, a position or an identifier in eight bytes. -/
def word (value : Nat) (rest : List UInt8) : List UInt8 := littleEndian 8 value rest

/-- An integer in sixteen bytes of two's complement. -/
def integer (value : Int) (rest : List UInt8) : List UInt8 :=
  littleEndian 16 (value % (twoPow 128 : Int)).toNat rest

/-- Bytes preceded by their number. -/
def bytes (value : List UInt8) (rest : List UInt8) : List UInt8 :=
  word value.length (value ++ rest)

/-- Text as the bytes of its UTF-8 form. -/
def text (value : String) (rest : List UInt8) : List UInt8 := bytes value.toByteArray.toList rest

/-- Terms preceded by their number. -/
def sequence {α : Type} [Canonical α] (terms : List α) (rest : List UInt8) : List UInt8 :=
  word terms.length (terms.foldr write rest)

/-- A term that may be absent: zero, or one and the term. -/
def optional {α : Type} [Canonical α] : Option α → List UInt8 → List UInt8
  | none, rest => tag 0 rest
  | some term, rest => tag 1 (write term rest)

end Canonical

instance : Canonical FunctionId := ⟨fun function rest => Canonical.word function.index rest⟩

instance : Canonical VariableId := ⟨fun id rest => Canonical.word id.index rest⟩

instance : Canonical TemplateId := ⟨fun template rest => Canonical.word template.index rest⟩

instance : Canonical ParameterId :=
  ⟨fun parameter rest => Canonical.word parameter.depth (Canonical.word parameter.index rest)⟩

instance : Canonical TemplateParameter :=
  ⟨fun parameter rest => Canonical.write parameter.id (Canonical.bool parameter.isPack rest)⟩

instance : Canonical Category :=
  ⟨fun
    | .lvalue, rest => Canonical.tag 0 rest
    | .xvalue, rest => Canonical.tag 1 rest
    | .prvalue, rest => Canonical.tag 2 rest⟩

end ConstExpr
