import ConstExpr.Substitution

/-!
# Signatures of types, values and template arguments

Each shape has a tag of its own, followed by its parts in order.
-/
namespace ConstExpr

instance : Canonical Fundamental :=
  ⟨fun
    | .void, rest => Canonical.tag 0 rest
    | .bool, rest => Canonical.tag 1 rest
    | .char, rest => Canonical.tag 2 rest
    | .signedChar, rest => Canonical.tag 3 rest
    | .unsignedChar, rest => Canonical.tag 4 rest
    | .short, rest => Canonical.tag 5 rest
    | .unsignedShort, rest => Canonical.tag 6 rest
    | .int, rest => Canonical.tag 7 rest
    | .unsignedInt, rest => Canonical.tag 8 rest
    | .long, rest => Canonical.tag 9 rest
    | .unsignedLong, rest => Canonical.tag 10 rest
    | .longLong, rest => Canonical.tag 11 rest
    | .unsignedLongLong, rest => Canonical.tag 12 rest
    | .nullPtr, rest => Canonical.tag 13 rest⟩

/-- Writes a type. -/
def Ty.write : Ty → List UInt8 → List UInt8
  | fundamental type, rest => Canonical.tag 0 (Canonical.write type rest)
  | pointer pointee, rest => Canonical.tag 1 (pointee.write rest)
  | reference .lvalue referee, rest => Canonical.tag 2 (referee.write rest)
  | reference .rvalue referee, rest => Canonical.tag 3 (referee.write rest)
  | const inner, rest => Canonical.tag 4 (inner.write rest)
  | parameter mentioned, rest => Canonical.tag 5 (Canonical.write mentioned rest)
  | packExpansion pattern, rest => Canonical.tag 6 (pattern.write rest)
  | initializerList, rest => Canonical.tag 7 rest
  | functionSet, rest => Canonical.tag 8 rest
  | dependentExpression expression, rest =>
    Canonical.tag 9 (Canonical.bytes expression.bytes rest)
  | problem, rest => Canonical.tag 10 rest

instance : Canonical Ty := ⟨Ty.write⟩

mutual

/-- Writes a value. -/
def Value.write : Value → List UInt8 → List UInt8
  | .integral value, rest => Canonical.tag 0 (Canonical.integer value rest)
  | .composite elements, rest =>
    Canonical.tag 1 (Canonical.word elements.length (Value.writeAll elements rest))
  | .dependent, rest => Canonical.tag 2 rest
  | .unknown, rest => Canonical.tag 3 rest

/-- Writes values one after the other. -/
def Value.writeAll : List Value → List UInt8 → List UInt8
  | [], rest => rest
  | element :: elements, rest => element.write (Value.writeAll elements rest)

end

instance : Canonical Value := ⟨Value.write⟩

instance : Canonical TemplateArgument :=
  ⟨fun
    | .type type, rest => Canonical.tag 0 (type.write rest)
    | .nonType value type, rest => Canonical.tag 1 (value.write (type.write rest))⟩

end ConstExpr
