import ConstExpr.Expr.Basic
import ConstExpr.Signature.Term

/-!
# Signatures of expressions

The form of a node has a tag of its own, followed by its parts in source order; the template
definition comes last. Trees have the same signature exactly when they are the same tree.
-/
namespace ConstExpr

namespace Expr

mutual

/-- Writes a tree: its form, then its template definition. -/
def write : Expr → List UInt8 → List UInt8
  | node form template, rest => writeForm form (Canonical.optional template rest)

/-- Writes a form with all below it. -/
def writeForm : Form Expr → List UInt8 → List UInt8
  | .fixed type value category, rest =>
    Canonical.tag 0 (type.write (value.write (Canonical.write category rest)))
  | .templateRef parameter type, rest =>
    Canonical.tag 1 (Canonical.tag 0 (Canonical.write parameter (type.write rest)))
  | .parameterRef position type isPack, rest =>
    Canonical.tag 1 (Canonical.tag 1
      (Canonical.word position (type.write (Canonical.bool isPack rest))))
  | .variableRef id type, rest =>
    Canonical.tag 1 (Canonical.tag 2 (Canonical.write id (type.write rest)))
  | .unary operator operand, rest =>
    Canonical.tag 2 (Canonical.write operator (operand.write rest))
  | .binary operator left right, rest =>
    Canonical.tag 3 (Canonical.write operator (left.write (right.write rest)))
  | .typeTrait operator type, rest =>
    Canonical.tag 4 (Canonical.write operator (type.write rest))
  | .conditional condition positive negative, rest =>
    Canonical.tag 5 (condition.write (positive.write (negative.write rest)))
  | .comma operands, rest =>
    Canonical.tag 6 (Canonical.word operands.length (writeAll operands rest))
  | .call callee arguments, rest =>
    Canonical.tag 7 (callee.write
      (Canonical.word arguments.length (writeAll arguments rest)))
  | .overloads set, rest =>
    Canonical.tag 8 (Canonical.sequence set.candidates (Canonical.text set.name
      (match set.templateArguments with
        | none => Canonical.tag 0 rest
        | some arguments => Canonical.tag 1 (Canonical.sequence arguments rest))))
  | .braced clauses, rest =>
    Canonical.tag 9 (Canonical.word clauses.length (writeAll clauses rest))
  | .construct type arguments, rest =>
    Canonical.tag 10 (type.write
      (Canonical.word arguments.length (writeAll arguments rest)))
  | .expansion pattern, rest => Canonical.tag 11 (pattern.write rest)

/-- Writes trees one after the other. -/
def writeAll : List Expr → List UInt8 → List UInt8
  | [], rest => rest
  | expr :: exprs, rest => expr.write (writeAll exprs rest)

end

end Expr

instance : Canonical Expr := ⟨Expr.write⟩

end ConstExpr
