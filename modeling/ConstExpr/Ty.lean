import ConstExpr.Fundamental
import ConstExpr.Signature.Basic

/-!
# Types

The types an expression can have. No construction normalizes anything: a reference to a reference
stays as it is written. A type is dependent when it cannot be known before its template parameters
are bound, and it mentions a parameter when a binding could change it; every type that mentions a
parameter is dependent.
-/
namespace ConstExpr

/-- The two kinds of references. -/
inductive ReferenceKind where
  | lvalue
  | rvalue
  deriving DecidableEq, Repr, Inhabited, Ord

/-- The name of the reference kind in the serialized form. -/
def ReferenceKind.name : ReferenceKind → String
  | .lvalue => "LValue"
  | .rvalue => "RValue"

/-- The reference kind of the given name in the serialized form. -/
def ReferenceKind.named? (name : String) : Option ReferenceKind :=
  [.lvalue, .rvalue].find? fun kind => kind.name == name

/-- The mark of the reference kind in source text. -/
def ReferenceKind.text : ReferenceKind → String
  | .lvalue => "&"
  | .rvalue => "&&"

/-- The types, in the order in which they compare. -/
inductive Ty where
  /-- A fundamental type. -/
  | fundamental (type : Fundamental)
  /-- A pointer. -/
  | pointer (pointee : Ty)
  /-- A reference. -/
  | reference (kind : ReferenceKind) (referee : Ty)
  /-- A constant type. -/
  | const (inner : Ty)
  /-- A type template parameter. -/
  | parameter (parameter : TemplateParameter)
  /-- The expansion of a pattern that mentions a type parameter pack. -/
  | packExpansion (pattern : Ty)
  /-- The type of a braced list. -/
  | initializerList
  /-- The marker type of an expression that names an overload set. -/
  | functionSet
  /-- The type of a type-dependent expression, identified by the expression's signature. -/
  | dependentExpression (expression : Signature)
  /-- An erroneous type. -/
  | problem
  deriving DecidableEq, Repr, Inhabited, Ord

namespace Ty

/-- The spelling of the type. -/
def text : Ty → String
  | fundamental type => type.text
  | pointer pointee => pointee.text ++ "*"
  | reference kind referee => referee.text ++ kind.text
  | const inner => "const " ++ inner.text
  | parameter mentioned => "T" ++ mentioned.id.text
  | packExpansion pattern => pattern.text ++ "..."
  | initializerList => "std::initializer_list"
  | functionSet => "<function set>"
  | dependentExpression _ => "<dependent>"
  | problem => "<problem>"

/-- The type depends on a template parameter. -/
def isDependent : Ty → Bool
  | parameter _ | packExpansion _ | dependentExpression _ => true
  | pointer inner | const inner | reference _ inner => inner.isDependent
  | fundamental _ | initializerList | functionSet | problem => false

/-- The type mentions a template parameter. -/
def mentionsParameter : Ty → Bool
  | parameter _ | dependentExpression _ => true
  | pointer inner | const inner | reference _ inner | packExpansion inner =>
    inner.mentionsParameter
  | fundamental _ | initializerList | functionSet | problem => false

/-- The type under all its outermost references and constant qualifiers. -/
def unqualified : Ty → Ty
  | reference _ referee => referee.unqualified
  | const inner => inner.unqualified
  | other => other

/-- The type under its outermost reference, if it is one. -/
def withoutReference : Ty → Ty
  | reference _ referee => referee
  | other => other

/-- The fundamental type under references and qualifiers. -/
def fundamental? (type : Ty) : Option Fundamental :=
  match type.unqualified with
  | fundamental found => some found
  | _ => none

/-- An integral type, possibly qualified or referred to. -/
def isIntegral (type : Ty) : Bool := type.fundamental?.any Fundamental.isIntegral

/-- A pointer, possibly qualified or referred to. -/
def isPointer (type : Ty) : Bool :=
  match type.unqualified with
  | pointer _ => true
  | _ => false

/-- A fundamental type or a pointer, possibly qualified or referred to. -/
def isScalar (type : Ty) : Bool :=
  match type.unqualified with
  | fundamental _ | pointer _ => true
  | _ => false

/-- The erroneous type itself. -/
def isProblem : Ty → Bool
  | problem => true
  | _ => false

/-- A type whose outermost constructor is the constant qualifier. -/
def isConst : Ty → Bool
  | const _ => true
  | _ => false

/-- The value of `sizeof`, where it can be determined. -/
def size (type : Ty) : Option Nat :=
  match type.unqualified with
  | fundamental found => found.size
  | pointer _ => some 8
  | _ => none

/-- The value of `alignof`: every complete type is aligned to its size. -/
def alignment (type : Ty) : Option Nat := type.size

/-- The category of a call that returns the type, or of a cast to it. -/
def resultCategory : Ty → Category
  | reference .lvalue _ => .lvalue
  | reference .rvalue _ => .xvalue
  | _ => .prvalue

/-- Every type that mentions a parameter is dependent. -/
theorem isDependent_of_mentionsParameter {type : Ty} (mentions : type.mentionsParameter = true) :
    type.isDependent = true := by
  induction type with
  | pointer _ ih | const _ ih | reference _ _ ih =>
    simp only [mentionsParameter] at mentions
    simp [isDependent, ih mentions]
  | parameter _ | dependentExpression _ | packExpansion _ _ => rfl
  | fundamental _ | initializerList | functionSet | problem => cases mentions

end Ty

end ConstExpr
