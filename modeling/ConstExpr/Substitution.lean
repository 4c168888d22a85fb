import ConstExpr.PackSize
import ConstExpr.Value

/-!
# Substitutions

A substitution binds template parameters to arguments, an ordinary parameter to one argument and a
parameter pack to any number of them. The first binding of a parameter stays; the entries are kept
in the order of their parameters, so substitutions that bind the same are equal.
-/
namespace ConstExpr

/-- An argument for a template parameter. -/
inductive TemplateArgument where
  /-- An argument for a type parameter. -/
  | type (type : Ty)
  /-- An argument for a non-type parameter: a value and its type. -/
  | nonType (value : Value) (type : Ty)
  deriving DecidableEq, Repr, Inhabited, Ord

/-- What a parameter is bound to. -/
inductive Bound where
  /-- One argument, for an ordinary parameter. -/
  | single (argument : TemplateArgument)
  /-- The arguments of a parameter pack. -/
  | pack (arguments : List TemplateArgument)
  deriving DecidableEq, Repr, Inhabited, Ord

/-- A binding that was refused because its parameter is bound already. -/
structure Collision where
  /-- The parameter that was bound already. -/
  parameter : ParameterId
  /-- The binding that was refused. -/
  rejected : Bound
  deriving DecidableEq, Repr

/-- The refusal in words. -/
def Collision.message (collision : Collision) : String :=
  "the template parameter " ++ collision.parameter.text ++ " is already bound"

/-- Bindings of template parameters. -/
structure Substitution where
  /-- Each bound parameter once with its binding, in the order of the parameters. -/
  entries : List (ParameterId × Bound)
  deriving DecidableEq, Repr, Inhabited

namespace Substitution

/-- The substitution that binds nothing. -/
def empty : Substitution := ⟨[]⟩

/-- The binding of a parameter. -/
def binding? (map : Substitution) (parameter : ParameterId) : Option Bound :=
  map.entries.lookup parameter

/-- Places an entry in front of the first entry of a greater parameter. -/
def place (entry : ParameterId × Bound) : List (ParameterId × Bound) → List (ParameterId × Bound)
  | [] => [entry]
  | head :: rest =>
    if compare entry.1 head.1 == .lt then entry :: head :: rest else head :: place entry rest

/-- Binds a parameter that is not bound yet; the binding of a bound one is refused. -/
def bind (map : Substitution) (parameter : ParameterId) (bound : Bound) :
    Except Collision Substitution :=
  match map.binding? parameter with
  | some _ => .error ⟨parameter, bound⟩
  | none => .ok ⟨place (parameter, bound) map.entries⟩

/-- Binds a parameter, in the place of any binding it had. -/
def rebind (map : Substitution) (parameter : ParameterId) (bound : Bound) : Substitution :=
  ⟨place (parameter, bound) (map.entries.filter fun entry => entry.1 != parameter)⟩

/-- The substitution of a list of entries, in which the last binding of a parameter counts. -/
def ofEntries (entries : List (ParameterId × Bound)) : Substitution :=
  entries.foldl (fun map entry => map.rebind entry.1 entry.2) empty

/-- The number of bound parameters. -/
def size (map : Substitution) : Nat := map.entries.length

/-- Nothing is bound. -/
def isEmpty (map : Substitution) : Bool := map.entries.isEmpty

/-- The argument that replaces a parameter: the one it is bound to, or the one at the given offset
of its pack. Without an offset a pack is not replaced. -/
def argument? (map : Substitution) (parameter : ParameterId) (offset : Option Nat) :
    Option TemplateArgument :=
  match map.binding? parameter with
  | some (.single argument) => some argument
  | some (.pack arguments) => offset.bind fun place => arguments[place]?
  | none => none

/-- The arguments of a parameter pack. -/
def pack? (map : Substitution) (parameter : ParameterId) : Option (List TemplateArgument) :=
  match map.binding? parameter with
  | some (.pack arguments) => some arguments
  | _ => none

/-- The size of the pack a parameter is bound to; an ordinary parameter is no pack. -/
def packSize (map : Substitution) (parameter : TemplateParameter) : PackSize :=
  if parameter.isPack then
    match map.binding? parameter.id with
    | some (.pack arguments) => .count arguments.length
    | some (.single _) => .failed
    | none => .deferred
  else .absent

/-- The order of entries: by parameter, then by binding. -/
def compareEntries (left right : ParameterId × Bound) : Ordering :=
  (compare left.1 right.1).then (compare left.2 right.2)

end Substitution

instance : Ord Substitution :=
  ⟨fun left right => List.compareLex Substitution.compareEntries left.entries right.entries⟩

namespace Ty

/-- The type with its bound parameters replaced. A parameter bound to a value leaves an erroneous
type; the signature that identifies a dependent expression is kept. -/
def instantiate (map : Substitution) (offset : Option Nat) : Ty → Ty
  | .parameter mentioned =>
    match map.argument? mentioned.id offset with
    | some (.type replacement) => replacement
    | some (.nonType _ _) => problem
    | none => .parameter mentioned
  | pointer inner => pointer (inner.instantiate map offset)
  | const inner => const (inner.instantiate map offset)
  | packExpansion inner => packExpansion (inner.instantiate map offset)
  | reference kind inner => reference kind (inner.instantiate map offset)
  | other => other

/-- The size of the packs that the type mentions. A pack expansion inside the type expands on its
own and does not count. -/
def packSize (map : Substitution) : Ty → PackSize
  | .parameter mentioned => map.packSize mentioned
  | pointer inner | const inner | reference _ inner => inner.packSize map
  | _ => .absent

end Ty

namespace TemplateArgument

/-- The argument still depends on a template parameter. -/
def isDependent : TemplateArgument → Bool
  | .type given => given.isDependent
  | .nonType value given => value.isDependent || given.isDependent

/-- The type of the argument mentions a template parameter. -/
def mentionsParameter : TemplateArgument → Bool
  | .type given | .nonType _ given => given.mentionsParameter

/-- The argument with the bound parameters of its type replaced. -/
def instantiate (map : Substitution) (offset : Option Nat) : TemplateArgument → TemplateArgument
  | .type given => .type (given.instantiate map offset)
  | .nonType value given => .nonType value (given.instantiate map offset)

/-- The size of the packs that the type of the argument mentions. -/
def packSize (map : Substitution) : TemplateArgument → PackSize
  | .type given | .nonType _ given => given.packSize map

/-- What an argument of a list becomes: the expansion of a pack whose size is known becomes one
argument for each element, any other argument becomes one argument. -/
def expand (map : Substitution) (offset : Option Nat) (argument : TemplateArgument) :
    List TemplateArgument :=
  match argument with
  | .type (.packExpansion pattern) =>
    match pattern.packSize map with
    | .count size =>
      (List.range size).map fun element => .type (pattern.instantiate map (some element))
    | _ => [argument.instantiate map offset]
  | _ => [argument.instantiate map offset]

end TemplateArgument

end ConstExpr
