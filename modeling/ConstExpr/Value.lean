import ConstExpr.Ty

/-!
# Compile-time values

The value of an expression: an integer, the elements of a braced list, or the reason why there is
none yet. Conversion to a type replaces an integer by its representative in that type.
-/
namespace ConstExpr

/-- The values, in the order in which they compare. -/
inductive Value where
  /-- The value of an integral, Boolean or character expression. -/
  | integral (value : Int)
  /-- The value of a braced list, element by element. -/
  | composite (elements : List Value)
  /-- The value depends on a template parameter that is not bound yet. -/
  | dependent
  /-- There is no compile-time value. -/
  | unknown
  deriving Repr, Inhabited

namespace Value

mutual

/-- Equality of values, decided by their structure. -/
def decEq : (left right : Value) → Decidable (left = right)
  | integral left, integral right =>
    if same : left = right then isTrue (congrArg integral same)
    else isFalse fun equal => same (integral.inj equal)
  | composite left, composite right =>
    match decEqList left right with
    | isTrue same => isTrue (congrArg composite same)
    | isFalse differ => isFalse fun equal => differ (composite.inj equal)
  | dependent, dependent => isTrue rfl
  | unknown, unknown => isTrue rfl
  | integral _, composite _ | integral _, dependent | integral _, unknown => isFalse nofun
  | composite _, integral _ | composite _, dependent | composite _, unknown => isFalse nofun
  | dependent, integral _ | dependent, composite _ | dependent, unknown => isFalse nofun
  | unknown, integral _ | unknown, composite _ | unknown, dependent => isFalse nofun

/-- Equality of lists of values. -/
def decEqList : (left right : List Value) → Decidable (left = right)
  | [], [] => isTrue rfl
  | [], _ :: _ | _ :: _, [] => isFalse nofun
  | left :: lefts, right :: rights =>
    match decEq left right with
    | isFalse differ => isFalse fun equal => differ (List.cons.inj equal).1
    | isTrue same =>
      match decEqList lefts rights with
      | isFalse differ => isFalse fun equal => differ (List.cons.inj equal).2
      | isTrue rest => isTrue (by rw [same, rest])

end

instance : DecidableEq Value := decEq

mutual

/-- The order of values: integers, then lists by their first difference, then the two values
without content. -/
def order : Value → Value → Ordering
  | integral left, integral right => compare left right
  | integral _, _ => .lt
  | composite _, integral _ => .gt
  | composite left, composite right => orderList left right
  | composite _, _ => .lt
  | dependent, dependent => .eq
  | dependent, unknown => .lt
  | dependent, _ => .gt
  | unknown, unknown => .eq
  | unknown, _ => .gt

/-- Lists compare by their first difference, a list before its extensions. -/
def orderList : List Value → List Value → Ordering
  | [], [] => .eq
  | [], _ :: _ => .lt
  | _ :: _, [] => .gt
  | left :: lefts, right :: rights => (order left right).then (orderList lefts rights)

end

instance : Ord Value := ⟨order⟩

/-- The integer one for true and zero for false. -/
def ofBool (truth : Bool) : Value := integral (if truth then 1 else 0)

mutual

/-- The spelling of the value. -/
def text : Value → String
  | integral value => toString value
  | composite elements => "\x7b" ++ textList elements ++ "\x7d"
  | dependent => "<dependent>"
  | unknown => "<unknown>"

/-- The elements of a list, set apart by commas. -/
def textList : List Value → String
  | [] => ""
  | [element] => element.text
  | element :: elements => element.text ++ ", " ++ textList elements

end

mutual

/-- The value, or a part of it, depends on a template parameter. -/
def isDependent : Value → Bool
  | dependent => true
  | composite elements => anyDependent elements
  | integral _ | unknown => false

/-- Some value of the list depends on a template parameter. -/
def anyDependent : List Value → Bool
  | [] => false
  | element :: elements => element.isDependent || anyDependent elements

end

mutual

/-- The value is known in all its parts. -/
def isKnown : Value → Bool
  | integral _ => true
  | composite elements => allKnown elements
  | dependent | unknown => false

/-- Every value of the list is known. -/
def allKnown : List Value → Bool
  | [] => true
  | element :: elements => element.isKnown && allKnown elements

end

/-- The integer, where the value is one. -/
def integer? : Value → Option Int
  | integral value => some value
  | _ => none

/-- The truth of an integer. -/
def truth? : Value → Option Bool
  | integral value => some (value != 0)
  | _ => none

/-- The value in the given type: an integer becomes its representative in an integral type, it has
no value of type `void` or of an erroneous type, and it is kept in any other type. Values other
than integers are kept. -/
def convert (type : Ty) : Value → Value
  | integral value =>
    match type.unqualified with
    | .fundamental .void | .problem => unknown
    | .fundamental target => integral (target.convert value)
    | _ => integral value
  | other => other

end Value

end ConstExpr
