import ConstExpr.Identifier

/-!
# Step budgets and failures

Every node that a constant evaluation visits takes one step from a budget that the whole
evaluation shares; a spent budget refuses every further step. A failure says why an evaluation has
no answer. A refused step is blamed on the outermost call whose body was being evaluated: the calls
name themselves while the evaluation is given up, the innermost first, so the outermost name stays.
-/
namespace ConstExpr

/-- The reasons for which a constant evaluation fails, in the order in which they compare. -/
inductive Failure where
  /-- The budget was spent after this many steps. -/
  | stepLimitExceeded (performed limit : Nat) (call : Option FunctionId)
  /-- A function was called that is not declared for constant expressions. -/
  | nonConstexprFunction (function : FunctionId)
  /-- A call did not resolve to exactly one function. -/
  | unresolvedOverload
  /-- A function was called that has no definition. -/
  | missingDefinition (function : FunctionId)
  /-- A division by zero, or a remainder of one. -/
  | divisionByZero
  /-- A shift by a negative amount, or by the width of the operand or more. -/
  | invalidShift
  /-- An operand depends on a template parameter. -/
  | dependentOperand
  /-- An object would be modified. -/
  | modification
  deriving DecidableEq, Repr, Inhabited, Ord

namespace Failure

/-- The failure in words. -/
def message : Failure → String
  | stepLimitExceeded performed limit _ =>
    "constant evaluation exceeded the limit of " ++ toString limit ++ " steps after " ++
      toString performed ++ " steps"
  | nonConstexprFunction function => function.text ++ " isn't declared constexpr"
  | unresolvedOverload => "the call doesn't resolve to exactly one function"
  | missingDefinition function => function.text ++ " has no definition"
  | divisionByZero => "division by zero"
  | invalidShift => "the shift amount is negative or exceeds the width of the operand"
  | dependentOperand => "an operand depends on a template parameter"
  | modification => "the expression modifies an object"

/-- The failure of the body of a call: a refused step is blamed on the call. -/
def withinCall (function : FunctionId) : Failure → Failure
  | stepLimitExceeded performed limit _ => stepLimitExceeded performed limit (some function)
  | other => other

end Failure

/-- The steps that an evaluation may perform and those that it has performed. -/
structure Budget where
  /-- The number of steps performed so far. -/
  performed : Nat
  /-- The number of steps that can be performed in all. -/
  limit : Nat
  deriving DecidableEq, Repr, Inhabited

/-- The number of steps of a budget unless asked otherwise. -/
def defaultLimit : Nat := 1024

namespace Budget

/-- A budget of which nothing is spent. -/
def fresh (limit : Nat) : Budget := ⟨0, limit⟩

/-- No step is left. -/
def isExhausted (budget : Budget) : Bool := budget.limit ≤ budget.performed

/-- The number of steps left. -/
def remaining (budget : Budget) : Nat := budget.limit - budget.performed

/-- The budget as it is shown, with more behind it than its numbers. -/
def text (budget : Budget) : String :=
  "ConstexprContext \x7b steps_performed: " ++ toString budget.performed ++ ", limit: " ++
    toString budget.limit ++ ", .. \x7d"

end Budget

/-- A part of a constant evaluation: it spends steps, whether it succeeds or fails. -/
abbrev Evaluation := EStateM Failure Budget

namespace Evaluation

/-- Performs one step, which a spent budget refuses. -/
def step : Evaluation Unit := fun budget =>
  if budget.isExhausted then
    .error (.stepLimitExceeded budget.performed budget.limit none) budget
  else .ok () { budget with performed := budget.performed + 1 }

/-- Performs the given number of steps, up to the first that is refused. -/
def steps : Nat → Evaluation Unit
  | 0 => pure ()
  | count + 1 => do
    step
    steps count

/-- Evaluates the body of a call. -/
def withinCall {α : Type} (function : FunctionId) (body : Evaluation α) : Evaluation α :=
  fun budget =>
    match body budget with
    | .ok result rest => .ok result rest
    | .error failure rest => .error (failure.withinCall function) rest

end Evaluation

end ConstExpr
