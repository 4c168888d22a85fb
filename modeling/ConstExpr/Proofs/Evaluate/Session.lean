import ConstExpr.Proofs.Evaluate.Metering

/-!
# Sessions

A budget can be used for one operation after another: single steps, evaluations of trees and
values of trees, whatever comes out of them. What every operation keeps is that it spends a number
of steps that were left (`Operation.perform_spends`), so a whole session does, and the budget stays
the one it started from, with more of it spent (`session_budgeted`).
-/
namespace ConstExpr

open Evaluation

/-- What a budget can be used for. -/
inductive Operation where
  /-- A single step. -/
  | step
  /-- The evaluation of a tree, with the given expressions for the function parameters. -/
  | compute (parameters : List Expr) (expr : Expr)
  /-- The value of a tree. -/
  | value (expr : Expr)

/-- What comes out of an operation. -/
inductive Answer where
  /-- The step was performed. -/
  | stepped
  /-- What a tree evaluates to. -/
  | computed (result : Expr)
  /-- The value of a tree. -/
  | valued (value : Value)

namespace Operation

/-- Carries the operation out, by evaluating trees with `recur`. -/
def performWith (recur : List Expr → Expr → Evaluation Expr) : Operation → Evaluation Answer
  | step => do
    Evaluation.step
    return .stepped
  | compute parameters expr => return .computed (← recur parameters expr)
  | value expr => return .valued (← valueWith recur expr)

/-- Carries the operation out. -/
def perform (scope : Scope) : Operation → Evaluation Answer
  | step => do
    Evaluation.step
    return .stepped
  | compute parameters expr => return .computed (← expr.evaluate scope parameters)
  | value expr => return .valued (← expr.constantValue scope)

/-- The operation starts with a step, whatever tree it is about; the value of a dependent tree is
refused before that. -/
def startsWithStep : Operation → Bool
  | step | compute .. => true
  | value _ => false

end Operation

/-- The budget that is left after operations in a row, whether they succeed or fail. -/
def Scope.spentBy (scope : Scope) : List Operation → Budget → Budget
  | [], budget => budget
  | operation :: operations, budget =>
    scope.spentBy operations ((operation.perform scope).rest budget)

/-- In a session with the given limit, the operation keeps to what is left of the budget. -/
structure Operation.Budgeted (scope : Scope) (limit : Nat) (budget : Budget)
    (operation : Operation) : Prop where
  /-- The operation ends: its recursion is never entered deeper than steps are left, whatever would
  happen there. -/
  ends : ∀ below depth, budget.remaining < depth →
    operation.performWith (unrolled scope below depth) budget = operation.perform scope budget
  /-- The limit is the one that the session started with. -/
  limit_before : budget.limit = limit
  /-- The operation does not change the limit. -/
  limit_after : ((operation.perform scope).rest budget).limit = limit
  /-- No performed step is taken back. -/
  monotone : budget.performed ≤ ((operation.perform scope).rest budget).performed
  /-- No more steps are performed than the limit allows. -/
  within : ((operation.perform scope).rest budget).performed ≤ limit
  /-- A refused step reports the limit, to which the budget is then spent. -/
  refused : ∀ performed limit' call,
    (operation.perform scope).outcome budget = .error (.stepLimitExceeded performed limit' call) →
      performed = limit ∧ limit' = limit ∧ (operation.perform scope).rest budget = ⟨limit, limit⟩
  /-- A spent budget stays as it is in all that follows, where an operation that starts with a step
  is refused it, outside of any call. -/
  exhausted : budget.isExhausted = true → ∀ later : List Operation,
    scope.spentBy later budget = budget ∧
      (operation.startsWithStep = true →
        operation.perform scope (scope.spentBy later budget) =
          .error (.stepLimitExceeded limit limit none) budget)

section Lemmas

variable {α : Type} {run : Evaluation α}

/-- What is metered spends steps that are left. -/
theorem Evaluation.Metered.spends (metered : Metered run) (budget : Budget) :
    ∃ steps ≤ budget.remaining, run.rest budget = budget.spend steps := by
  have runsOut (out : run.RunsOut budget) :
      ∃ steps ≤ budget.remaining, run.rest budget = budget.spend steps := by
    obtain ⟨call, failed⟩ := out
    exact ⟨budget.remaining, Nat.le_refl _, by simp only [rest, failed]⟩
  obtain ⟨outcome, steps, completes⟩ | diverges := metered
  · by_cases paid : steps ≤ budget.remaining
    · exact ⟨steps, paid, rest_of_reply (completes.enough budget paid)⟩
    · exact runsOut (completes.short budget (Nat.lt_of_not_le paid))
  · exact runsOut (diverges budget)

/-- What is metered is refused a step only when it runs out. -/
theorem Evaluation.Metered.runsOut (metered : Metered run) {budget : Budget}
    {performed limit : Nat} {call : Option FunctionId}
    (failed : run.outcome budget = .error (.stepLimitExceeded performed limit call)) :
    run.RunsOut budget := by
  obtain ⟨outcome, steps, completes⟩ | diverges := metered
  · by_cases paid : steps ≤ budget.remaining
    · have proper := completes.proper (.stepLimitExceeded performed limit call)
        ((outcome_of_reply (completes.enough budget paid)).symm.trans failed)
      contradiction
    · exact completes.short budget (Nat.lt_of_not_le paid)
  · exact diverges budget

end Lemmas

variable (scope : Scope)

namespace Operation

/-- Operations are related when the evaluations of trees are. -/
theorem performWith_related {related : {α : Type} → Evaluation α → Evaluation α → Prop}
    (closed : Congruence related) (stepped : related Evaluation.step Evaluation.step)
    {recur recur' : List Expr → Expr → Evaluation Expr}
    (children : ∀ parameters expr, related (recur parameters expr) (recur' parameters expr))
    (operation : Operation) :
    related (operation.performWith recur) (operation.performWith recur') := by
  cases operation with
  | step => exact closed.bind stepped fun _ => closed.pure _
  | compute parameters expr => exact closed.bind (children parameters expr) fun _ => closed.pure _
  | value expr => exact closed.bind (valueWith_related closed children expr) fun _ => closed.pure _

/-- Operations evaluate trees as `Expr.evaluate` does. -/
theorem perform_eq (operation : Operation) :
    operation.perform scope =
      operation.performWith fun parameters expr => expr.evaluate scope parameters := by
  cases operation <;> rfl

/-- Every operation is metered. -/
theorem perform_metered (operation : Operation) : Metered (operation.perform scope) := by
  cases operation with
  | step => exact metered_step.bind fun _ => metered_pure _
  | compute parameters expr =>
    exact (expr.evaluate_metered scope parameters).bind fun _ => metered_pure _
  | value expr => exact (expr.constantValue_metered scope).bind fun _ => metered_pure _

/-- Every operation spends steps that are left. -/
theorem perform_spends (operation : Operation) (budget : Budget) :
    ∃ steps ≤ budget.remaining, (operation.perform scope).rest budget = budget.spend steps :=
  (operation.perform_metered scope).spends budget

/-- Every operation ends. -/
theorem perform_ends (operation : Operation) (below : List Expr → Expr → Evaluation Expr)
    {depth : Nat} {budget : Budget} (deep : budget.remaining < depth) :
    operation.performWith (unrolled scope below depth) budget = operation.perform scope budget := by
  rw [perform_eq]
  exact (performWith_related (agreeBelow_congruence depth) (agreeBelow_step depth)
    (unrolled_agrees below depth) operation budget deep).1

end Operation

/-- Operations in a row spend steps that are left. -/
theorem spentBy_spends (operations : List Operation) (budget : Budget) :
    ∃ steps ≤ budget.remaining, scope.spentBy operations budget = budget.spend steps := by
  induction operations generalizing budget with
  | nil => exact ⟨0, Nat.zero_le _, rfl⟩
  | cons operation operations ih =>
    obtain ⟨first, paid, spent⟩ := operation.perform_spends scope budget
    obtain ⟨later, paidLater, spentLater⟩ := ih (budget.spend first)
    rw [Budget.remaining_spend] at paidLater
    refine ⟨first + later, by omega, ?_⟩
    rw [Scope.spentBy, spent, spentLater, Budget.spend_spend]

/-- A spent budget stays as it is. -/
theorem spentBy_of_exhausted (operations : List Operation) {budget : Budget}
    (exhausted : budget.isExhausted = true) : scope.spentBy operations budget = budget := by
  obtain ⟨steps, paid, spent⟩ := spentBy_spends scope operations budget
  simp only [Budget.isExhausted, decide_eq_true_eq] at exhausted
  have none : steps = 0 := by
    simp only [Budget.remaining] at paid
    omega
  rw [spent, none]
  rfl

/-- An operation that starts with a step is refused it by a spent budget. -/
theorem perform_of_exhausted {operation : Operation} (starts : operation.startsWithStep = true)
    {budget : Budget} (exhausted : budget.isExhausted = true) :
    operation.perform scope budget =
      .error (.stepLimitExceeded budget.performed budget.limit none) budget := by
  cases operation with
  | step => simp only [Operation.perform, bind_apply, step_of_exhausted exhausted]
  | compute parameters expr =>
    rw [Operation.perform, evaluate_eq]
    simp only [bind_apply, step_of_exhausted exhausted]
  | value expr => contradiction

/-- After any operations on a fresh budget, every operation ends within it and leaves it with the
same limit and no step taken back; a refused step reports the limit and finds it spent, and from
then on every step is refused. -/
theorem session_budgeted (limit : Nat) (earlier : List Operation) (operation : Operation) :
    operation.Budgeted scope limit (scope.spentBy earlier (Budget.fresh limit)) := by
  obtain ⟨before, paidBefore, spentBefore⟩ := spentBy_spends scope earlier (Budget.fresh limit)
  have fits : before ≤ limit := paidBefore
  have start : scope.spentBy earlier (Budget.fresh limit) = ⟨before, limit⟩ := by
    rw [spentBefore, Budget.spend, Budget.fresh, Nat.zero_add]
  rw [start]
  obtain ⟨steps, paid, spent⟩ := operation.perform_spends scope ⟨before, limit⟩
  have left : steps ≤ limit - before := paid
  refine ⟨fun below _ deep => operation.perform_ends scope below deep, rfl, ?_, ?_, ?_,
    fun performed limit' call failed => ?_, fun exhausted later => ⟨?_, fun starts => ?_⟩⟩
  · rw [spent, Budget.spend]
  · rw [spent]
    exact Nat.le_add_right before steps
  · rw [spent]
    exact Nat.add_le_of_le_sub' fits left
  · obtain ⟨call', refused⟩ :=
      ((operation.perform_metered scope).runsOut failed).at_limit fits
    simp only [outcome, refused, Except.error.injEq, Failure.stepLimitExceeded.injEq] at failed
    exact ⟨failed.1.symm, failed.2.1.symm, by simp only [rest, refused]⟩
  · exact spentBy_of_exhausted scope later exhausted
  · have full : before = limit := by
      simp only [Budget.isExhausted, decide_eq_true_eq] at exhausted
      omega
    rw [spentBy_of_exhausted scope later exhausted, perform_of_exhausted scope starts exhausted,
      full]

end ConstExpr
