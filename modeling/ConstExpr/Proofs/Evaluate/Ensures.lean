import ConstExpr.Proofs.Evaluate.Unrolling
import Mathlib.Data.List.Forall2

/-!
# What an evaluation ensures

An evaluation ensures a property of its answers and one of its failures when both hold from every
budget. Such properties go through sequences, lists and calls, and what the evaluation of a node
ensures when all other trees do is ensured by the evaluation of a tree
(`evaluate_induction`): the budget ends the recursion, and there the evaluation is refused a step.
-/
namespace ConstExpr

section Lists

variable {α β : Type} {related : α → β → Prop} {lefts : List α} {rights : List β}

/-- What relatedness says of the right elements holds of all of them. -/
theorem forall_of_forall₂ {property : β → Prop} (relates : List.Forall₂ related lefts rights)
    (holds : ∀ left right, related left right → property right) :
    ∀ right ∈ rights, property right := by
  induction relates with
  | nil => exact List.forall_mem_nil _
  | cons first _ ih => exact List.forall_mem_cons.mpr ⟨holds _ _ first, ih⟩

/-- The elements of related lists in the same place are related. -/
theorem getElem?_of_forall₂ (relates : List.Forall₂ related lefts rights) {place : Nat} {left : α}
    (found : lefts[place]? = some left) :
    ∃ right, rights[place]? = some right ∧ related left right := by
  obtain ⟨inside, rfl⟩ := List.getElem?_eq_some_iff.mp found
  have inside' : place < rights.length := by rwa [← relates.length_eq]
  exact ⟨rights[place], List.getElem?_eq_getElem inside', relates.get inside inside'⟩

/-- The last elements of related lists are related. -/
theorem getLast?_of_forall₂ (relates : List.Forall₂ related lefts rights) {last : α}
    (found : lefts.getLast? = some last) :
    ∃ last', rights.getLast? = some last' ∧ related last last' := by
  rw [List.getLast?_eq_getElem?] at found ⊢
  rw [← relates.length_eq]
  exact getElem?_of_forall₂ relates found

end Lists

namespace Evaluation

variable {α β : Type}

/-- From every budget, the evaluation comes to an answer of the first kind or to a failure of the
second one. -/
def Ensures (run : Evaluation α) (answers : α → Prop) (failures : Failure → Prop) : Prop :=
  ∀ budget, match run.outcome budget with
    | .ok answer => answers answer
    | .error failure => failures failure

section Rules

variable {failures : Failure → Prop}

/-- An answer is ensured. -/
theorem Ensures.pure {answers : α → Prop} {answer : α} (holds : answers answer) :
    Ensures (pure answer) answers failures :=
  fun _ => holds

/-- A failure is ensured. -/
theorem Ensures.throw {answers : α → Prop} {failure : Failure} (holds : failures failure) :
    Ensures (throw failure : Evaluation α) answers failures :=
  fun _ => holds

/-- A step can only be refused. -/
theorem Ensures.step
    (refused : ∀ performed limit call, failures (.stepLimitExceeded performed limit call)) :
    Ensures step (fun _ => True) failures := by
  intro budget
  unfold outcome Evaluation.step
  by_cases exhausted : budget.isExhausted = true
  · simp only [exhausted, if_true]
    exact refused _ _ _
  · simp only [exhausted, Bool.false_eq_true, if_false]

/-- What is ensured of an evaluation that starts with a refusal. -/
theorem Ensures.refusal {refused : Bool} {failure : Failure} {next : Unit → Evaluation α}
    {answers : α → Prop} (holds : failures failure)
    (rest : refused = false → (next ()).Ensures answers failures) :
    (if refused then (MonadExcept.throw failure) >>= next else next ()).Ensures answers failures := by
  cases refused with
  | true => exact fun _ => holds
  | false => exact rest rfl

/-- What is ensured of an evaluation followed by another one. -/
theorem Ensures.bind {first : Evaluation α} {next : α → Evaluation β} {answers : α → Prop}
    {answers' : β → Prop} (head : first.Ensures answers failures)
    (tail : ∀ answer, answers answer → (next answer).Ensures answers' failures) :
    (first >>= next).Ensures answers' failures := by
  intro budget
  have holds := head budget
  simp only [outcome, bind_apply] at holds ⊢
  cases result : first budget with
  | ok answer left =>
    simp only [result] at holds ⊢
    exact tail answer holds left
  | error failure left => simpa only [result] using holds

/-- What is ensured of the body of a call, if calls may blame the failures on themselves. -/
theorem Ensures.withinCall {body : Evaluation α} {answers : α → Prop} {function : FunctionId}
    (blamed : ∀ failure, failures failure → failures (failure.withinCall function))
    (inside : body.Ensures answers failures) :
    (Evaluation.withinCall function body).Ensures answers failures := by
  intro budget
  have holds := inside budget
  simp only [outcome, Evaluation.withinCall] at holds ⊢
  cases result : body budget with
  | ok answer left => simpa only [result] using holds
  | error failure left =>
    simp only [result] at holds ⊢
    exact blamed failure holds

/-- What is ensured of evaluations of a list of trees, in order. -/
theorem Ensures.mapM {run : Expr → Evaluation Expr} {answers : Expr → Expr → Prop}
    {exprs : List Expr} (each : ∀ expr ∈ exprs, (run expr).Ensures (answers expr) failures) :
    (exprs.mapM run).Ensures (List.Forall₂ answers exprs) failures := by
  induction exprs with
  | nil =>
    rw [List.mapM_nil]
    exact .pure .nil
  | cons expr exprs ih =>
    rw [List.mapM_cons]
    refine (each expr (by simp)).bind fun result first => ?_
    refine (ih fun other member => each other (by simp [member])).bind fun results rest => ?_
    exact .pure (.cons first rest)

/-- What is ensured from every budget by an evaluation that does the same is ensured. -/
theorem Ensures.perBudget {run : Evaluation α} {answers : α → Prop}
    (same : ∀ budget, ∃ other : Evaluation α,
      other.Ensures answers failures ∧ other budget = run budget) :
    run.Ensures answers failures := by
  intro budget
  obtain ⟨other, ensured, equal⟩ := same budget
  have holds := ensured budget
  simpa only [outcome, equal] using holds

end Rules

end Evaluation

open Evaluation

/-- The property of an evaluation of trees holds when from every budget the evaluation does as one
that has the property. -/
def IsPerBudget (holds : (List Expr → Expr → Evaluation Expr) → Prop) : Prop :=
  ∀ recur, (∀ budget, ∃ other, holds other ∧
    ∀ parameters expr, other parameters expr budget = recur parameters expr budget) → holds recur

/-- The evaluation of trees has every property per budget that a refusal has and that a step and
the evaluation of a node keep. -/
theorem evaluate_induction (scope : Scope) {holds : (List Expr → Expr → Evaluation Expr) → Prop}
    (perBudget : IsPerBudget holds) (refused : holds fun _ _ => refuse)
    (node : ∀ recur, holds recur → holds fun parameters expr => do
      Evaluation.step
      evaluateNode scope recur parameters expr) :
    holds fun parameters expr => expr.evaluate scope parameters := by
  have unrolledHolds (depth : Nat) : holds (unrolled scope (fun _ _ => refuse) depth) := by
    induction depth with
    | zero => exact refused
    | succ depth ih => exact node _ ih
  refine perBudget _ fun budget => ⟨_, unrolledHolds (budget.remaining + 1), fun _ _ => ?_⟩
  exact (evaluate_eq_unrolled _ (Nat.lt_succ_self _) _ _).symm

end ConstExpr
