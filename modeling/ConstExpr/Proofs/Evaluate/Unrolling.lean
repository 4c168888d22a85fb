import ConstExpr.Proofs.Evaluate.Congruence

/-!
# Unrolling the evaluation

Evaluating a tree takes a step and then evaluates other trees: its children, the bodies of called
functions and the initializers of variables. `unrolled` carries this recursion out to a depth and
does anything at all below it. A depth above the number of steps left is never used up, whatever
stands below (`evaluate_eq_unrolled`): each level of the recursion takes a step of its own before
it enters the next. So the evaluation ends, and it satisfies the recursion without a depth
(`evaluate_eq`).
-/
namespace ConstExpr

namespace Budget

/-- The budget after further steps. -/
def spend (budget : Budget) (steps : Nat) : Budget :=
  { budget with performed := budget.performed + steps }

/-- Steps in a row are spent together. -/
theorem spend_spend (budget : Budget) (first second : Nat) :
    (budget.spend first).spend second = budget.spend (first + second) := by
  simp [spend, Nat.add_assoc]

/-- Spent steps are no longer left. -/
theorem remaining_spend (budget : Budget) (steps : Nat) :
    (budget.spend steps).remaining = budget.remaining - steps := by
  simp only [remaining, spend]
  omega

/-- A budget that is not overdrawn ends at its limit. -/
theorem spend_remaining {budget : Budget} (within : budget.performed ≤ budget.limit) :
    budget.spend budget.remaining = ⟨budget.limit, budget.limit⟩ := by
  simp only [spend, remaining, Nat.add_sub_cancel' within]

end Budget

namespace Evaluation

variable {α β : Type}

/-- Spends all steps that are left and is refused the next one. -/
def refuse : Evaluation α := fun budget =>
  .error (.stepLimitExceeded (budget.performed + budget.remaining) budget.limit none)
    (budget.spend budget.remaining)

/-- The answer or the failure of an evaluation. -/
def outcome (run : Evaluation α) (budget : Budget) : Except Failure α :=
  match run budget with
  | .ok answer _ => .ok answer
  | .error failure _ => .error failure

/-- The budget that an evaluation leaves. -/
def rest (run : Evaluation α) (budget : Budget) : Budget :=
  match run budget with
  | .ok _ left => left
  | .error _ left => left

/-- An evaluation followed by another one goes on with the budget that is left, unless it fails. -/
theorem bind_apply (first : Evaluation α) (next : α → Evaluation β) (budget : Budget) :
    (first >>= next) budget =
      match first budget with
      | .ok answer left => next answer left
      | .error failure left => .error failure left := by
  change EStateM.bind first next budget = _
  unfold EStateM.bind
  cases first budget <;> rfl

/-- The evaluations agree on budgets with fewer steps left than the bound, and leave no more. -/
def AgreeBelow (bound : Nat) (first second : Evaluation α) : Prop :=
  ∀ budget : Budget, budget.remaining < bound →
    first budget = second budget ∧ (first.rest budget).remaining ≤ budget.remaining

/-- Agreement below a bound is a congruence. -/
theorem agreeBelow_congruence (bound : Nat) : Congruence (AgreeBelow bound) where
  pure answer budget _ := ⟨rfl, Nat.le_refl _⟩
  throw failure _ budget _ := ⟨rfl, Nat.le_refl _⟩
  bind {_ _ first first' next next'} firsts nexts budget below := by
    obtain ⟨same, fewer⟩ := firsts budget below
    simp only [rest, bind_apply, ← same] at fewer ⊢
    cases result : first budget with
    | ok answer left =>
      simp only [result] at fewer ⊢
      obtain ⟨sameNext, fewerNext⟩ := nexts answer left (Nat.lt_of_le_of_lt fewer below)
      exact ⟨sameNext, Nat.le_trans fewerNext fewer⟩
    | error failure left =>
      simp only [result] at fewer ⊢
      exact ⟨trivial, fewer⟩
  withinCall {_ body body'} function bodies budget below := by
    obtain ⟨same, fewer⟩ := bodies budget below
    simp only [rest, withinCall, ← same] at fewer ⊢
    cases result : body budget with
    | ok answer left => exact ⟨trivial, by simpa only [result] using fewer⟩
    | error failure left => exact ⟨trivial, by simpa only [result] using fewer⟩

/-- A step is refused when none is left. -/
theorem step_of_exhausted {budget : Budget} (exhausted : budget.isExhausted = true) :
    step budget = .error (.stepLimitExceeded budget.performed budget.limit none) budget := by
  simp [step, exhausted]

/-- A step is performed when one is left. -/
theorem step_of_remaining {budget : Budget} (left : 0 < budget.remaining) :
    step budget = .ok () { budget with performed := budget.performed + 1 } := by
  have active : ¬budget.limit ≤ budget.performed := by
    simp only [Budget.remaining] at left
    omega
  simp [step, Budget.isExhausted, active]

/-- A step agrees with itself below every bound. -/
theorem agreeBelow_step (bound : Nat) : AgreeBelow bound step step := by
  intro budget _
  refine ⟨rfl, ?_⟩
  by_cases exhausted : budget.isExhausted = true
  · simp only [rest, step_of_exhausted exhausted, Nat.le_refl]
  · simp only [rest, step, exhausted, Bool.false_eq_true, if_false, Budget.remaining]
    omega

/-- Evaluations behind a step agree when those without it agree on one step less. -/
theorem AgreeBelow.step {bound : Nat} {first second : Evaluation α}
    (agree : AgreeBelow bound first second) :
    AgreeBelow (bound + 1) (do step; first) (do step; second) := by
  intro budget below
  simp only [rest, bind_apply]
  by_cases exhausted : budget.isExhausted = true
  · simp [step_of_exhausted exhausted]
  · have left : 0 < budget.remaining := by
      simp only [Budget.isExhausted, decide_eq_true_eq] at exhausted
      simp only [Budget.remaining]
      omega
    rw [step_of_remaining left]
    have spent : (⟨budget.performed + 1, budget.limit⟩ : Budget).remaining + 1 =
        budget.remaining := by
      simp only [Budget.remaining] at left ⊢
      omega
    obtain ⟨same, fewer⟩ := agree ⟨budget.performed + 1, budget.limit⟩ (by omega)
    exact ⟨same, Nat.le_trans fewer (by omega)⟩

end Evaluation

open Evaluation

/-- The evaluation of trees with its recursion carried out to a depth, and anything below it. -/
def unrolled (scope : Scope) (below : List Expr → Expr → Evaluation Expr) :
    Nat → List Expr → Expr → Evaluation Expr
  | 0 => below
  | depth + 1 => fun parameters expr => do
    Evaluation.step
    evaluateNode scope (unrolled scope below depth) parameters expr

section Unrolled

variable (scope : Scope) (below : List Expr → Expr → Evaluation Expr)

/-- Unrolling to a depth, and further below it, is unrolling to the sum of the depths. -/
theorem unrolled_add (lower depth : Nat) :
    unrolled scope (unrolled scope below lower) depth = unrolled scope below (lower + depth) := by
  induction depth with
  | zero => rfl
  | succ depth ih =>
    funext parameters expr
    simp only [unrolled, ih, Nat.add_eq]

/-- As many nested steps as a budget has, and one more level below them, are never used up. -/
theorem evaluateWithin_agrees (depth : Nat) (parameters : List Expr) (expr : Expr) :
    AgreeBelow (depth + 1) (evaluateWithin scope depth parameters expr)
      (unrolled scope below (depth + 1) parameters expr) := by
  induction depth generalizing parameters expr with
  | zero =>
    have nothing : AgreeBelow 0 (pure expr) (evaluateNode scope below parameters expr) :=
      fun _ negative => absurd negative (Nat.not_lt_zero _)
    exact nothing.step
  | succ depth ih =>
    exact (evaluateNode_related (agreeBelow_congruence (depth + 1)) scope ih parameters expr).step

variable {scope}

/-- Whatever stands below a depth that is greater than the number of steps left, unrolling to that
depth is the evaluation. -/
theorem evaluate_eq_unrolled {depth : Nat} {budget : Budget}
    (deep : budget.remaining < depth) (parameters : List Expr) (expr : Expr) :
    expr.evaluate scope parameters budget = unrolled scope below depth parameters expr budget := by
  obtain ⟨lower, rfl⟩ := Nat.exists_eq_add_of_lt deep
  rw [show budget.remaining + lower + 1 = lower + (budget.remaining + 1) by omega,
    ← unrolled_add]
  exact (evaluateWithin_agrees scope (unrolled scope below lower) budget.remaining parameters expr
    budget (Nat.lt_succ_self _)).1

/-- Evaluations of trees agree with their unrolling below its depth. -/
theorem unrolled_agrees (depth : Nat) (parameters : List Expr) (expr : Expr) :
    AgreeBelow depth (unrolled scope below depth parameters expr)
      (expr.evaluate scope parameters) := by
  intro budget deep
  refine ⟨(evaluate_eq_unrolled below deep parameters expr).symm, ?_⟩
  simp only [rest, ← evaluate_eq_unrolled below deep parameters expr]
  exact (evaluateWithin_agrees scope below budget.remaining parameters expr budget
    (Nat.lt_succ_self _)).2

/-- The evaluation of a tree takes a step and evaluates the node, which evaluates other trees in
the same way. -/
theorem evaluate_eq (parameters : List Expr) (expr : Expr) :
    expr.evaluate scope parameters =
      (do
        Evaluation.step
        evaluateNode scope (fun arguments other => other.evaluate scope arguments) parameters
          expr) := by
  funext budget
  rw [evaluate_eq_unrolled (fun arguments other => other.evaluate scope arguments)
    (Nat.lt_succ_self budget.remaining)]
  exact ((evaluateNode_related (agreeBelow_congruence budget.remaining) scope
    (unrolled_agrees _ budget.remaining) parameters expr).step budget (Nat.lt_succ_self _)).1

end Unrolled

end ConstExpr
