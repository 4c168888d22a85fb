import ConstExpr.Proofs.Evaluate.Unrolling

/-!
# Metering

A budget decides only whether an evaluation gets to its outcome. Every evaluation either comes to
an outcome that is no refused step after a number of steps, from every budget with as many steps
left, or has no outcome from any budget (`evaluate_metered`); where the budget does not suffice it
is spent to the end and the next step is refused. So evaluations from two budgets differ in
nothing as long as the smaller one suffices (`limit_exact`).
-/
namespace ConstExpr

namespace Evaluation

variable {α β : Type}

/-- The answer or the failure, with the budget that is left. -/
def reply (outcome : Except Failure α) (left : Budget) : EStateM.Result Failure Budget α :=
  match outcome with
  | .ok answer => .ok answer left
  | .error failure => .error failure left

/-- The number of steps that an evaluation performs. -/
def stepsTaken (run : Evaluation α) (budget : Budget) : Nat :=
  (run.rest budget).performed - budget.performed

/-- The evaluation spends all steps that are left and is refused the next one. -/
def RunsOut (run : Evaluation α) (budget : Budget) : Prop :=
  ∃ call, run budget =
    .error (.stepLimitExceeded (budget.performed + budget.remaining) budget.limit call)
      (budget.spend budget.remaining)

/-- The evaluation comes to the outcome after the number of steps, from every budget that has as
many left. -/
structure Completes (run : Evaluation α) (outcome : Except Failure α) (steps : Nat) : Prop where
  /-- The outcome is no refused step. -/
  proper : ∀ failure, outcome = .error failure → failure.isStepLimit = false
  /-- A budget with enough steps left pays for them. -/
  enough : ∀ budget : Budget, steps ≤ budget.remaining →
    run budget = reply outcome (budget.spend steps)
  /-- A budget with fewer steps left is spent. -/
  short : ∀ budget : Budget, budget.remaining < steps → run.RunsOut budget

/-- The evaluation comes to an outcome after a number of steps, or never. -/
def Metered (run : Evaluation α) : Prop :=
  (∃ outcome steps, run.Completes outcome steps) ∨ ∀ budget, run.RunsOut budget

/-- An answer takes no step. -/
theorem completes_pure (answer : α) : Completes (pure answer) (.ok answer) 0 where
  proper _ impossible := nomatch impossible
  enough _ _ := rfl
  short _ negative := absurd negative (Nat.not_lt_zero _)

/-- A failure takes no step. -/
theorem completes_throw {failure : Failure} (raised : failure.isStepLimit = false) :
    Completes (throw failure : Evaluation α) (.error failure) 0 where
  proper _ same := Except.error.inj same ▸ raised
  enough _ _ := rfl
  short _ negative := absurd negative (Nat.not_lt_zero _)

/-- A step takes one step. -/
theorem completes_step : Completes step (.ok ()) 1 where
  proper _ impossible := nomatch impossible
  enough _ left := step_of_remaining left
  short budget fewer := by
    have spent : budget.remaining = 0 := Nat.lt_one_iff.mp fewer
    have exhausted : budget.isExhausted = true := by
      simp only [Budget.remaining] at spent
      simp only [Budget.isExhausted, decide_eq_true_eq]
      omega
    exact ⟨none, by rw [step_of_exhausted exhausted, spent]; rfl⟩

/-- An evaluation that runs out does so with anything after it. -/
theorem RunsOut.bind {run : Evaluation α} {budget : Budget} (out : run.RunsOut budget)
    (next : α → Evaluation β) : (run >>= next).RunsOut budget := by
  obtain ⟨call, failed⟩ := out
  exact ⟨call, by rw [bind_apply, failed]⟩

/-- An evaluation that runs out does so as the body of a call. -/
theorem RunsOut.withinCall {run : Evaluation α} {budget : Budget} (out : run.RunsOut budget)
    (function : FunctionId) : (Evaluation.withinCall function run).RunsOut budget := by
  obtain ⟨call, failed⟩ := out
  exact ⟨some function, by simp only [Evaluation.withinCall, failed, Failure.withinCall]⟩

/-- What runs out after steps that were paid for runs out of the whole budget. -/
theorem RunsOut.of_spend {run next : Evaluation α} {budget : Budget} {steps : Nat}
    (paid : steps ≤ budget.remaining) (same : run budget = next (budget.spend steps))
    (out : next.RunsOut (budget.spend steps)) : run.RunsOut budget := by
  obtain ⟨call, failed⟩ := out
  have performed : (budget.spend steps).performed + (budget.spend steps).remaining =
      budget.performed + budget.remaining := by
    rw [Budget.remaining_spend]
    simp only [Budget.spend]
    omega
  have spent : (budget.spend steps).spend (budget.spend steps).remaining =
      budget.spend budget.remaining := by
    rw [Budget.spend_spend, Budget.remaining_spend, Nat.add_sub_cancel' paid]
  rw [performed, spent] at failed
  exact ⟨call, same.trans failed⟩

/-- The steps of an evaluation and of what follows its answer add up. -/
theorem Completes.bind {first : Evaluation α} {next : α → Evaluation β} {answer : α}
    {outcome : Except Failure β} {steps later : Nat} (head : first.Completes (.ok answer) steps)
    (tail : (next answer).Completes outcome later) :
    (first >>= next).Completes outcome (steps + later) where
  proper := tail.proper
  enough budget left := by
    have paid : first budget = .ok answer (budget.spend steps) := head.enough budget (by omega)
    rw [bind_apply, paid]
    dsimp only
    rw [tail.enough _ (by rw [Budget.remaining_spend]; omega), Budget.spend_spend]
  short budget fewer := by
    by_cases paid : steps ≤ budget.remaining
    · have same : (first >>= next) budget = next answer (budget.spend steps) := by
        rw [bind_apply, head.enough budget paid]
        rfl
      exact .of_spend paid same (tail.short _ (by rw [Budget.remaining_spend]; omega))
    · exact (head.short budget (Nat.lt_of_not_le paid)).bind next

/-- An evaluation never ends if what follows its answer does not. -/
theorem Completes.bind_endless {first : Evaluation α} {next : α → Evaluation β} {answer : α}
    {steps : Nat} (head : first.Completes (.ok answer) steps)
    (diverges : ∀ budget, (next answer).RunsOut budget) (budget : Budget) :
    (first >>= next).RunsOut budget := by
  by_cases paid : steps ≤ budget.remaining
  · have same : (first >>= next) budget = next answer (budget.spend steps) := by
      rw [bind_apply, head.enough budget paid]
      rfl
    exact .of_spend paid same (diverges _)
  · exact (head.short budget (Nat.lt_of_not_le paid)).bind next

/-- Nothing follows a failure. -/
theorem Completes.bind_error {first : Evaluation α} (next : α → Evaluation β) {failure : Failure}
    {steps : Nat} (head : first.Completes (.error failure) steps) :
    (first >>= next).Completes (.error failure) steps where
  proper _ same := Except.error.inj same ▸ head.proper failure rfl
  enough budget left := by
    rw [bind_apply, head.enough budget left]
    rfl
  short budget fewer := (head.short budget fewer).bind next

/-- A call changes nothing about an outcome that is no refused step. -/
theorem Completes.withinCall {body : Evaluation α} {outcome : Except Failure α} {steps : Nat}
    (completes : body.Completes outcome steps) (function : FunctionId) :
    (Evaluation.withinCall function body).Completes outcome steps where
  proper := completes.proper
  enough budget left := by
    simp only [Evaluation.withinCall, completes.enough budget left]
    cases outcome with
    | ok answer => rfl
    | error failure =>
      have raised := completes.proper failure rfl
      cases failure with
      | stepLimitExceeded => contradiction
      | _ => rfl
  short budget fewer := (completes.short budget fewer).withinCall function

/-- An answer is metered. -/
theorem metered_pure (answer : α) : Metered (pure answer) :=
  .inl ⟨_, _, completes_pure answer⟩

/-- A failure is metered, unless it is a refused step. -/
theorem metered_throw {failure : Failure} (raised : failure.isStepLimit = false) :
    Metered (throw failure : Evaluation α) :=
  .inl ⟨_, _, completes_throw raised⟩

/-- A step is metered. -/
theorem metered_step : Metered step :=
  .inl ⟨_, _, completes_step⟩

/-- Metered evaluations in a row are metered. -/
theorem Metered.bind {first : Evaluation α} {next : α → Evaluation β} (head : Metered first)
    (tail : ∀ answer, Metered (next answer)) : Metered (first >>= next) := by
  obtain ⟨outcome, steps, completes⟩ | diverges := head
  · cases outcome with
    | error failure => exact .inl ⟨_, _, completes.bind_error next⟩
    | ok answer =>
      obtain ⟨outcome, later, completesNext⟩ | divergesNext := tail answer
      · exact .inl ⟨_, _, completes.bind completesNext⟩
      · exact .inr (completes.bind_endless divergesNext)
  · exact .inr fun budget => (diverges budget).bind next

/-- The metered body of a call is metered with the call. -/
theorem Metered.withinCall {body : Evaluation α} (metered : Metered body)
    (function : FunctionId) : Metered (Evaluation.withinCall function body) := by
  obtain ⟨outcome, steps, completes⟩ | diverges := metered
  · exact .inl ⟨_, _, completes.withinCall function⟩
  · exact .inr fun budget => (diverges budget).withinCall function

/-- Metering is kept by sequences and calls. -/
theorem metered_congruence : Congruence fun run _ => Metered run where
  pure := metered_pure
  throw _ := metered_throw
  bind := Metered.bind
  withinCall function metered := metered.withinCall function

/-- The evaluation of a node is metered when that of all other trees is. -/
theorem metered_evaluateNode (scope : Scope) {recur : List Expr → Expr → Evaluation Expr}
    (children : ∀ parameters expr, Metered (recur parameters expr)) (parameters : List Expr)
    (expr : Expr) : Metered (evaluateNode scope recur parameters expr) :=
  @evaluateNode_related _ metered_congruence scope recur recur children parameters expr

/-- An evaluation comes to one outcome only, after one number of steps. -/
theorem Completes.unique {run other : Evaluation α} {outcome outcome' : Except Failure α}
    {steps steps' : Nat} (first : run.Completes outcome steps)
    (second : other.Completes outcome' steps')
    (same : run ⟨0, steps⟩ = other ⟨0, steps⟩) : outcome' = outcome ∧ steps' = steps := by
  have paid : run ⟨0, steps⟩ = reply outcome ⟨steps, steps⟩ := by
    rw [first.enough ⟨0, steps⟩ (Nat.le_refl _), Budget.spend, Nat.zero_add]
  by_cases fewer : steps' ≤ steps
  · rw [paid, second.enough ⟨0, steps⟩ fewer] at same
    cases outcome <;> cases outcome' <;>
      simp_all [reply, Budget.spend]
  · obtain ⟨call, failed⟩ := second.short ⟨0, steps⟩ (Nat.lt_of_not_le fewer)
    rw [paid, failed] at same
    cases outcome with
    | ok answer => contradiction
    | error failure =>
      have refused : failure.isStepLimit = true := by
        simp only [reply, EStateM.Result.error.injEq] at same
        rw [same.1]
        rfl
      exact absurd (first.proper failure rfl) (by simp [refused])

/-- An evaluation is metered when metered evaluations agree with it on ever greater budgets. -/
theorem metered_of_agreeing {run : Evaluation α} {approximation : Nat → Evaluation α}
    (agrees : ∀ bound, AgreeBelow bound (approximation bound) run)
    (metered : ∀ bound, Metered (approximation bound)) : Metered run := by
  have same (bound : Nat) (budget : Budget) (below : budget.remaining < bound) :
      run budget = approximation bound budget := (agrees bound budget below).1.symm
  by_cases settled : ∃ bound outcome steps,
      (approximation bound).Completes outcome steps ∧ steps < bound
  · obtain ⟨bound, outcome, steps, completes, below⟩ := settled
    refine .inl ⟨outcome, steps, completes.proper, fun budget paid => ?_, fun budget fewer => ?_⟩
    · -- The approximation at a bound above the budget has the same outcome, since both agree with
      -- the evaluation on a budget of exactly these steps.
      have exact : approximation bound ⟨0, steps⟩ =
          approximation (budget.remaining + 1) ⟨0, steps⟩ :=
        (same bound ⟨0, steps⟩ below).symm.trans (same _ ⟨0, steps⟩ (Nat.lt_succ_of_le paid))
      rw [same (budget.remaining + 1) budget (Nat.lt_succ_self _)]
      obtain ⟨other, others, completesOther⟩ | diverges := metered (budget.remaining + 1)
      · obtain ⟨rfl, rfl⟩ := completes.unique completesOther exact
        exact completesOther.enough budget paid
      · obtain ⟨call, failed⟩ := diverges ⟨0, steps⟩
        rw [← exact, completes.enough ⟨0, steps⟩ (Nat.le_refl _)] at failed
        cases outcome with
        | ok answer => exact nomatch failed
        | error failure =>
          have raised := completes.proper failure rfl
          simp only [reply, EStateM.Result.error.injEq] at failed
          rw [failed.1] at raised
          contradiction
    · obtain ⟨call, failed⟩ := completes.short budget fewer
      exact ⟨call, (same bound budget (Nat.lt_trans fewer below)).trans failed⟩
  · refine .inr fun budget => ?_
    have above := same (budget.remaining + 1) budget (Nat.lt_succ_self _)
    obtain ⟨outcome, steps, completes⟩ | diverges := metered (budget.remaining + 1)
    · have fewer : budget.remaining < steps := by
        refine Nat.lt_of_not_le fun paid => settled ?_
        exact ⟨budget.remaining + 1, outcome, steps, completes, Nat.lt_succ_of_le paid⟩
      obtain ⟨call, failed⟩ := completes.short budget fewer
      exact ⟨call, above.trans failed⟩
    · obtain ⟨call, failed⟩ := diverges budget
      exact ⟨call, above.trans failed⟩

end Evaluation

open Evaluation

/-- Unrolling to any depth is metered when nothing below it succeeds. -/
theorem unrolled_metered (scope : Scope) (depth : Nat) (parameters : List Expr) (expr : Expr) :
    Metered (unrolled scope (fun _ _ => refuse) depth parameters expr) := by
  induction depth generalizing parameters expr with
  | zero => exact .inr fun _ => ⟨none, rfl⟩
  | succ depth ih =>
    exact metered_step.bind fun _ => metered_evaluateNode scope ih parameters expr

/-- Every evaluation of a tree comes to one outcome after one number of steps, from every budget
that has as many left, or to none from any budget. -/
theorem Expr.evaluate_metered (scope : Scope) (parameters : List Expr) (expr : Expr) :
    Metered (expr.evaluate scope parameters) :=
  metered_of_agreeing (fun bound => unrolled_agrees _ bound parameters expr)
    fun bound => unrolled_metered scope bound parameters expr

/-- The value of a tree comes to one outcome after one number of steps, too. -/
theorem Expr.constantValue_metered (scope : Scope) (expr : Expr) :
    Metered (expr.constantValue scope) := by
  let recur (arguments : List Expr) (other : Expr) := other.evaluate scope arguments
  have children (arguments : List Expr) (other : Expr) : Metered (recur arguments other) :=
    other.evaluate_metered scope arguments
  exact @valueWith_related _ metered_congruence recur recur children expr

namespace Evaluation

variable {α : Type} {run : Evaluation α}

/-- Of two budgets, the one with fewer steps left decides nothing but whether the evaluation is
refused a step. -/
structure LimitExact (run : Evaluation α) (first second : Budget) : Prop where
  /-- What is not refused a step from the first budget comes to the same outcome from the second
  one, after the same number of steps. -/
  invisible : (∀ performed limit call,
      run.outcome first ≠ .error (.stepLimitExceeded performed limit call)) →
    run.outcome second = run.outcome first ∧
      ∃ steps, run.rest first = first.spend steps ∧ run.rest second = second.spend steps
  /-- What takes more steps from the second budget than the first one has left is refused a step
  from the first one, which is then spent exactly. -/
  refused : first.remaining < run.stepsTaken second → ∃ call,
    run first = .error (.stepLimitExceeded first.limit first.limit call)
      ⟨first.limit, first.limit⟩

/-- A reply has the outcome that it was made of. -/
theorem outcome_of_reply {outcome : Except Failure α} {budget left : Budget}
    (replied : run budget = reply outcome left) : run.outcome budget = outcome := by
  cases outcome <;> simp only [Evaluation.outcome, replied, reply]

/-- A reply leaves the budget that it was made of. -/
theorem rest_of_reply {outcome : Except Failure α} {budget left : Budget}
    (replied : run budget = reply outcome left) : run.rest budget = left := by
  cases outcome <;> simp only [rest, replied, reply]

/-- What runs out of a budget that was not overdrawn ends at its limit. -/
theorem RunsOut.at_limit {budget : Budget} (within : budget.performed ≤ budget.limit)
    (out : run.RunsOut budget) : ∃ call,
      run budget = .error (.stepLimitExceeded budget.limit budget.limit call)
        ⟨budget.limit, budget.limit⟩ := by
  obtain ⟨call, failed⟩ := out
  rw [Budget.spend_remaining within, Budget.remaining, Nat.add_sub_cancel' within] at failed
  exact ⟨call, failed⟩

/-- An evaluation that is metered takes no notice of the limit. -/
theorem Metered.limitExact (metered : Metered run) {first second : Budget}
    (within : first.performed ≤ first.limit) (order : first.remaining ≤ second.remaining) :
    LimitExact run first second := by
  -- Unless the first budget suffices, it runs out, and it suffices only if the second one does.
  by_cases sufficient : ∃ outcome steps, run.Completes outcome steps ∧ steps ≤ first.remaining
  · obtain ⟨outcome, steps, completes, paid⟩ := sufficient
    have fromFirst := completes.enough first paid
    have fromSecond := completes.enough second (Nat.le_trans paid order)
    refine ⟨fun _ => ⟨?_, steps, rest_of_reply fromFirst, rest_of_reply fromSecond⟩,
      fun more => ?_⟩
    · rw [outcome_of_reply fromFirst, outcome_of_reply fromSecond]
    · rw [stepsTaken, rest_of_reply fromSecond, Budget.spend, Nat.add_sub_cancel_left] at more
      omega
  · have out : run.RunsOut first := by
      obtain ⟨outcome, steps, completes⟩ | diverges := metered
      · exact completes.short first
          (Nat.lt_of_not_le fun paid => sufficient ⟨outcome, steps, completes, paid⟩)
      · exact diverges first
    obtain ⟨call, failed⟩ := out.at_limit within
    refine ⟨fun answered => ?_, fun _ => ⟨call, failed⟩⟩
    exact absurd (by simp only [outcome, failed]) (answered first.limit first.limit call)

end Evaluation

/-- The evaluation of a tree and its value differ from two budgets only where the one with fewer
steps left does not suffice; not being overdrawn, as no budget of a session is, it is then spent to
its limit. -/
theorem limit_exact (scope : Scope) (parameters : List Expr) (expr : Expr)
    (first second : Budget) (within : first.performed ≤ first.limit)
    (order : first.remaining ≤ second.remaining) :
    LimitExact (expr.evaluate scope parameters) first second ∧
      LimitExact (expr.constantValue scope) first second :=
  ⟨(expr.evaluate_metered scope parameters).limitExact within order,
    (expr.constantValue_metered scope).limitExact within order⟩

/-- Negating an integer takes two steps: a budget with one step left is spent to its limit, and
one with two steps left decides the value for every greater one. -/
theorem limit_exact_negation :
    (∃ call, (Expr.of (.unary .minus (.int 3))).evaluate Table.empty.scope [] ⟨4, 5⟩ =
      .error (.stepLimitExceeded 5 5 call) ⟨5, 5⟩) ∧
      ((Expr.of (.unary .minus (.int 3))).constantValue Table.empty.scope).outcome ⟨0, 9⟩ =
        .ok (.integral (-3)) := by
  have short := limit_exact Table.empty.scope [] (Expr.of (.unary .minus (.int 3))) ⟨4, 5⟩ ⟨0, 9⟩
    (by decide) (by decide)
  have enough := limit_exact Table.empty.scope [] (Expr.of (.unary .minus (.int 3))) ⟨4, 6⟩
    ⟨0, 9⟩ (by decide) (by decide)
  have value : ((Expr.of (.unary .minus (.int 3))).constantValue Table.empty.scope).outcome
      ⟨4, 6⟩ = .ok (.integral (-3)) := rfl
  refine ⟨short.1.refused (by decide), (enough.2.invisible fun _ _ _ failed => ?_).1.trans value⟩
  exact nomatch value.symm.trans failed

end ConstExpr
