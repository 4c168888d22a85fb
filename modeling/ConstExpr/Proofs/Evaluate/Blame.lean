import ConstExpr.Proofs.Evaluate.Entering

/-!
# The call that a refused step is blamed on

`Refused` follows an evaluation from its root down to the step that is refused, through the trees
that are being evaluated then, and lists the calls whose bodies are among them. The failure blames
the outermost of these calls, and none where the list is empty (`evaluate_refused_iff`): calls whose
callee or arguments are still being evaluated are not on the list.
-/
namespace ConstExpr

open Evaluation

/-- The evaluation of a tree with the given parameters and budget is refused a step. The calls are
those whose bodies are being evaluated at that moment, the outermost first, and the last budget is
the one that is spent then. -/
inductive Refused (scope : Scope) : List Expr → Expr → Budget → List FunctionId → Budget → Prop
  /-- The tree itself is refused its step. -/
  | here {parameters : List Expr} {expr : Expr} {budget : Budget}
    (exhausted : budget.isExhausted = true) : Refused scope parameters expr budget [] budget
  /-- The tree takes its step, and one that it enters is refused a step. -/
  | inside {parameters bound : List Expr} {expr entered : Expr} {budget middle last : Budget}
    {call : Option FunctionId} {calls : List FunctionId} (active : budget.isExhausted = false)
    (enters : Enters scope parameters (budget.spend 1) expr.form call bound entered middle)
    (refused : Refused scope bound entered middle calls last) :
    Refused scope parameters expr budget (call.toList ++ calls) last

section Trees

variable {scope : Scope} {parameters : List Expr} {expr : Expr} {budget last : Budget}

/-- What is refused a step while calls are active fails, and blames the outermost of them. -/
theorem Refused.failed {calls : List FunctionId}
    (refused : Refused scope parameters expr budget calls last) :
    expr.evaluate scope parameters budget =
      .error (.stepLimitExceeded last.performed last.limit calls.head?) last := by
  induction refused with
  | here exhausted => exact evaluate_of_exhausted exhausted
  | @inside _ _ _ _ _ _ _ call _ active enters _ failed =>
    rw [evaluate_of_active active, enters.evaluateNode failed]
    cases call <;> rfl

/-- What fails with a refused step is refused one while some calls are active. -/
theorem refused_of_failed {failure : Failure}
    (failed : expr.evaluate scope parameters budget = .error failure last)
    (stepLimit : failure.isStepLimit = true) :
    ∃ calls, Refused scope parameters expr budget calls last := by
  -- By induction on the steps that are left: every tree that is entered has fewer.
  induction steps : budget.remaining using Nat.strongRecOn
    generalizing parameters expr budget failure with
  | ind steps ih =>
    subst steps
    cases exhausted : budget.isExhausted with
    | true =>
      rw [evaluate_of_exhausted exhausted] at failed
      obtain ⟨-, rfl⟩ := EStateM.Result.error.inj failed
      exact ⟨[], .here exhausted⟩
    | false =>
      rw [evaluate_of_active exhausted] at failed
      obtain raises | ⟨call, bound, entered, middle, inner, enters, below, rfl⟩ :=
        evaluateNode_error_iff.mp failed
      · rw [raises.isStepLimit] at stepLimit
        contradiction
      · have fewer : middle.remaining < budget.remaining :=
          Nat.lt_of_le_of_lt enters.remaining_le (Budget.remaining_spend_lt exhausted)
        rw [Failure.isStepLimit_leaving] at stepLimit
        obtain ⟨calls, refused⟩ := ih _ fewer below stepLimit rfl
        exact ⟨_, .inside exhausted enters refused⟩

/-- An evaluation fails with a refused step exactly when it is refused one, and it blames the
outermost of the calls whose bodies are being evaluated then, or none if no body is. The failure
tells the steps and the limit of the budget that is spent. -/
theorem evaluate_refused_iff (scope : Scope) (parameters : List Expr) (expr : Expr)
    (budget last : Budget) (performed limit : Nat) (blamed : Option FunctionId) :
    expr.evaluate scope parameters budget =
        .error (.stepLimitExceeded performed limit blamed) last ↔
      performed = last.performed ∧ limit = last.limit ∧
        ∃ calls, Refused scope parameters expr budget calls last ∧ calls.head? = blamed := by
  constructor
  · intro failed
    obtain ⟨calls, refused⟩ := refused_of_failed failed rfl
    have told := refused.failed
    rw [failed] at told
    obtain ⟨rfl, rfl, rfl⟩ := Failure.stepLimitExceeded.inj (EStateM.Result.error.inj told).1
    exact ⟨rfl, rfl, calls, refused, rfl⟩
  · rintro ⟨rfl, rfl, calls, refused, rfl⟩
    exact refused.failed

end Trees

/-- The functions `inner`, which returns its argument, and `outer`, which passes it on to
`inner`. -/
def relayTable : Table :=
  let parameter : Expr := .of (.parameterRef 0 (.fundamental .int) false)
  ⟨[⟨"inner", [.fundamental .int], .fundamental .int, some parameter, true⟩,
    ⟨"outer", [.fundamental .int], .fundamental .int,
      some (.of (.call (.of (.overloads ⟨[⟨0⟩], "inner", none⟩)) [parameter])), true⟩], []⟩

/-- The call `outer(inner(1))`. -/
def relayCall : Expr :=
  .of (.call (.of (.overloads ⟨[⟨1⟩], "outer", none⟩))
    [.of (.call (.of (.overloads ⟨[⟨0⟩], "inner", none⟩)) [.int 1])])

/-- The fourth step is one for the callee in the argument, the sixth one the body of `inner` for the
argument, and the tenth one the body of `inner` for the body of `outer`. -/
example :
    relayCall.evaluate relayTable.scope [] (.fresh 3) =
        .error (.stepLimitExceeded 3 3 none) ⟨3, 3⟩ ∧
      relayCall.evaluate relayTable.scope [] (.fresh 5) =
        .error (.stepLimitExceeded 5 5 (some ⟨0⟩)) ⟨5, 5⟩ ∧
      relayCall.evaluate relayTable.scope [] (.fresh 9) =
        .error (.stepLimitExceeded 9 9 (some ⟨1⟩)) ⟨9, 9⟩ :=
  ⟨rfl, rfl, rfl⟩

end ConstExpr
