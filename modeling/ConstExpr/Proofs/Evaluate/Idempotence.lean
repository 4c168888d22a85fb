import ConstExpr.Proofs.Evaluate.Residuals

/-!
# Evaluating again

What an evaluation without arguments leaves evaluates to itself, in no more steps than the
evaluation took (`evaluate_idempotent`). What was folded is a literal, and what was built anew has
parts that evaluate to themselves, so it is built anew in the same way: nothing that its parts left
open is decided the second time. A call that was not folded enters the same body with the same
arguments again, for as many steps. The induction is on the steps, which pay for initializers too.
-/
namespace ConstExpr

open Evaluation

/-- A node that is derived from one that was derived with the same form is that node. -/
theorem Expr.derive_derive (origin : Expr) (form : Form Expr) :
    (origin.derive form).derive form = origin.derive form := by
  have same : (origin.template <|> form.children.findSome? Expr.template) =
      ((origin.template <|> form.children.findSome? Expr.template) <|>
        form.children.findSome? Expr.template) := by
    cases origin.template with
    | some => rfl
    | none => cases form.children.findSome? Expr.template <;> rfl
  exact congrArg (Expr.node form) same.symm

/-- Without arguments the tree evaluates to itself in at most the given number of steps. -/
def Expr.Rests (scope : Scope) (steps : Nat) (expr : Expr) : Prop :=
  ∃ again ≤ steps, (expr.evaluate scope []).Completes (.ok expr) again

/-- Without arguments the trees evaluate to themselves in order, in at most the given number of
steps. -/
def Expr.AllRest (scope : Scope) (steps : Nat) (exprs : List Expr) : Prop :=
  ∃ again ≤ steps, (exprs.mapM (Expr.evaluate scope [])).Completes (.ok exprs) again

/-- What evaluations leave that take at most the given number of steps evaluates to itself in no
more steps. -/
def Scope.RestsWithin (scope : Scope) (bound : Nat) : Prop :=
  ∀ {expr residual : Expr} {taken : Nat}, taken ≤ bound →
    (expr.evaluate scope []).Completes (.ok residual) taken → residual.Rests scope taken

/-- The tree takes a step more than the budget has lost, at most, to evaluate to itself. -/
def Expr.RestsAfter (scope : Scope) (before after : Budget) (expr : Expr) : Prop :=
  ∃ taken, after = before.spend taken ∧ expr.Rests scope (taken + 1)

section Runs

variable {scope : Scope} {expr residual : Expr} {budget left : Budget} {bound taken : Nat}

/-- A tree evaluates to itself when its node does, in a step more. -/
theorem Expr.rests_of_node (again : Nat) (few : again ≤ taken)
    (node : (evaluateNode scope (fun bound other => other.evaluate scope bound) [] expr).Completes
      (.ok expr) again) : expr.Rests scope (taken + 1) := by
  refine ⟨1 + again, by omega, ?_⟩
  rw [evaluate_eq]
  exact completes_step.bind node

/-- An evaluation that is followed by something free completes in its own steps. -/
theorem Evaluation.Completes.bind_pure {α β : Type} {run : Evaluation α} {answer : α} {result : β}
    {next : α → Evaluation β} (completes : run.Completes (.ok answer) taken)
    (free : next answer = pure result) : (run >>= next).Completes (.ok result) taken :=
  completes.bind (free ▸ completes_pure result)

/-- A literal evaluates to itself. -/
theorem Expr.rests_of_fixed (fixed : expr.isFixed = true) : expr.Rests scope (taken + 1) :=
  ⟨1, Nat.le_add_left 1 taken, Expr.completes_of_settled (.inl fixed)⟩

/-- An evaluation that starts with that of a tree goes on with what rests of the tree. -/
theorem Scope.RestsWithin.bind {α : Type} {next : Expr → Evaluation α} {result : α}
    (rests : scope.RestsWithin bound) (few : budget.remaining ≤ bound)
    (answered : (expr.evaluate scope [] >>= next) budget = .ok result left) :
    ∃ residual taken, residual.Rests scope taken ∧ (budget.spend taken).remaining ≤ bound ∧
      next residual (budget.spend taken) = .ok result left := by
  obtain ⟨residual, middle, here, answered⟩ := bind_ok answered
  obtain ⟨taken, paid, completes, rfl⟩ := (expr.evaluate_metered scope []).paid here
  refine ⟨residual, taken, rests (Nat.le_trans paid few) completes, ?_, answered⟩
  rw [Budget.remaining_spend]
  omega

/-- An evaluation that starts with those of trees in order goes on with what rests of them. -/
theorem Scope.RestsWithin.bind_mapM {α : Type} {exprs : List Expr}
    {next : List Expr → Evaluation α} {result : α} (rests : scope.RestsWithin bound)
    (few : budget.remaining ≤ bound)
    (answered : (exprs.mapM (Expr.evaluate scope []) >>= next) budget =
      .ok result left) :
    ∃ residuals taken, Expr.AllRest scope taken residuals ∧
      next residuals (budget.spend taken) = .ok result left := by
  induction exprs generalizing next budget with
  | nil =>
    refine ⟨[], 0, ⟨0, Nat.le_refl 0, ?_⟩, answered⟩
    rw [List.mapM_nil]
    exact completes_pure []
  | cons expr exprs ih =>
    rw [List.mapM_cons] at answered
    simp only [bind_assoc] at answered
    obtain ⟨residual, first, ⟨again, fewer, completes⟩, few, answered⟩ := rests.bind few answered
    obtain ⟨residuals, later, ⟨others, fewerOthers, completesOthers⟩, answered⟩ := ih few answered
    refine ⟨residual :: residuals, first + later, ⟨again + (others + 0), by omega, ?_⟩, ?_⟩
    · rw [List.mapM_cons]
      exact completes.bind (completesOthers.bind (completes_pure _))
    · rw [← Budget.spend_spend]
      simpa using answered

end Runs

section Forms

variable {scope : Scope} {expr residual : Expr} {budget left : Budget} {bound : Nat}
  (rests : scope.RestsWithin bound) (few : budget.remaining ≤ bound)

include rests few

/-- What an operator with one operand leaves evaluates to itself. -/
theorem unary_rests {operator : UnaryOperator} {operand : Expr}
    (answered : evaluateUnary scope (fun bound other => other.evaluate scope bound) [] expr operator
      operand budget = .ok residual left) : residual.RestsAfter scope budget left := by
  unfold evaluateUnary at answered
  dsimp only at answered
  split at answered
  · contradiction
  · next harmless =>
    obtain ⟨operand', taken, ⟨again, fewer, completes⟩, -, answered⟩ := rests.bind few answered
    cases computed : operand'.fixedInteger?.bind operator.compute? with
    | some integer =>
      simp only [computed] at answered
      obtain ⟨rfl, rfl⟩ := EStateM.Result.ok.inj answered
      exact ⟨taken, rfl, Expr.rests_of_fixed rfl⟩
    | none =>
      simp only [computed] at answered
      obtain ⟨rfl, rfl⟩ := EStateM.Result.ok.inj answered
      refine ⟨taken, rfl, Expr.rests_of_node again fewer ?_⟩
      change (evaluateUnary scope _ [] _ operator operand').Completes _ _
      unfold evaluateUnary
      dsimp only
      rw [if_neg harmless]
      refine completes.bind_pure ?_
      simp only [computed, Expr.derive_derive]

omit rests few in
/-- Evaluated operands decide for all nodes of an operator alike whether it is computed or built
anew. -/
theorem foldBinary_cases (scope : Scope) (operator : BinaryOperator) (first second : Expr) :
    (∃ computed : Except Failure Int, ∀ node : Expr, foldBinary scope node operator first second =
      match computed with
      | .ok result => pure ((node.derive (.binary operator first second)).folded scope result)
      | .error failure => throw failure) ∨
      ∀ node : Expr, foldBinary scope node operator first second =
        pure (node.derive (.binary operator first second)) := by
  unfold foldBinary
  cases first.fixedInteger? with
  | none => exact .inr fun _ => rfl
  | some left =>
    cases second.fixedInteger? with
    | none => exact .inr fun _ => rfl
    | some right =>
      cases (first.typeOf scope).fundamental? with
      | none => exact .inr fun _ => rfl
      | some leftType =>
        cases (second.typeOf scope).fundamental? with
        | none => exact .inr fun _ => rfl
        | some rightType =>
          exact .inl ⟨operator.compute leftType rightType left right, fun _ => rfl⟩

/-- What an operator with two operands leaves evaluates to itself. -/
theorem binary_rests {operator : BinaryOperator} {first second : Expr}
    (answered : evaluateBinary scope (fun bound other => other.evaluate scope bound) [] expr
      operator first second budget = .ok residual left) :
    residual.RestsAfter scope budget left := by
  have harmless := evaluateBinary_harmless answered
  rw [evaluateBinary_eq harmless] at answered
  obtain ⟨first', taken, ⟨again, fewer, completes⟩, few, answered⟩ := rests.bind few answered
  cases decided : operator.decision? first' with
  | some truth =>
    simp only [decided] at answered
    obtain ⟨rfl, rfl⟩ := EStateM.Result.ok.inj answered
    exact ⟨taken, rfl, Expr.rests_of_fixed rfl⟩
  | none =>
    simp only [decided] at answered
    obtain ⟨second', taken', ⟨again', fewer', completes'⟩, -, answered⟩ := rests.bind few answered
    rw [Budget.spend_spend] at answered
    rcases foldBinary_cases scope operator first' second' with ⟨computed, folds⟩ | rebuilds
    · rw [folds] at answered
      cases computed with
      | error failure => contradiction
      | ok result =>
        obtain ⟨rfl, rfl⟩ := EStateM.Result.ok.inj answered
        exact ⟨taken + taken', rfl, Expr.rests_of_fixed rfl⟩
    · rw [rebuilds] at answered
      obtain ⟨rfl, rfl⟩ := EStateM.Result.ok.inj answered
      refine ⟨taken + taken', rfl, Expr.rests_of_node (again + again') (by omega) ?_⟩
      change (evaluateBinary scope _ [] _ operator first' second').Completes _ _
      rw [evaluateBinary_eq harmless]
      refine completes.bind ?_
      simp only [decided]
      refine completes'.bind_pure ?_
      rw [rebuilds, Expr.derive_derive]

omit few rests in
/-- What is left unconverted rests as it is, and what is converted is a literal. -/
theorem Expr.Rests.convertTo {taken total : Nat} {type : Ty} (resting : residual.Rests scope taken)
    (within : taken ≤ total + 1) : (residual.convertTo type).Rests scope (total + 1) := by
  cases fixed : residual.isFixed with
  | true => exact Expr.rests_of_fixed (Expr.isFixed_convertTo fixed)
  | false =>
    rw [Expr.convertTo_of_unfixed (Expr.fixedValue_of_unfixed fixed)]
    obtain ⟨again, fewer, completes⟩ := resting
    exact ⟨again, Nat.le_trans fewer within, completes⟩

/-- What a choice leaves evaluates to itself. -/
theorem conditional_rests {condition positive negative : Expr}
    (answered : evaluateConditional scope (fun bound other => other.evaluate scope bound) [] expr
      condition positive negative budget = .ok residual left) :
    residual.RestsAfter scope budget left := by
  obtain ⟨condition', taken, ⟨again, fewer, completes⟩, few, answered⟩ := rests.bind few answered
  cases decided : condition'.fixedTruth? with
  | some truth =>
    simp only [decided] at answered
    obtain ⟨branch, taken', resting, -, answered⟩ := rests.bind few answered
    rw [Budget.spend_spend] at answered
    obtain ⟨rfl, rfl⟩ := EStateM.Result.ok.inj answered
    exact ⟨taken + taken', rfl, resting.convertTo (by omega)⟩
  | none =>
    simp only [decided] at answered
    obtain ⟨positive', taken', ⟨again', fewer', completes'⟩, few, answered⟩ :=
      rests.bind few answered
    obtain ⟨negative', taken'', ⟨again'', fewer'', completes''⟩, -, answered⟩ :=
      rests.bind few answered
    rw [Budget.spend_spend, Budget.spend_spend] at answered
    obtain ⟨rfl, rfl⟩ := EStateM.Result.ok.inj answered
    refine ⟨taken + (taken' + taken''), rfl,
      Expr.rests_of_node (again + (again' + again'')) (by omega) ?_⟩
    change (evaluateConditional scope _ [] _ condition' positive' negative').Completes _ _
    refine completes.bind ?_
    simp only [decided]
    refine completes'.bind (completes''.bind_pure ?_)
    rw [Expr.derive_derive]

/-- What a braced list leaves evaluates to itself. -/
theorem braced_rests {clauses : List Expr}
    (answered : evaluateBraced (fun bound other => other.evaluate scope bound) [] expr clauses
      budget = .ok residual left) : residual.RestsAfter scope budget left := by
  obtain ⟨clauses', taken, ⟨again, fewer, completes⟩, answered⟩ := rests.bind_mapM few answered
  cases known : Expr.fixedValues? clauses' with
  | some values =>
    simp only [known] at answered
    obtain ⟨rfl, rfl⟩ := EStateM.Result.ok.inj answered
    exact ⟨taken, rfl, Expr.rests_of_fixed rfl⟩
  | none =>
    simp only [known] at answered
    obtain ⟨rfl, rfl⟩ := EStateM.Result.ok.inj answered
    refine ⟨taken, rfl, Expr.rests_of_node again fewer ?_⟩
    change (evaluateBraced (fun bound other => other.evaluate scope bound) [] _ clauses').Completes
      _ _
    refine completes.bind_pure ?_
    simp only [known, Expr.derive_derive]

/-- What a list of operands leaves evaluates to itself. -/
theorem comma_rests {operands : List Expr}
    (answered : evaluateComma (fun bound other => other.evaluate scope bound) [] expr operands
      budget = .ok residual left) : residual.RestsAfter scope budget left := by
  obtain ⟨operands', taken, ⟨again, fewer, completes⟩, answered⟩ := rests.bind_mapM few answered
  -- The list is built anew unless its last operand is a literal.
  have builds (open_ : ∀ last, operands'.getLast? = some last → last.isFixed = false)
      (built : (pure (expr.derive (.comma operands')) : Evaluation Expr) (budget.spend taken) =
        .ok residual left) : residual.RestsAfter scope budget left := by
    obtain ⟨rfl, rfl⟩ := EStateM.Result.ok.inj built
    refine ⟨taken, rfl, Expr.rests_of_node again fewer ?_⟩
    change (evaluateComma (fun bound other => other.evaluate scope bound) [] _ operands').Completes
      _ _
    refine completes.bind_pure ?_
    cases last : operands'.getLast? with
    | none => simp only [Expr.derive_derive]
    | some operand =>
      simp only [open_ operand last, Bool.false_eq_true, if_false, Expr.derive_derive]
  cases last : operands'.getLast? with
  | none =>
    simp only [last] at answered
    exact builds (by simp [last]) answered
  | some operand =>
    simp only [last] at answered
    split at answered
    · next fixed =>
      obtain ⟨rfl, rfl⟩ := EStateM.Result.ok.inj answered
      exact ⟨taken, rfl, Expr.rests_of_fixed fixed⟩
    · next unfixed =>
      refine builds (fun other same => ?_) answered
      rw [last] at same
      exact Option.some.inj same ▸ Bool.eq_false_iff.mpr unfixed

/-- What a cast or a value initialization leaves evaluates to itself. -/
theorem construct_rests {type : Ty} {arguments : List Expr}
    (answered : evaluateConstruct scope (fun bound other => other.evaluate scope bound) [] expr type
      arguments budget = .ok residual left) : residual.RestsAfter scope budget left := by
  obtain ⟨arguments', taken, ⟨again, fewer, completes⟩, answered⟩ := rests.bind_mapM few answered
  have builds
      (rebuilds : ∀ node : Expr, (evaluateConstruct scope
        (fun bound other => other.evaluate scope bound) [] node type arguments').Completes
          (.ok (node.derive (.construct type arguments'))) again)
      (built : (pure (expr.derive (.construct type arguments')) : Evaluation Expr)
        (budget.spend taken) = .ok residual left) : residual.RestsAfter scope budget left := by
    obtain ⟨rfl, rfl⟩ := EStateM.Result.ok.inj built
    have same := rebuilds (expr.derive (.construct type arguments'))
    rw [Expr.derive_derive] at same
    exact ⟨taken, rfl, Expr.rests_of_node again fewer same⟩
  dsimp only at answered
  split at answered
  · next open_ =>
    refine builds (fun node => completes.bind_pure ?_) answered
    simp only [open_, if_true]
  · next scalar =>
    match arguments', completes, builds, answered with
    | [], _, _, answered =>
      obtain ⟨rfl, rfl⟩ := EStateM.Result.ok.inj answered
      exact ⟨taken, rfl, Expr.rests_of_fixed rfl⟩
    | [argument], completes, builds, answered =>
      dsimp only at answered
      split at answered
      · next fixed =>
        obtain ⟨rfl, rfl⟩ := EStateM.Result.ok.inj answered
        exact ⟨taken, rfl, Expr.rests_of_fixed (Expr.isFixed_convertTo fixed)⟩
      · next unfixed =>
        refine builds (fun node => completes.bind_pure ?_) answered
        simp only [scalar, unfixed, Bool.false_eq_true, if_false]
    | _ :: _ :: _, completes, builds, answered =>
      refine builds (fun node => completes.bind_pure ?_) answered
      simp only [scalar, Bool.false_eq_true, if_false]

/-- What a usable variable leaves evaluates to itself. -/
theorem variable_rests {id : VariableId} {type : Ty} {initializer : Expr}
    (usable : scope.constantInitializer? id = some initializer)
    (answered : evaluateVariable scope (fun bound other => other.evaluate scope bound) expr id type
      budget = .ok residual left) : residual.RestsAfter scope budget left := by
  simp only [evaluateVariable, usable] at answered
  obtain ⟨value, taken, resting, -, answered⟩ := rests.bind few answered
  obtain ⟨rfl, rfl⟩ := EStateM.Result.ok.inj answered
  exact ⟨taken, rfl, resting.convertTo (Nat.le_succ taken)⟩

/-- What a call leaves evaluates to itself. -/
theorem call_rests {callee : Expr} {arguments : List Expr}
    (answered : evaluateCall scope (fun bound other => other.evaluate scope bound) [] expr callee
      arguments budget = .ok residual left) : residual.RestsAfter scope budget left := by
  obtain ⟨callee', first, ⟨again, fewer, completes⟩, few, answered⟩ := rests.bind few answered
  obtain ⟨arguments', taken, ⟨again', fewer', completes'⟩, answered⟩ :=
    rests.bind_mapM few answered
  rw [Budget.spend_spend] at answered
  -- A call that is built anew spends no more on its parts, and as much on its body.
  have builds (body : Nat)
      (rebuilds : ∀ node : Expr, (evaluateCall scope
        (fun bound other => other.evaluate scope bound) [] node callee' arguments').Completes
          (.ok (node.derive (.call callee' arguments'))) (again + (again' + body)))
      (same : residual = expr.derive (.call callee' arguments'))
      (spent : left = budget.spend (first + taken + body)) :
      residual.RestsAfter scope budget left := by
    have node := rebuilds (expr.derive (.call callee' arguments'))
    rw [Expr.derive_derive] at node
    subst same
    exact ⟨_, spent, Expr.rests_of_node _ (by omega) node⟩
  cases named : callee'.overloadSet? with
  | none =>
    simp only [named] at answered
    obtain ⟨rfl, rfl⟩ := EStateM.Result.ok.inj answered
    refine builds 0 (fun node => completes.bind (completes'.bind_pure ?_)) rfl rfl
    simp only [named]
  | some set =>
    simp only [named] at answered
    split at answered
    · next unknown =>
      obtain ⟨rfl, rfl⟩ := EStateM.Result.ok.inj answered
      refine builds 0 (fun node => completes.bind (completes'.bind_pure ?_)) rfl rfl
      simp only [named, unknown, if_true]
    · next known =>
      cases entered : callee? scope set arguments'.length with
      | error =>
        simp only [entered] at answered
        contradiction
      | ok callable =>
        obtain ⟨id, decl, body⟩ := callable
        simp only [entered] at answered
        obtain ⟨result, middle, inside, answered⟩ := bind_ok answered
        obtain ⟨steps, -, completesBody, rfl⟩ :=
          ((body.evaluate_metered scope _).withinCall id).paid inside
        rw [Budget.spend_spend] at answered
        split at answered
        · next fixed =>
          obtain ⟨rfl, rfl⟩ := EStateM.Result.ok.inj answered
          exact ⟨_, rfl, Expr.rests_of_fixed (Expr.isFixed_convertTo fixed)⟩
        · next unfixed =>
          obtain ⟨rfl, rfl⟩ := EStateM.Result.ok.inj answered
          refine builds steps (fun node => completes.bind (completes'.bind ?_)) rfl rfl
          simp only [named, known, entered]
          refine completesBody.bind_pure ?_
          simp only [unfixed, Bool.false_eq_true, if_false]

/-- What the evaluation of a node leaves evaluates to itself. -/
theorem node_rests (answered : evaluateNode scope (fun bound other => other.evaluate scope bound) []
    expr budget = .ok residual left) (keeps : residual ≠ expr) :
    residual.RestsAfter scope budget left := by
  obtain ⟨form, template⟩ := expr
  cases form with
  | fixed | templateRef | overloads | expansion =>
    exact absurd (EStateM.Result.ok.inj answered).1.symm keeps
  | parameterRef position type isPack =>
    cases isPack <;> exact absurd (EStateM.Result.ok.inj answered).1.symm keeps
  | typeTrait operator type =>
    obtain ⟨result, rfl⟩ := EStateM.Result.ok.inj answered
    unfold evaluateTypeTrait at result
    split at result
    · exact absurd result.symm keeps
    · split at result
      · exact ⟨0, rfl, Expr.rests_of_fixed (result ▸ rfl)⟩
      · exact absurd result.symm keeps
  | variableRef id type =>
    cases usable : scope.constantInitializer? id with
    | some initializer => exact variable_rests rests few usable answered
    | none =>
      simp only [evaluateNode, Expr.form, evaluateVariable, usable] at answered
      exact absurd (EStateM.Result.ok.inj answered).1.symm keeps
  | unary => exact unary_rests rests few answered
  | binary => exact binary_rests rests few answered
  | conditional => exact conditional_rests rests few answered
  | comma => exact comma_rests rests few answered
  | call => exact call_rests rests few answered
  | braced => exact braced_rests rests few answered
  | construct => exact construct_rests rests few answered

end Forms

/-- Whatever an evaluation without arguments leaves evaluates to itself, in no more steps. -/
theorem rests_within (scope : Scope) (bound : Nat) : scope.RestsWithin bound := by
  have unpaid {expr residual : Expr} : ¬(expr.evaluate scope []).Completes (.ok residual) 0 := by
    intro completes
    have answered := completes.enough ⟨0, 0⟩ (Nat.le_refl 0)
    rw [evaluate_eq, bind_apply, step_of_exhausted rfl] at answered
    contradiction
  induction bound with
  | zero =>
    intro expr residual taken none completes
    obtain rfl := Nat.le_zero.mp none
    exact absurd completes unpaid
  | succ bound ih =>
    intro expr residual taken within completes
    by_cases kept : residual = expr
    · exact ⟨taken, Nat.le_refl taken, by rwa [kept] at completes ⊢⟩
    · cases taken with
      | zero => exact absurd completes unpaid
      | succ taken =>
        have answered := completes.enough ⟨0, taken + 1⟩ (Nat.le_refl _)
        have left : 0 < (⟨0, taken + 1⟩ : Budget).remaining := Nat.succ_pos taken
        rw [evaluate_eq, bind_apply, step_of_remaining left] at answered
        have few : (⟨0 + 1, taken + 1⟩ : Budget).remaining ≤ bound := Nat.le_of_succ_le_succ within
        obtain ⟨spent, same, rests⟩ := node_rests ih few answered kept
        have all : 0 + (taken + 1) = 0 + 1 + spent := congrArg Budget.performed same
        obtain rfl : spent = taken := by omega
        exact rests

/-- Without arguments for parameters, an expression that evaluates to a tree from a fresh budget
leaves a tree that evaluates to itself from such a budget, and that takes no more steps. -/
theorem evaluate_idempotent (scope : Scope) (limit : Nat) (expr residual : Expr) (left : Budget)
    (answered : expr.evaluate scope [] (Budget.fresh limit) = .ok residual left) :
    ∃ left' : Budget, residual.evaluate scope [] (Budget.fresh limit) = .ok residual left' ∧
      left'.performed ≤ left.performed := by
  obtain ⟨taken, paid, completes, rfl⟩ := (expr.evaluate_metered scope []).paid answered
  obtain ⟨again, fewer, rests⟩ := rests_within scope taken (Nat.le_refl taken) completes
  exact ⟨_, rests.enough _ (Nat.le_trans fewer paid), Nat.add_le_add_left fewer _⟩

/-- A variable whose value is not known, and a function that adds its parameter to it. -/
def unknownOffset : Table :=
  ⟨[⟨"shift", [.fundamental .int], .fundamental .int,
      some (.of (.binary (.arithmetic .add) (.of (.variableRef ⟨0⟩ (.fundamental .int)))
        (.of (.parameterRef 0 (.fundamental .int) false)))), true⟩],
    [⟨"offset", .fundamental .int, none, false⟩]⟩

/-- The call `shift(argument)`. -/
def shiftCall (argument : Expr) : Expr :=
  .of (.call (.of (.overloads ⟨[⟨0⟩], "shift", none⟩)) [argument])

/-- The call `shift(-1)` is left with its argument folded, since the body is not; evaluated again it
enters the body again and saves the step of the operand. -/
theorem evaluate_idempotent_of_call :
    (shiftCall (.of (.unary .minus (.int 1)))).evaluate unknownOffset.scope [] (Budget.fresh 9) =
        .ok (shiftCall (.int (-1))) ⟨7, 9⟩ ∧
      ∃ left : Budget, (shiftCall (.int (-1))).evaluate unknownOffset.scope [] (Budget.fresh 9) =
        .ok (shiftCall (.int (-1))) left ∧ left.performed ≤ 7 := by
  have answered : (shiftCall (.of (.unary .minus (.int 1)))).evaluate unknownOffset.scope []
      (Budget.fresh 9) = .ok (shiftCall (.int (-1))) ⟨7, 9⟩ := rfl
  exact ⟨answered, evaluate_idempotent unknownOffset.scope 9 _ _ _ answered⟩

end ConstExpr
