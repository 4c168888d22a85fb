import ConstExpr.Proofs.Evaluate.Outcomes

/-!
# Residuals of partial evaluations

Without arguments for the parameters, an evaluation leaves a residual in which the parameters stay.
The residual is evaluated with the arguments to the same outcome as the expression
(`residual_keeps_meaning`), unless what it was collapsed to has lost something: a choice that is
decided without the arguments is replaced by a branch that is not converted to the type of the
choice once it becomes known, a choice that is not decided can change its type with its branches,
and a list of operands that becomes its last one no longer fails where another operand does.
-/
namespace ConstExpr

open Evaluation

/-- Given enough steps, the expression evaluates to the result. -/
def Expr.EvaluatesTo (scope : Scope) (parameters : List Expr) (expr result : Expr) : Prop :=
  ∃ steps, (expr.evaluate scope parameters).Completes (.ok result) steps

/-- Without arguments for the parameters, the expression evaluates to the residual from a budget
with no more than the steps left. -/
def Expr.LeavesWithin (scope : Scope) (steps : Nat) (expr residual : Expr) : Prop :=
  ∃ budget left, budget.remaining ≤ steps ∧ expr.evaluate scope [] budget = .ok residual left

/-- The residual is evaluated with arguments as the expression is with parameters. -/
def Expr.Agrees (scope : Scope) (parameters arguments : List Expr) (expr residual : Expr) : Prop :=
  SameOutcome Coincides (expr.evaluate scope parameters) (residual.evaluate scope arguments)

/-- What the branch leaves is a literal, or converting what the branch evaluates to with the
arguments to the type changes nothing. -/
def Expr.KeepsConversion (scope : Scope) (arguments : List Expr) (type : Ty) (branch : Expr) :
    Prop :=
  ∀ residual result, branch.EvaluatesTo scope [] residual → residual.isFixed = false →
    branch.EvaluatesTo scope arguments result → result.convertTo type = result

namespace Form

/-- The form mentions no parameter of a function. -/
def IsParameterFree : Form Expr → Prop
  | parameterRef .. => False
  | _ => True

/-- What is left of the form without the arguments loses nothing that matters with them. A choice
that is decided without the arguments keeps the conversion of its branch. One that only the
arguments decide has the same type when its branches are evaluated without them. The operands
before a literal do not fail with the arguments. -/
def KeepsMeaning (scope : Scope) (arguments : List Expr) : Form Expr → Prop
  | conditional condition positive negative =>
    (∀ condition' truth, condition.EvaluatesTo scope [] condition' →
      condition'.fixedTruth? = some truth →
        (if truth then positive else negative).KeepsConversion scope arguments
          ((positive.typeOf scope).merge (negative.typeOf scope))) ∧
    ∀ condition' result positive' negative' template, condition.EvaluatesTo scope [] condition' →
      condition'.fixedTruth? = none → condition.EvaluatesTo scope arguments result →
        result.fixedTruth?.isSome = true → positive.EvaluatesTo scope [] positive' →
          negative.EvaluatesTo scope [] negative' →
            (Expr.node (.conditional condition' positive' negative') template).typeOf scope =
              (positive.typeOf scope).merge (negative.typeOf scope)
  | comma operands => ∀ last literal, operands.getLast? = some last →
    last.EvaluatesTo scope [] literal → literal.isFixed = true →
      ∀ operand ∈ operands, ∀ residual, operand.EvaluatesTo scope [] residual →
        ∃ result, operand.EvaluatesTo scope arguments result
  | _ => True

end Form

section Runs

variable {scope : Scope} {parameters arguments : List Expr} {expr residual : Expr}

/-- An expression evaluates to one result only. -/
theorem Expr.EvaluatesTo.unique {other : Expr} (first : expr.EvaluatesTo scope parameters residual)
    (second : expr.EvaluatesTo scope parameters other) : other = residual := by
  obtain ⟨_, completes⟩ := first
  obtain ⟨_, completes'⟩ := second
  exact completes.answer_unique completes'

/-- What an evaluation answers from some budget is what the expression evaluates to. -/
theorem Expr.evaluatesTo_of_ok {budget left : Budget}
    (answered : expr.evaluate scope parameters budget = .ok residual left) :
    expr.EvaluatesTo scope parameters residual := by
  obtain ⟨steps, completes, -⟩ := (expr.evaluate_metered scope parameters).completes answered
  exact ⟨steps, completes⟩

/-- What an expression leaves it evaluates to without arguments. -/
theorem Expr.LeavesWithin.evaluatesTo {steps : Nat}
    (leaves : expr.LeavesWithin scope steps residual) : expr.EvaluatesTo scope [] residual := by
  obtain ⟨budget, left, -, answered⟩ := leaves
  exact evaluatesTo_of_ok answered

/-- Literals and names of overload sets are evaluated to themselves. -/
theorem Expr.completes_of_settled
    (settled : expr.isFixed = true ∨ expr.overloadSet?.isSome = true) :
    (expr.evaluate scope parameters).Completes (.ok expr) 1 := by
  have kept : (evaluateNode scope (fun arguments other => other.evaluate scope arguments) parameters
      expr).Completes (.ok expr) 0 := by
    obtain ⟨form, template⟩ := expr
    cases form with
    | fixed | overloads => exact completes_pure _
    | _ => rcases settled with fixed | named <;> contradiction
  rw [evaluate_eq]
  exact @Completes.bind _ _ _ (fun _ => _) () _ 1 0 completes_step kept

/-- Where nothing is bound, no form loses its meaning. -/
theorem Form.keepsMeaning_nil (form : Form Expr) : form.KeepsMeaning scope [] := by
  unfold KeepsMeaning
  split
  · refine ⟨fun condition' truth _ _ residual result leaves unfixed evaluates => ?_,
      fun condition' result _ _ _ leaves undecided evaluates decided _ _ => ?_⟩
    · obtain rfl := leaves.unique evaluates
      exact Expr.convertTo_of_unfixed (Expr.fixedValue_of_unfixed unfixed)
    · obtain rfl := leaves.unique evaluates
      rw [undecided] at decided
      contradiction
  · exact fun _ _ _ _ _ _ _ residual leaves => ⟨residual, leaves⟩
  · trivial

/-- What evaluates to an answer that another evaluation follows. -/
theorem bind_ok {α β : Type} {first : Evaluation α} {next : α → Evaluation β} {budget left : Budget}
    {result : β} (answered : (first >>= next) budget = .ok result left) :
    ∃ answer middle, first budget = .ok answer middle ∧ next answer middle = .ok result left := by
  rw [bind_apply] at answered
  split at answered
  · next answer middle here => exact ⟨answer, middle, here, answered⟩
  · contradiction

/-- An evaluation that starts with that of a tree leaves something of the tree, and no more steps
than it started with. -/
theorem leaves_of_bind {α : Type} {next : Expr → Evaluation α} {budget left : Budget} {result : α}
    {steps : Nat} (few : budget.remaining ≤ steps)
    (answered : (expr.evaluate scope [] >>= next) budget = .ok result left) :
    ∃ residual middle, middle.remaining ≤ steps ∧ expr.LeavesWithin scope steps residual ∧
      next residual middle = .ok result left := by
  obtain ⟨residual, middle, here, rest⟩ := bind_ok answered
  obtain ⟨taken, -, rfl⟩ := (expr.evaluate_metered scope []).completes here
  refine ⟨residual, _, ?_, ⟨budget, _, few, here⟩, rest⟩
  rw [Budget.remaining_spend]
  exact Nat.le_trans (Nat.sub_le _ _) few

/-- An evaluation that starts with those of trees in order leaves something of each. -/
theorem leaves_of_mapM {α : Type} {exprs : List Expr} {next : List Expr → Evaluation α}
    {budget left : Budget} {result : α} {steps : Nat} (few : budget.remaining ≤ steps)
    (answered : (exprs.mapM (fun expr => expr.evaluate scope []) >>= next) budget =
      .ok result left) :
    ∃ residuals middle, middle.remaining ≤ steps ∧
      List.Forall₂ (Expr.LeavesWithin scope steps) exprs residuals ∧
      next residuals middle = .ok result left := by
  induction exprs generalizing next budget with
  | nil => exact ⟨[], budget, few, .nil, answered⟩
  | cons expr exprs ih =>
    rw [List.mapM_cons] at answered
    simp only [bind_assoc] at answered
    obtain ⟨residual, middle, few, leaves, answered⟩ := leaves_of_bind few answered
    obtain ⟨residuals, last, few, others, answered⟩ := ih few answered
    exact ⟨residual :: residuals, last, few, .cons leaves others, by simpa using answered⟩

end Runs

section Agreement

variable {scope : Scope} {parameters arguments : List Expr} {expr residual : Expr}

/-- Trees evaluate to the same outcome when their nodes do. -/
theorem sameOutcome_of_node {expr' : Expr}
    (same : SameOutcome Expr.Coincides
      (evaluateNode scope (fun bound other => other.evaluate scope bound) parameters expr)
      (evaluateNode scope (fun bound other => other.evaluate scope bound) arguments expr')) :
    SameOutcome Expr.Coincides (expr.evaluate scope parameters)
      (expr'.evaluate scope arguments) := by
  rw [evaluate_eq, evaluate_eq]
  exact sameOutcome_simulation.bind sameOutcome_simulation.step fun _ _ _ => same

/-- Where the residual is settled, the expression evaluates to what coincides with it. -/
theorem Expr.Agrees.completes (agrees : expr.Agrees scope parameters arguments residual)
    (settled : residual.isFixed = true ∨ residual.overloadSet?.isSome = true) :
    ∃ result steps, (expr.evaluate scope parameters).Completes (.ok result) steps ∧
      result.Coincides residual := by
  have kept : (residual.evaluate scope arguments).Completes (.ok residual) 1 :=
    completes_of_settled settled
  cases agrees with
  | failed _ fails => exact (kept.not_failed fails).elim
  | answered completes completes' coincide =>
    obtain rfl := kept.answer_unique completes'
    exact ⟨_, _, completes, coincide⟩
  | endless _ diverges => exact (kept.not_endless diverges).elim

/-- Where the residual is settled, the expression evaluates with parameters as it does without. -/
theorem Expr.Agrees.settle (agrees : expr.Agrees scope parameters arguments residual)
    (leaves : expr.EvaluatesTo scope [] residual)
    (settled : residual.isFixed = true ∨ residual.overloadSet?.isSome = true) :
    SameOutcome Coincides (expr.evaluate scope parameters) (expr.evaluate scope []) := by
  obtain ⟨_, left⟩ := leaves
  obtain ⟨_, _, completes, coincide⟩ := agrees.completes settled
  exact .answered completes left coincide

/-- A literal that is left agrees with the expression when that evaluates with parameters as it does
without. -/
theorem Expr.agrees_of_folded (leaves : expr.EvaluatesTo scope [] residual)
    (fixed : residual.isFixed = true)
    (same : SameOutcome Coincides (expr.evaluate scope parameters) (expr.evaluate scope [])) :
    expr.Agrees scope parameters arguments residual := by
  obtain ⟨_, left⟩ := leaves
  have kept : (residual.evaluate scope arguments).Completes (.ok residual) 1 :=
    completes_of_settled (.inl fixed)
  cases same with
  | failed _ fails => exact (left.not_failed fails).elim
  | answered completes completes' coincide =>
    obtain rfl := left.answer_unique completes'
    exact .answered completes kept coincide
  | endless _ diverges => exact (left.not_endless diverges).elim

end Agreement

/-- An operator on evaluated operands folds on literals only, and is otherwise built anew. -/
theorem foldBinary_ok {scope : Scope} {expr result left right : Expr} {operator : BinaryOperator}
    {budget rest : Budget}
    (answered : foldBinary scope expr operator left right budget = .ok result rest) :
    left.isFixed = true ∧ right.isFixed = true ∧ result.isFixed = true ∨
      result = expr.derive (.binary operator left right) := by
  have rebuilt (kept : (pure (expr.derive (.binary operator left right)) : Evaluation Expr) budget =
      .ok result rest) : left.isFixed = true ∧ right.isFixed = true ∧ result.isFixed = true ∨
        result = expr.derive (.binary operator left right) :=
    .inr (EStateM.Result.ok.inj kept).1.symm
  unfold foldBinary at answered
  cases leftKnown : left.fixedInteger? with
  | none => exact rebuilt (by simpa only [leftKnown] using answered)
  | some first =>
    cases rightKnown : right.fixedInteger? with
    | none => exact rebuilt (by simpa only [leftKnown, rightKnown] using answered)
    | some second =>
      cases leftType : (left.typeOf scope).fundamental? with
      | none => exact rebuilt (by simpa only [leftKnown, rightKnown, leftType] using answered)
      | some firstType =>
        cases rightType : (right.typeOf scope).fundamental? with
        | none =>
          exact rebuilt (by simpa only [leftKnown, rightKnown, leftType, rightType] using answered)
        | some secondType =>
          simp only [leftKnown, rightKnown, leftType, rightType] at answered
          cases computed : operator.compute firstType secondType first second with
          | ok integer =>
            simp only [computed] at answered
            obtain ⟨rfl, -⟩ := EStateM.Result.ok.inj answered
            exact .inl ⟨Expr.isFixed_of_integer leftKnown, Expr.isFixed_of_integer rightKnown, rfl⟩
          | error =>
            simp only [computed] at answered
            contradiction

/-- The truth value that an evaluated left operand decides a connective with, if it does. -/
def BinaryOperator.decision? (operator : BinaryOperator) (left : Expr) : Option Bool :=
  operator.decisive?.filter fun truth => left.fixedTruth? == some truth

/-- An operator that modifies nothing evaluates its left operand and, where that decides nothing,
its right one. -/
theorem evaluateBinary_eq {scope : Scope} {recur : List Expr → Expr → Evaluation Expr}
    {parameters : List Expr} {operator : BinaryOperator} (harmless : operator.isAssignment = false)
    (expr left right : Expr) : evaluateBinary scope recur parameters expr operator left right =
      recur parameters left >>= fun left =>
        match operator.decision? left with
        | some truth =>
          pure (expr.derive (.fixed (.fundamental .bool) (Value.ofBool truth) .prvalue))
        | none => recur parameters right >>= foldBinary scope expr operator left := by
  unfold evaluateBinary
  simp only [harmless, Bool.false_eq_true, if_false]
  refine congrArg _ (funext fun left => ?_)
  unfold BinaryOperator.decision?
  cases operator.decisive? with
  | none => rfl
  | some decides =>
    cases known : left.fixedTruth? with
    | none => rfl
    | some truth => by_cases same : truth = decides <;> simp [Option.filter, same]

/-- A left operand that decides a connective is a literal. -/
theorem isFixed_of_decision {operator : BinaryOperator} {left : Expr} {truth : Bool}
    (decided : operator.decision? left = some truth) : left.isFixed = true := by
  obtain ⟨-, known⟩ := Option.filter_eq_some_iff.mp decided
  exact Expr.isFixed_of_truth (beq_iff_eq.mp known)

/-- An operator that comes to an answer modifies nothing. -/
theorem evaluateBinary_harmless {scope : Scope} {recur : List Expr → Expr → Evaluation Expr}
    {parameters : List Expr} {operator : BinaryOperator} {expr left right result : Expr}
    {budget rest : Budget}
    (answered : evaluateBinary scope recur parameters expr operator left right budget =
      .ok result rest) : operator.isAssignment = false := by
  cases assigns : operator.isAssignment with
  | false => rfl
  | true =>
    simp only [evaluateBinary, assigns, if_true] at answered
    contradiction

section Forms

variable {scope : Scope} {parameters arguments : List Expr} {residual : Expr}
  {template : Option TemplateId} {budget left : Budget} {steps : Nat}

/-- What trees leave agrees with them in order. -/
theorem agrees_of_leaves {exprs residuals : List Expr}
    (leaves : List.Forall₂ (Expr.LeavesWithin scope steps) exprs residuals)
    (each : ∀ expr ∈ exprs, ∀ residual, expr.LeavesWithin scope steps residual →
      expr.Agrees scope parameters arguments residual) :
    List.Forall₂ (Expr.Agrees scope parameters arguments) exprs residuals := by
  induction leaves with
  | nil => exact .nil
  | cons first _ ih =>
    obtain ⟨head, tail⟩ := List.forall_mem_cons.mp each
    exact .cons (head _ first) (ih tail)

/-- Trees that leave literals evaluate with parameters as they do without. -/
theorem settle_of_leaves {exprs residuals : List Expr}
    (leaves : List.Forall₂ (Expr.LeavesWithin scope steps) exprs residuals)
    (each : ∀ expr ∈ exprs, ∀ residual, expr.LeavesWithin scope steps residual →
      expr.Agrees scope parameters arguments residual)
    (fixed : ∀ residual ∈ residuals, residual.isFixed = true) :
    List.Forall₂ (fun expr expr' => SameOutcome Expr.Coincides (expr.evaluate scope parameters)
      (expr'.evaluate scope [])) exprs exprs := by
  induction leaves with
  | nil => exact .nil
  | cons first _ ih =>
    obtain ⟨head, tail⟩ := List.forall_mem_cons.mp each
    obtain ⟨firstFixed, restFixed⟩ := List.forall_mem_cons.mp fixed
    exact .cons ((head _ first).settle first.evaluatesTo (.inl firstFixed)) (ih tail restFixed)

/-- An operator with one operand agrees with what it leaves when its operand does. -/
theorem unary_agrees {operator : UnaryOperator} {operand : Expr}
    (whole : (Expr.node (.unary operator operand) template).EvaluatesTo scope [] residual)
    (few : budget.remaining ≤ steps)
    (answered : evaluateUnary scope (fun bound other => other.evaluate scope bound) []
      (.node (.unary operator operand) template) operator operand budget = .ok residual left)
    (operands : ∀ operand', operand.LeavesWithin scope steps operand' →
      operand.Agrees scope parameters arguments operand') :
    (Expr.node (.unary operator operand) template).Agrees scope parameters arguments residual := by
  unfold evaluateUnary at answered
  dsimp only at answered
  split at answered
  · contradiction
  · obtain ⟨operand', middle, -, leaves, answered⟩ := leaves_of_bind few answered
    have agrees := operands operand' leaves
    cases computed : operand'.fixedInteger?.bind operator.compute? with
    | some integer =>
      simp only [computed] at answered
      obtain ⟨rfl, -⟩ := EStateM.Result.ok.inj answered
      obtain ⟨value, known, -⟩ := Option.bind_eq_some_iff.mp computed
      have same := agrees.settle leaves.evaluatesTo (.inl (Expr.isFixed_of_integer known))
      exact Expr.agrees_of_folded whole rfl
        (sameOutcome_of_node (evaluateUnary_alike sameOutcome_simulation Expr.coincides_likeness
          (Expr.Coincides.derives scope) same))
    | none =>
      simp only [computed] at answered
      obtain ⟨rfl, -⟩ := EStateM.Result.ok.inj answered
      exact sameOutcome_of_node (evaluateUnary_alike sameOutcome_simulation Expr.coincides_likeness
        (Expr.Coincides.derives scope) agrees)

/-- A connective that its left operand decides evaluates with parameters as it does without. -/
theorem evaluateBinary_decided {operator : BinaryOperator} {left right left' : Expr} {truth : Bool}
    {expr : Expr} (harmless : operator.isAssignment = false)
    (decided : operator.decision? left' = some truth) (leaves : left.EvaluatesTo scope [] left')
    (lefts : SameOutcome Expr.Coincides (left.evaluate scope parameters) (left.evaluate scope [])) :
    SameOutcome Expr.Coincides
      (evaluateBinary scope (fun bound other => other.evaluate scope bound) parameters expr operator
        left right)
      (evaluateBinary scope (fun bound other => other.evaluate scope bound) [] expr operator left
        right) := by
  rw [evaluateBinary_eq harmless, evaluateBinary_eq harmless]
  refine lefts.bind_of_reached fun first second _ _ _ reached coincide => ?_
  obtain rfl := leaves.unique ⟨_, reached⟩
  have alike : operator.decision? first = operator.decision? second := by
    rw [BinaryOperator.decision?, Expr.coincides_likeness.fixedTruth coincide]
    rfl
  simp only [alike, decided]
  exact sameOutcome_simulation.pure (.fixed rfl)

/-- An operator with two operands agrees with what it leaves when its operands do. -/
theorem binary_agrees {operator : BinaryOperator} {first second : Expr}
    (whole : (Expr.node (.binary operator first second) template).EvaluatesTo scope [] residual)
    (few : budget.remaining ≤ steps)
    (answered : evaluateBinary scope (fun bound other => other.evaluate scope bound) []
      (.node (.binary operator first second) template) operator first second budget =
        .ok residual left)
    (firsts : ∀ first', first.LeavesWithin scope steps first' →
      first.Agrees scope parameters arguments first')
    (seconds : ∀ second', second.LeavesWithin scope steps second' →
      second.Agrees scope parameters arguments second') :
    (Expr.node (.binary operator first second) template).Agrees scope parameters arguments
      residual := by
  have harmless := evaluateBinary_harmless answered
  rw [evaluateBinary_eq harmless] at answered
  obtain ⟨first', middle, few, firstLeaves, answered⟩ := leaves_of_bind few answered
  have firstAgrees := firsts first' firstLeaves
  cases decided : operator.decision? first' with
  | some truth =>
    simp only [decided] at answered
    obtain ⟨rfl, -⟩ := EStateM.Result.ok.inj answered
    have same := firstAgrees.settle firstLeaves.evaluatesTo (.inl (isFixed_of_decision decided))
    exact Expr.agrees_of_folded whole rfl (sameOutcome_of_node
      (evaluateBinary_decided harmless decided firstLeaves.evaluatesTo same))
  | none =>
    simp only [decided] at answered
    obtain ⟨second', middle, few, secondLeaves, answered⟩ := leaves_of_bind few answered
    have secondAgrees := seconds second' secondLeaves
    obtain ⟨firstFixed, secondFixed, fixed⟩ | rfl := foldBinary_ok answered
    · exact Expr.agrees_of_folded whole fixed (sameOutcome_of_node
        (evaluateBinary_alike sameOutcome_simulation Expr.coincides_likeness
          (Expr.Coincides.derives scope)
          (firstAgrees.settle firstLeaves.evaluatesTo (.inl firstFixed))
          (secondAgrees.settle secondLeaves.evaluatesTo (.inl secondFixed))))
    · exact sameOutcome_of_node
        (evaluateBinary_alike sameOutcome_simulation Expr.coincides_likeness
          (Expr.Coincides.derives scope) firstAgrees secondAgrees)

/-- A braced list agrees with what it leaves when its clauses do. -/
theorem braced_agrees {clauses : List Expr}
    (whole : (Expr.node (.braced clauses) template).EvaluatesTo scope [] residual)
    (few : budget.remaining ≤ steps)
    (answered : evaluateBraced (fun bound other => other.evaluate scope bound) []
      (.node (.braced clauses) template) clauses budget = .ok residual left)
    (each : ∀ clause ∈ clauses, ∀ clause', clause.LeavesWithin scope steps clause' →
      clause.Agrees scope parameters arguments clause') :
    (Expr.node (.braced clauses) template).Agrees scope parameters arguments residual := by
  obtain ⟨clauses', middle, -, leaves, answered⟩ := leaves_of_mapM few answered
  cases known : Expr.fixedValues? clauses' with
  | some values =>
    simp only [known] at answered
    obtain ⟨rfl, -⟩ := EStateM.Result.ok.inj answered
    exact Expr.agrees_of_folded whole rfl (sameOutcome_of_node (evaluateBraced_alike
      sameOutcome_simulation Expr.coincides_likeness (Expr.Coincides.derives scope)
      (settle_of_leaves leaves each (Expr.isFixed_of_fixedValues known))))
  | none =>
    simp only [known] at answered
    obtain ⟨rfl, -⟩ := EStateM.Result.ok.inj answered
    exact sameOutcome_of_node
      (evaluateBraced_alike sameOutcome_simulation Expr.coincides_likeness
        (Expr.Coincides.derives scope) (agrees_of_leaves leaves each))

/-- A cast or a value initialization agrees with what it leaves when its arguments do. -/
theorem construct_agrees {type : Ty} {operands : List Expr} (known : type.isDependent = false)
    (whole : (Expr.node (.construct type operands) template).EvaluatesTo scope [] residual)
    (few : budget.remaining ≤ steps)
    (answered : evaluateConstruct scope (fun bound other => other.evaluate scope bound) []
      (.node (.construct type operands) template) type operands budget = .ok residual left)
    (each : ∀ operand ∈ operands, ∀ operand', operand.LeavesWithin scope steps operand' →
      operand.Agrees scope parameters arguments operand') :
    (Expr.node (.construct type operands) template).Agrees scope parameters arguments residual := by
  have typeKnown : ((Expr.node (.construct type operands) template).typeOf scope).isDependent =
      false := (Ty.isDependent_withoutReference type).trans known
  obtain ⟨operands', middle, -, leaves, answered⟩ := leaves_of_mapM few answered
  have folds (fixed : residual.isFixed = true) (literals : ∀ operand ∈ operands',
      operand.isFixed = true) : (Expr.node (.construct type operands) template).Agrees scope
        parameters arguments residual :=
    Expr.agrees_of_folded whole fixed (sameOutcome_of_node (evaluateConstruct_alike
      sameOutcome_simulation Expr.coincides_likeness (Expr.Coincides.derives scope) .converts
      (.folded rfl typeKnown 0) (settle_of_leaves leaves each literals)))
  have builds (rebuilt : residual =
      (Expr.node (.construct type operands) template).derive (.construct type operands')) :
        (Expr.node (.construct type operands) template).Agrees scope parameters arguments
          residual := by
    subst rebuilt
    have sameType : (Expr.node (.construct type operands) template).typeOf scope =
        ((Expr.node (.construct type operands) template).derive
          (.construct type operands')).typeOf scope := rfl
    exact sameOutcome_of_node (evaluateConstruct_alike sameOutcome_simulation
      Expr.coincides_likeness (Expr.Coincides.derives scope) .converts
      (.folded sameType typeKnown 0) (agrees_of_leaves leaves each))
  dsimp only at answered
  split at answered
  · exact builds (EStateM.Result.ok.inj answered).1.symm
  · match operands', builds, folds, answered with
    | [], _, folds, answered =>
      obtain ⟨rfl, -⟩ := EStateM.Result.ok.inj answered
      exact folds rfl (List.forall_mem_nil _)
    | [operand], builds, folds, answered =>
      dsimp only at answered
      split at answered
      · next fixed =>
        obtain ⟨rfl, -⟩ := EStateM.Result.ok.inj answered
        exact folds (Expr.isFixed_convertTo fixed) (List.forall_mem_singleton.mpr fixed)
      · exact builds (EStateM.Result.ok.inj answered).1.symm
    | _ :: _ :: _, builds, _, answered => exact builds (EStateM.Result.ok.inj answered).1.symm

/-- A choice that is decided without the arguments agrees with what its branch leaves when the branch
does, if converting what the branch evaluates to changes nothing unless a literal is left. -/
theorem decided_agrees {condition condition' positive negative branch' : Expr} {truth : Bool}
    (known : ((Expr.node (.conditional condition positive negative) template).typeOf
      scope).isDependent = false)
    (agrees : condition.Agrees scope parameters arguments condition')
    (decided : condition'.fixedTruth? = some truth)
    (branches : (if truth then positive else negative).Agrees scope parameters arguments branch')
    (keeps : branch'.isFixed = false → ∀ result,
      (if truth then positive else negative).EvaluatesTo scope parameters result →
        result.convertTo
          ((Expr.node (.conditional condition positive negative) template).typeOf scope) = result) :
    (Expr.node (.conditional condition positive negative) template).Agrees scope parameters arguments
      (branch'.convertTo
        ((Expr.node (.conditional condition positive negative) template).typeOf scope)) := by
  obtain ⟨result, _, conditionCompletes, coincide⟩ :=
    agrees.completes (.inl (Expr.isFixed_of_truth decided))
  rw [Expr.Agrees, evaluate_eq parameters]
  refine .after_first completes_step (.after_first conditionCompletes ?_)
  simp only [Expr.coincides_likeness.fixedTruth coincide, decided]
  cases fixed : branch'.isFixed with
  | true =>
    obtain ⟨result, _, completes, coincide⟩ := branches.completes (.inl fixed)
    exact .answered (completes.bind (completes_pure _))
      (Expr.completes_of_settled (.inl (Expr.isFixed_convertTo fixed)))
        (Expr.Coincides.converts known _ _ coincide)
  | false =>
    rw [Expr.convertTo_of_unfixed (Expr.fixedValue_of_unfixed fixed)]
    exact branches.map_first fun result _ completes => keeps fixed result ⟨_, completes⟩

/-- A choice agrees with what it leaves when its parts do, if it keeps its meaning. -/
theorem conditional_agrees {condition positive negative : Expr} (declarations : scope.IsIndependent)
    (independent : (Expr.node (.conditional condition positive negative) template).isTypeDependent =
      false)
    (keeps : (Form.conditional condition positive negative).KeepsMeaning scope parameters)
    (few : budget.remaining ≤ steps)
    (answered : evaluateConditional scope (fun bound other => other.evaluate scope bound) []
      (.node (.conditional condition positive negative) template) condition positive negative budget =
        .ok residual left)
    (conditions : ∀ condition', condition.LeavesWithin scope steps condition' →
      condition.Agrees scope parameters arguments condition')
    (positives : ∀ positive', positive.LeavesWithin scope steps positive' →
      positive.Agrees scope parameters arguments positive')
    (negatives : ∀ negative', negative.LeavesWithin scope steps negative' →
      negative.Agrees scope parameters arguments negative') :
    (Expr.node (.conditional condition positive negative) template).Agrees scope parameters arguments
      residual := by
  have known := Expr.typeOf_independent declarations.returns independent
  have merged : (Expr.node (.conditional condition positive negative) template).typeOf scope =
      (positive.typeOf scope).merge (negative.typeOf scope) := by
    obtain ⟨-, below⟩ := Expr.independent_iff.mp independent
    exact Expr.typeOf_conditional (below _ (by simp [Form.children]))
      (below _ (by simp [Form.children])) (below _ (by simp [Form.children]))
  obtain ⟨condition', middle, few, leaves, answered⟩ := leaves_of_bind few answered
  have agrees := conditions condition' leaves
  cases decided : condition'.fixedTruth? with
  | none =>
    simp only [decided] at answered
    obtain ⟨positive', middle, few, positiveLeaves, answered⟩ := leaves_of_bind few answered
    obtain ⟨negative', middle, few, negativeLeaves, answered⟩ := leaves_of_bind few answered
    obtain ⟨rfl, -⟩ := EStateM.Result.ok.inj answered
    refine sameOutcome_of_node (evaluateConditional_alike sameOutcome_simulation
      Expr.coincides_likeness (Expr.Coincides.derives scope)
      (sameOutcome_simulation.mono agrees.reached ?_)
      (positives positive' positiveLeaves) (negatives negative' negativeLeaves))
    rintro result result' ⟨coincide, reached, -⟩
    refine ⟨coincide, fun truth => ?_⟩
    have sameType : ((Expr.node (.conditional condition positive negative) template).derive
        (.conditional condition' positive' negative')).typeOf scope =
          (positive.typeOf scope).merge (negative.typeOf scope) :=
      keeps.2 condition' result positive' negative' _ leaves.evaluatesTo decided reached truth
        positiveLeaves.evaluatesTo negativeLeaves.evaluatesTo
    rw [sameType, ← merged]
    exact Expr.Coincides.converts known
  | some truth =>
    simp only [decided] at answered
    obtain ⟨branch', middle, few, branchLeaves, answered⟩ := leaves_of_bind few answered
    obtain ⟨rfl, -⟩ := EStateM.Result.ok.inj answered
    have branchAgrees : (if truth then positive else negative).Agrees scope parameters arguments
        branch' := by
      cases truth with
      | true => exact positives branch' branchLeaves
      | false => exact negatives branch' branchLeaves
    refine decided_agrees known agrees decided branchAgrees fun unfixed result evaluates => ?_
    rw [merged]
    exact keeps.1 condition' truth leaves.evaluatesTo decided branch' result
      branchLeaves.evaluatesTo unfixed evaluates

/-- Trees that all evaluate to something do so in order. -/
theorem completes_mapM {exprs : List Expr}
    (each : ∀ expr ∈ exprs, ∃ result, expr.EvaluatesTo scope parameters result) :
    ∃ results taken, (exprs.mapM (Expr.evaluate scope parameters)).Completes (.ok results) taken ∧
      List.Forall₂ (Expr.EvaluatesTo scope parameters) exprs results := by
  induction exprs with
  | nil => exact ⟨[], 0, by rw [List.mapM_nil]; exact completes_pure _, .nil⟩
  | cons expr exprs ih =>
    obtain ⟨⟨result, taken, completes⟩, rest⟩ := List.forall_mem_cons.mp each
    obtain ⟨results, later, completes', reached⟩ := ih rest
    refine ⟨result :: results, taken + (later + 0), ?_, .cons ⟨taken, completes⟩ reached⟩
    rw [List.mapM_cons]
    exact completes.bind (completes'.bind (completes_pure _))

/-- A list of operands agrees with what it leaves when the operands do, if it keeps its meaning. -/
theorem comma_agrees {operands : List Expr}
    (keeps : (Form.comma operands).KeepsMeaning scope parameters)
    (few : budget.remaining ≤ steps)
    (answered : evaluateComma (fun bound other => other.evaluate scope bound) []
      (.node (.comma operands) template) operands budget = .ok residual left)
    (each : ∀ operand ∈ operands, ∀ operand', operand.LeavesWithin scope steps operand' →
      operand.Agrees scope parameters arguments operand') :
    (Expr.node (.comma operands) template).Agrees scope parameters arguments residual := by
  obtain ⟨operands', middle, few, leaves, answered⟩ := leaves_of_mapM few answered
  have builds (rebuilt : residual =
      (Expr.node (.comma operands) template).derive (.comma operands')) :
        (Expr.node (.comma operands) template).Agrees scope parameters arguments residual := by
    subst rebuilt
    exact sameOutcome_of_node
      (evaluateComma_alike sameOutcome_simulation Expr.coincides_likeness
        (Expr.Coincides.derives scope) (agrees_of_leaves leaves each))
  cases found' : operands'.getLast? with
  | none =>
    simp only [found'] at answered
    exact builds (EStateM.Result.ok.inj answered).1.symm
  | some literal =>
    simp only [found'] at answered
    split at answered
    · next fixed =>
      obtain ⟨last, found, lastLeaves⟩ : ∃ last, operands.getLast? = some last ∧
          last.LeavesWithin scope steps literal := getLast?_of_forall₂ leaves.flip found'
      obtain ⟨rfl, -⟩ := EStateM.Result.ok.inj answered
      have leave : ∀ operand ∈ operands, ∃ residual, operand.LeavesWithin scope steps residual :=
        forall_of_forall₂ leaves.flip fun residual _ leaves => ⟨residual, leaves⟩
      have reached : ∀ operand ∈ operands, ∃ result, operand.EvaluatesTo scope parameters result := by
        intro operand member
        obtain ⟨residual, operandLeaves⟩ := leave operand member
        exact keeps last _ found lastLeaves.evaluatesTo fixed operand member residual
          operandLeaves.evaluatesTo
      obtain ⟨results, _, completes, evaluates⟩ := completes_mapM reached
      obtain ⟨result, foundResult, lastEvaluates⟩ := getLast?_of_forall₂ evaluates found
      obtain ⟨result', _, completes', coincide⟩ :=
        (each last (List.mem_of_getLast? found) _ lastLeaves).completes (.inl fixed)
      obtain rfl := Expr.EvaluatesTo.unique lastEvaluates ⟨_, completes'⟩
      rw [Expr.Agrees, evaluate_eq parameters]
      refine .after_first completes_step (.after_first completes ?_)
      simp only [foundResult, Expr.coincides_likeness.isFixed coincide, fixed, if_true]
      exact .answered (completes_pure _) (Expr.completes_of_settled (.inl fixed)) coincide
    · exact builds (EStateM.Result.ok.inj answered).1.symm

/-- A call agrees with what it leaves when its parts do. -/
theorem call_agrees {callee : Expr} {operands : List Expr} (declarations : scope.IsIndependent)
    (whole : (Expr.node (.call callee operands) template).EvaluatesTo scope [] residual)
    (few : budget.remaining ≤ steps)
    (answered : evaluateCall scope (fun bound other => other.evaluate scope bound) []
      (.node (.call callee operands) template) callee operands budget = .ok residual left)
    (callees : ∀ callee', callee.LeavesWithin scope steps callee' →
      callee.Agrees scope parameters arguments callee')
    (each : ∀ operand ∈ operands, ∀ operand', operand.LeavesWithin scope steps operand' →
      operand.Agrees scope parameters arguments operand') :
    (Expr.node (.call callee operands) template).Agrees scope parameters arguments residual := by
  have bodies (id : FunctionId) (decl : FunctionDecl) (body : Expr) (bound bound' : List Expr)
      (declared : scope.functionDecl? id = some decl) (defined : decl.body = some body)
      (coincide : List.Forall₂ Expr.Coincides bound bound') :
      SameOutcome Expr.Coincides (body.evaluate scope bound) (body.evaluate scope bound') :=
    evaluate_sameOutcome declarations (declarations.bodies id decl body declared defined)
      fun part _ => Form.boundAlike_of_coincide coincide part.form
  obtain ⟨callee', middle, few, calleeLeaves, answered⟩ := leaves_of_bind few answered
  obtain ⟨operands', middle, few, leaves, answered⟩ := leaves_of_mapM few answered
  have calleeAgrees := callees callee' calleeLeaves
  have builds (rebuilt : residual =
      (Expr.node (.call callee operands) template).derive (.call callee' operands')) :
        (Expr.node (.call callee operands) template).Agrees scope parameters arguments
          residual := by
    subst rebuilt
    exact sameOutcome_of_node (evaluateCall_alike sameOutcome_simulation Expr.coincides_likeness
      (Expr.Coincides.derives scope) (coincides_calls declarations bodies) calleeAgrees
      (agrees_of_leaves leaves each))
  cases named : callee'.overloadSet? with
  | none =>
    simp only [named] at answered
    exact builds (EStateM.Result.ok.inj answered).1.symm
  | some set =>
    simp only [named] at answered
    split at answered
    · exact builds (EStateM.Result.ok.inj answered).1.symm
    · next entering =>
      cases entered : callee? scope set operands'.length with
      | error =>
        simp only [entered] at answered
        contradiction
      | ok callable =>
        simp only [entered] at answered
        obtain ⟨result, middle, -, answered⟩ := bind_ok answered
        split at answered
        · next fixed =>
          obtain ⟨rfl, -⟩ := EStateM.Result.ok.inj answered
          have literals : ∀ operand ∈ operands', operand.isFixed = true := by
            simp only [Bool.or_eq_true, Bool.not_eq_true', not_or, Bool.not_eq_false] at entering
            exact fun operand member =>
              Expr.isFixed_of_isKnown (List.all_eq_true.mp entering.1 operand member)
          exact Expr.agrees_of_folded whole (Expr.isFixed_convertTo fixed) (sameOutcome_of_node
            (evaluateCall_alike sameOutcome_simulation Expr.coincides_likeness
              (Expr.Coincides.derives scope) (coincides_calls declarations bodies)
              (calleeAgrees.settle calleeLeaves.evaluatesTo (.inr (by rw [named]; rfl)))
              (settle_of_leaves leaves each literals)))
        · exact builds (EStateM.Result.ok.inj answered).1.symm

/-- A variable agrees with what it leaves when its initializer agrees with what that leaves,
evaluated without parameters as it always is. -/
theorem variable_agrees {id : VariableId} {type : Ty} {initializer : Expr}
    (declarations : scope.IsIndependent) (known : type.isDependent = false)
    (whole : (Expr.node (.variableRef id type) template).EvaluatesTo scope [] residual)
    (usable : scope.constantInitializer? id = some initializer) (few : budget.remaining ≤ steps)
    (answered : evaluateVariable scope (fun bound other => other.evaluate scope bound)
      (.node (.variableRef id type) template) id type budget = .ok residual left)
    (initializers : ∀ initializer', initializer.LeavesWithin scope steps initializer' →
      initializer.Agrees scope [] arguments initializer') :
    (Expr.node (.variableRef id type) template).Agrees scope parameters arguments residual := by
  simp only [evaluateVariable, usable] at answered
  obtain ⟨initializer', middle, few, leaves, answered⟩ := leaves_of_bind few answered
  obtain ⟨rfl, -⟩ := EStateM.Result.ok.inj answered
  by_cases fixed : initializer'.isFixed = true
  · refine Expr.agrees_of_folded whole (Expr.isFixed_convertTo fixed)
      (evaluate_sameOutcome declarations ?_ ?_)
    · exact Expr.independent_iff.mpr ⟨known, List.forall_mem_nil _⟩
    · exact Expr.every_node.mpr ⟨trivial, List.forall_mem_nil _⟩
  · have unfixed : initializer'.fixedValue? = none :=
      Expr.fixedValue_of_unfixed (Bool.eq_false_iff.mpr fixed)
    rw [Expr.convertTo_of_unfixed unfixed, Expr.Agrees, evaluate_eq parameters]
    refine .after_first completes_step ?_
    simp only [evaluateNode, Expr.form, evaluateVariable, usable]
    refine (initializers initializer' leaves).map_first fun result _ completes => ?_
    obtain rfl := leaves.evaluatesTo.unique ⟨_, completes⟩
    exact Expr.convertTo_of_unfixed unfixed

end Forms

section Trees

variable {scope : Scope} {parameters arguments : List Expr} {expr residual : Expr}

/-- What leaves something takes a step and evaluates its node with fewer steps left. -/
theorem Expr.LeavesWithin.node {steps : Nat} (leaves : expr.LeavesWithin scope steps residual) :
    ∃ fewer budget left, steps = fewer + 1 ∧ budget.remaining ≤ fewer ∧
      evaluateNode scope (fun bound other => other.evaluate scope bound) [] expr budget =
        .ok residual left := by
  obtain ⟨budget, left, few, answered⟩ := leaves
  rw [evaluate_eq] at answered
  obtain ⟨_, middle, stepped, answered⟩ := bind_ok answered
  by_cases remaining : 0 < budget.remaining
  · rw [step_of_remaining remaining] at stepped
    obtain ⟨-, rfl⟩ := EStateM.Result.ok.inj stepped
    refine ⟨steps - 1, _, left, by omega, ?_, answered⟩
    simp only [Budget.remaining] at few remaining ⊢
    omega
  · have exhausted : budget.isExhausted = true := by
      simp only [Budget.remaining] at remaining
      simp only [Budget.isExhausted, decide_eq_true_eq]
      omega
    rw [step_of_exhausted exhausted] at stepped
    contradiction

/-- An expression agrees with its residual, if it keeps its meaning. No more is asked of the
initializers of variables than that they mention no parameters: they are always evaluated without
any, so nothing gets known in them later. -/
theorem residual_agrees (declarations : scope.IsIndependent)
    (closed : ∀ id initializer, scope.constantInitializer? id = some initializer →
      initializer.Every Form.IsParameterFree)
    {steps : Nat} (independent : expr.isTypeDependent = false)
    (bound : expr.Every (Form.BoundAlike parameters arguments))
    (keeps : expr.Every (Form.KeepsMeaning scope parameters))
    (leaves : expr.LeavesWithin scope steps residual) :
    expr.Agrees scope parameters arguments residual := by
  -- By induction on the steps, which pay for the children as well as for bodies and initializers.
  induction steps generalizing parameters expr residual with
  | zero =>
    obtain ⟨fewer, _, _, none, -⟩ := leaves.node
    contradiction
  | succ steps ih =>
    have whole := leaves.evaluatesTo
    obtain ⟨fewer, budget, left, same, few, answered⟩ := leaves.node
    obtain rfl := Nat.succ.inj same
    have reflexive (kept : residual = expr) : expr.Agrees scope parameters arguments residual := by
      rw [kept]
      exact evaluate_sameOutcome declarations independent bound
    obtain ⟨form, template⟩ := expr
    have below : ∀ child ∈ form.children, ∀ residual, child.LeavesWithin scope steps residual →
        child.Agrees scope parameters arguments residual :=
      fun child member residual leaves =>
        ih ((Expr.independent_iff.mp independent).2 child member) (bound.child member)
          (keeps.child member) leaves
    have own : form.isTypeDependent = false := (Expr.independent_iff.mp independent).1
    cases form with
    | fixed | templateRef | overloads | expansion =>
      exact reflexive (EStateM.Result.ok.inj answered).1.symm
    | parameterRef position type isPack =>
      cases isPack <;> exact reflexive (EStateM.Result.ok.inj answered).1.symm
    | typeTrait operator type =>
      have result : evaluateTypeTrait scope (.node (.typeTrait operator type) template) operator
          type = residual := (EStateM.Result.ok.inj answered).1
      unfold evaluateTypeTrait at result
      split at result
      · exact reflexive result.symm
      · split at result
        · subst result
          exact Expr.agrees_of_folded whole rfl (evaluate_sameOutcome declarations independent
            (Expr.every_node.mpr ⟨trivial, List.forall_mem_nil _⟩))
        · exact reflexive result.symm
    | variableRef id type =>
      cases usable : scope.constantInitializer? id with
      | none =>
        refine reflexive ?_
        simp only [evaluateNode, Expr.form, evaluateVariable, usable] at answered
        exact (EStateM.Result.ok.inj answered).1.symm
      | some initializer =>
        refine variable_agrees declarations own whole usable few answered fun initializer' leaves =>
          ih (declarations.initializers id initializer usable) (fun part inside => ?_)
            (fun part _ => part.form.keepsMeaning_nil) leaves
        have free := closed id initializer usable part inside
        unfold Form.BoundAlike
        split
        · next same => rw [same] at free; exact free.elim
        · trivial
    | unary operator operand =>
      exact unary_agrees whole few answered (below operand (List.mem_singleton_self _))
    | binary operator first second =>
      obtain ⟨firsts, seconds⟩ := List.forall_mem_cons.mp below
      exact binary_agrees whole few answered firsts (seconds second (List.mem_singleton_self _))
    | conditional condition positive negative =>
      obtain ⟨conditions, branches⟩ := List.forall_mem_cons.mp below
      obtain ⟨positives, negatives⟩ := List.forall_mem_cons.mp branches
      exact conditional_agrees declarations independent keeps.root few answered conditions positives
        (negatives negative (List.mem_singleton_self _))
    | comma operands => exact comma_agrees keeps.root few answered below
    | call callee operands =>
      obtain ⟨callees, each⟩ := List.forall_mem_cons.mp below
      exact call_agrees declarations whole few answered callees each
    | braced clauses => exact braced_agrees whole few answered below
    | construct type operands => exact construct_agrees own whole few answered below

end Trees

/-- A mention of a parameter is replaced by a literal of the type of the parameter. -/
def Form.ReplacedBy (arguments : List Expr) : Form Expr → Prop
  | parameterRef position type false => ∀ argument, arguments[position]? = some argument →
    ∃ value category template, argument = .node (.fixed type.withoutReference value category) template
  | _ => True

/-- Literals of known types bind the mentions of a tree alike. -/
theorem Form.ReplacedBy.boundAlike {arguments : List Expr} {form : Form Expr}
    (replaced : form.ReplacedBy arguments) (independent : form.isTypeDependent = false) :
    form.BoundAlike arguments arguments := by
  unfold BoundAlike
  split
  · next position type =>
    cases found : arguments[position]? with
    | none => exact .none
    | some argument =>
      obtain ⟨value, category, template, rfl⟩ := replaced argument found
      exact .some (.fixed ((Ty.isDependent_withoutReference type).trans independent))
  · trivial

/-- Partial evaluation preserves meaning. Where initializers mention no parameters and declarations
do not depend on template parameters, an expression and what it leaves without arguments evaluate
with arguments of the declared types to the same outcome: to the same failure, to literals of the
same type and value, or to no literals; unless a choice in the expression loses a conversion or
changes its type, or a list of operands loses one that fails. -/
theorem residual_keeps_meaning {scope : Scope} {arguments : List Expr} {expr residual : Expr}
    (declarations : scope.IsIndependent)
    (closed : ∀ id initializer, scope.constantInitializer? id = some initializer →
      initializer.Every Form.IsParameterFree)
    (independent : expr.isTypeDependent = false)
    (replaced : expr.Every (Form.ReplacedBy arguments))
    (keeps : expr.Every (Form.KeepsMeaning scope arguments)) {budget left : Budget}
    (leaves : expr.evaluate scope [] budget = .ok residual left) :
    SameOutcome Expr.Coincides (expr.evaluate scope arguments)
      (residual.evaluate scope arguments) :=
  residual_agrees declarations closed independent
    (fun part inside => (replaced part inside).boundAlike
      (Expr.every_independent independent part inside))
    keeps ⟨budget, left, Nat.le_refl _, leaves⟩

/-- A choice of a branch where the alternative is an integer. -/
def chooseOver (alternative : Int) (branch : Expr) : Expr :=
  .of (.conditional (.bool true) branch (.int alternative))

/-- The forms in such a choice are those of the branch, literals and its own. -/
theorem chooseOver_every {alternative : Int} {branch : Expr} {property : Form Expr → Prop}
    (own : property (chooseOver alternative branch).form)
    (literals : ∀ type value category, property (.fixed type value category))
    (inside : branch.Every property) : (chooseOver alternative branch).Every property := by
  refine Expr.every_node.mpr ⟨own, List.forall_mem_cons.mpr ⟨?_, List.forall_mem_cons.mpr
    ⟨inside, List.forall_mem_singleton.mpr ?_⟩⟩⟩
  all_goals exact Expr.every_node.mpr ⟨literals _ _ _, List.forall_mem_nil _⟩

/-- The sum of a parameter of type `int` and one. -/
def nextOfParameter : Expr :=
  .of (.binary (.arithmetic .add) (.of (.parameterRef 0 (.fundamental .int) false)) (.int 1))

/-- The forms in the sum. -/
theorem nextOfParameter_every {property : Form Expr → Prop} (own : property nextOfParameter.form)
    (mention : property (.parameterRef 0 (.fundamental .int) false))
    (literals : ∀ type value category, property (.fixed type value category)) :
    nextOfParameter.Every property :=
  Expr.every_node.mpr ⟨own, List.forall_mem_cons.mpr
    ⟨Expr.every_node.mpr ⟨mention, List.forall_mem_nil _⟩, List.forall_mem_singleton.mpr
      (Expr.every_node.mpr ⟨literals _ _ _, List.forall_mem_nil _⟩)⟩⟩

/-- The choice of the sum keeps its meaning, as the sum already has the type of the choice. -/
theorem nextOfParameter_keepsMeaning :
    (chooseOver 0 nextOfParameter).form.KeepsMeaning Table.empty.scope [.int 3] := by
  have taken : (Expr.bool true).EvaluatesTo Table.empty.scope [] (.bool true) :=
    ⟨_, Expr.completes_of_settled (.inl rfl)⟩
  have added : nextOfParameter.evaluate Table.empty.scope [.int 3] ⟨0, 3⟩ =
      .ok (.int 4) ⟨3, 3⟩ := rfl
  refine ⟨fun condition truth evaluates known => ?_,
    fun condition _ _ _ _ evaluates undecided => ?_⟩
  · obtain rfl := taken.unique evaluates
    obtain rfl := Option.some.inj known
    intro residual result _ _ reached
    obtain rfl := (Expr.evaluatesTo_of_ok added).unique reached
    rfl
  · obtain rfl := taken.unique evaluates
    contradiction

/-- Without the argument the choice leaves the sum, which with the argument evaluates to four as the
choice does. -/
theorem residual_keeps_meaning_of_choice :
    Table.empty.scope.IsIndependent ∧
      (∀ id initializer, Table.empty.scope.constantInitializer? id = some initializer →
        initializer.Every Form.IsParameterFree) ∧
      (chooseOver 0 nextOfParameter).isTypeDependent = false ∧
      (chooseOver 0 nextOfParameter).Every (Form.ReplacedBy [.int 3]) ∧
      (chooseOver 0 nextOfParameter).Every (Form.KeepsMeaning Table.empty.scope [.int 3]) ∧
      (chooseOver 0 nextOfParameter).evaluate Table.empty.scope [] ⟨0, 9⟩ =
        .ok nextOfParameter ⟨5, 9⟩ ∧
      SameOutcome Expr.Coincides
        ((chooseOver 0 nextOfParameter).evaluate Table.empty.scope [.int 3])
        (nextOfParameter.evaluate Table.empty.scope [.int 3]) := by
  have closed : ∀ id initializer, Table.empty.scope.constantInitializer? id = some initializer →
      initializer.Every Form.IsParameterFree := Table.forall_usable (List.forall_mem_nil _)
  have replaced : (chooseOver 0 nextOfParameter).Every (Form.ReplacedBy [.int 3]) := by
    refine chooseOver_every trivial (fun _ _ _ => trivial)
      (nextOfParameter_every trivial ?_ fun _ _ _ => trivial)
    rintro argument ⟨⟩
    exact ⟨_, _, _, rfl⟩
  have keeps : (chooseOver 0 nextOfParameter).Every
      (Form.KeepsMeaning Table.empty.scope [.int 3]) :=
    chooseOver_every nextOfParameter_keepsMeaning (fun _ _ _ => trivial)
      (nextOfParameter_every trivial trivial fun _ _ _ => trivial)
  have answered : (chooseOver 0 nextOfParameter).evaluate Table.empty.scope [] ⟨0, 9⟩ =
      .ok nextOfParameter ⟨5, 9⟩ := rfl
  exact ⟨Table.empty_isIndependent, closed, rfl, replaced, keeps, answered,
    residual_keeps_meaning Table.empty_isIndependent closed rfl replaced keeps answered⟩

/-- A parameter of type `short`. -/
def shortParameter : Expr := .of (.parameterRef 0 (.fundamental .short) false)

/-- Three, of type `short`. -/
def shortThree : Expr := .literal (.fundamental .short) (.integral 3)

/-- A choice that is decided without arguments loses a conversion. With the argument three it
evaluates to three as an `int`, and what it leaves to three as a `short`. -/
theorem choice_loses_conversion :
    Table.empty.scope.IsIndependent ∧
      (∀ id initializer, Table.empty.scope.constantInitializer? id = some initializer →
        initializer.Every Form.IsParameterFree) ∧
      (chooseOver 5 shortParameter).isTypeDependent = false ∧
      (chooseOver 5 shortParameter).Every (Form.ReplacedBy [shortThree]) ∧
      (chooseOver 5 shortParameter).evaluate Table.empty.scope [] (.fresh defaultLimit) =
        .ok shortParameter ⟨3, defaultLimit⟩ ∧
      (chooseOver 5 shortParameter).EvaluatesTo Table.empty.scope [shortThree] (.int 3) ∧
      shortParameter.EvaluatesTo Table.empty.scope [shortThree] shortThree ∧
      ¬SameOutcome Expr.Coincides
        ((chooseOver 5 shortParameter).evaluate Table.empty.scope [shortThree])
        (shortParameter.evaluate Table.empty.scope [shortThree]) := by
  have replaced : (chooseOver 5 shortParameter).Every (Form.ReplacedBy [shortThree]) := by
    refine chooseOver_every trivial (fun _ _ _ => trivial)
      (Expr.every_node.mpr ⟨?_, List.forall_mem_nil _⟩)
    rintro argument ⟨⟩
    exact ⟨_, _, _, rfl⟩
  have chosen : (chooseOver 5 shortParameter).evaluate Table.empty.scope [shortThree] ⟨0, 3⟩ =
      .ok (.int 3) ⟨3, 3⟩ := rfl
  have kept : shortParameter.evaluate Table.empty.scope [shortThree] ⟨0, 1⟩ =
      .ok shortThree ⟨1, 1⟩ := rfl
  have converted : (chooseOver 5 shortParameter).EvaluatesTo Table.empty.scope [shortThree]
      (.int 3) := Expr.evaluatesTo_of_ok chosen
  have unconverted : shortParameter.EvaluatesTo Table.empty.scope [shortThree] shortThree :=
    Expr.evaluatesTo_of_ok kept
  refine ⟨Table.empty_isIndependent, Table.forall_usable (List.forall_mem_nil _), rfl, replaced,
    rfl, converted, unconverted, fun same => ?_⟩
  obtain ⟨_, completes⟩ := converted
  cases same with
  | failed fails => exact completes.not_failed fails
  | answered first second coincide =>
    obtain rfl := completes.answer_unique first
    obtain rfl := unconverted.unique ⟨_, second⟩
    cases coincide with
    | unfixed unfixed => contradiction
  | endless diverges => exact completes.not_endless diverges

/-- A quotient before a literal is gone without the divisor, and fails with it. -/
example :
    let quotient : Expr := .of (.binary (.arithmetic .divide) (.int 1)
      (.of (.parameterRef 0 (.fundamental .int) false)))
    (Expr.of (.comma [quotient, .int 5])).evaluate Table.empty.scope [] ⟨0, 9⟩ =
        .ok (.int 5) ⟨5, 9⟩ ∧
      (Expr.of (.comma [quotient, .int 5])).evaluate Table.empty.scope [.int 0] ⟨0, 9⟩ =
        .error .divisionByZero ⟨4, 9⟩ :=
  ⟨rfl, rfl⟩

end ConstExpr
