import ConstExpr.Proofs.Evaluate.Binding
import ConstExpr.Proofs.Evaluate.Residuals
import ConstExpr.Proofs.Evaluate.TypeSafety

/-!
# Operands that are not evaluated

A condition with a truth value selects one branch of a choice, and the left operand of a connective
can decide it. The operand that is passed over is not visited, but it still takes part in the node:
in the type of a choice, to which the selected branch is converted, and in the template definition
that the node inherits. Of a choice nothing but that type gets through, and only where the choice is
not type-dependent (`convertTo_choice`). So the operand can be exchanged, also for one that fails or
never ends, without any change to answers, failures or steps (`evaluate_skips`).
-/
namespace ConstExpr

open Evaluation

/-- The expression evaluates to a literal of the truth, from some budget. -/
def Expr.Decides (scope : Scope) (parameters : List Expr) (expr : Expr) (truth : Bool) : Prop :=
  ∃ budget result left, expr.evaluate scope parameters budget = .ok result left ∧
    result.fixedTruth? = some truth

/-- The choice between two branches in which a condition of the given truth selects the first. -/
def Form.choice {α : Type} (truth : Bool) (condition selected skipped : α) : Form α :=
  match truth with
  | true => .conditional condition selected skipped
  | false => .conditional condition skipped selected

section Choices

variable {scope : Scope} {parameters : List Expr}
  {condition positive positive' negative negative' : Expr} {template template' : Option TemplateId}

/-- The type of a choice that is not type-dependent is put together from those of its branches. -/
theorem typeOf_independent_conditional
    (independent : (Expr.node (.conditional condition positive negative) template).isTypeDependent =
      false) :
    (Expr.node (.conditional condition positive negative) template).typeOf scope =
      (positive.typeOf scope).merge (negative.typeOf scope) := by
  obtain ⟨conditionIndependent, branches⟩ :=
    List.forall_mem_cons.mp (Expr.independent_iff.mp independent).2
  obtain ⟨positiveIndependent, negatives⟩ := List.forall_mem_cons.mp branches
  exact Expr.typeOf_conditional conditionIndependent positiveIndependent
    (negatives negative (List.mem_singleton_self _))

/-- A type-dependent choice has a type of its own, to which no literal is converted. -/
theorem convertTo_dependent_conditional
    (dependent : (Expr.node (.conditional condition positive negative) template).isTypeDependent =
      true) (result : Expr) :
    result.convertTo
      ((Expr.node (.conditional condition positive negative) template).typeOf scope) = result := by
  rw [Expr.typeOf_dependent_conditional scope rfl dependent]
  exact Expr.convertTo_unscalar rfl

/-- Of its branches, a choice lets nothing through to a result but their types. -/
theorem convertTo_conditional_congr (positiveType : positive.typeOf scope = positive'.typeOf scope)
    (positiveDependence : positive.isTypeDependent = positive'.isTypeDependent)
    (negativeType : negative.typeOf scope = negative'.typeOf scope)
    (negativeDependence : negative.isTypeDependent = negative'.isTypeDependent) (result : Expr) :
    result.convertTo
        ((Expr.node (.conditional condition positive negative) template).typeOf scope) =
      result.convertTo
        ((Expr.node (.conditional condition positive' negative') template').typeOf scope) := by
  have together : (Expr.node (.conditional condition positive negative) template).isTypeDependent =
      (Expr.node (.conditional condition positive' negative') template').isTypeDependent := by
    unfold Expr.isTypeDependent at positiveDependence negativeDependence ⊢
    simp only [Expr.anyForm_eq, Form.isTypeDependent, Form.children, List.any_cons,
      positiveDependence, negativeDependence]
  cases dependent :
      (Expr.node (.conditional condition positive negative) template).isTypeDependent with
  | false =>
    rw [typeOf_independent_conditional dependent,
      typeOf_independent_conditional (together.symm.trans dependent), positiveType, negativeType]
  | true =>
    rw [convertTo_dependent_conditional dependent,
      convertTo_dependent_conditional (together.symm.trans dependent)]

variable {selected skipped skipped' : Expr} {truth : Bool}

/-- What decides from some budget has the same truth from every budget from which it is
evaluated. -/
theorem fixedTruth_of_decides {budget left : Budget} {result : Expr}
    (decides : condition.Decides scope parameters truth)
    (evaluated : condition.evaluate scope parameters budget = .ok result left) :
    result.fixedTruth? = some truth := by
  obtain ⟨_, _, _, other, decided⟩ := decides
  rwa [← (Expr.evaluatesTo_of_ok evaluated).unique (Expr.evaluatesTo_of_ok other)]

/-- Evaluations that start with an expression that decides are the same when they go on in the same
way from every literal of its truth. -/
theorem bind_congr_of_decides {α : Type} {next next' : Expr → Evaluation α}
    (decides : condition.Decides scope parameters truth)
    (same : ∀ result, result.fixedTruth? = some truth → next result = next' result) :
    condition.evaluate scope parameters >>= next =
      condition.evaluate scope parameters >>= next' := by
  funext budget
  rw [bind_apply, bind_apply]
  cases evaluated : condition.evaluate scope parameters budget with
  | ok result left => exact congrFun (same result (fixedTruth_of_decides decides evaluated)) left
  | error => rfl

/-- A choice whose condition decides takes a step, evaluates the condition and the selected branch,
and converts what this evaluates to to the type of the choice. -/
theorem evaluate_choice (decides : condition.Decides scope parameters truth) :
    (Expr.node (.choice truth condition selected skipped) template).evaluate scope parameters =
      (do
        Evaluation.step
        let _ ← condition.evaluate scope parameters
        let result ← selected.evaluate scope parameters
        return result.convertTo
          ((Expr.node (.choice truth condition selected skipped) template).typeOf scope)) := by
  rw [evaluate_eq]
  refine congrArg (Evaluation.step >>= ·) (funext fun _ => ?_)
  cases truth with
  | true | false =>
    refine bind_congr_of_decides decides fun result decided => ?_
    simp only [decided]
    rfl

/-- The branch that is not selected lets nothing through to the selected one but its type. -/
theorem convertTo_choice (sameType : skipped.typeOf scope = skipped'.typeOf scope)
    (sameDependence : skipped.isTypeDependent = skipped'.isTypeDependent) (result : Expr) :
    result.convertTo
        ((Expr.node (.choice truth condition selected skipped) template).typeOf scope) =
      result.convertTo
        ((Expr.node (.choice truth condition selected skipped') template').typeOf scope) := by
  cases truth with
  | true => exact convertTo_conditional_congr rfl rfl sameType sameDependence result
  | false => exact convertTo_conditional_congr sameType sameDependence rfl rfl result

end Choices

section Connectives

variable {scope : Scope} {parameters : List Expr} {operator : BinaryOperator} {left : Expr}
  {truth : Bool}

/-- A connective modifies nothing. -/
theorem BinaryOperator.harmless_of_decisive (decisive : operator.decisive? = some truth) :
    operator.isAssignment = false := by
  cases operator with
  | logicalAnd | logicalOr => rfl
  | _ => contradiction

/-- A connective that its left operand decides takes a step, evaluates that operand, and is the
literal of the truth. -/
theorem evaluate_connective (decisive : operator.decisive? = some truth)
    (decides : left.Decides scope parameters truth) (right : Expr) (template : Option TemplateId) :
    (Expr.node (.binary operator left right) template).evaluate scope parameters =
      (do
        Evaluation.step
        let _ ← left.evaluate scope parameters
        return (Expr.node (.binary operator left right) template).derive
          (.fixed (.fundamental .bool) (Value.ofBool truth) .prvalue)) := by
  rw [evaluate_eq]
  refine congrArg (Evaluation.step >>= ·) (funext fun _ => ?_)
  refine (evaluateBinary_eq (BinaryOperator.harmless_of_decisive decisive) _ _ _).trans
    (bind_congr_of_decides decides fun result decided => ?_)
  have known : operator.decision? result = some truth :=
    Option.filter_eq_some_iff.mpr ⟨decisive, beq_iff_eq.mpr decided⟩
  simp only [known]

end Connectives

/-- An operand that is passed over is not evaluated. The branch that the condition of a choice does
not select can be exchanged for any one of the same type that is type-dependent alike: from every
budget the choice comes to the same answer or failure and leaves the same budget. The right operand
of a connective that the left one decides can be exchanged for any expression: the connective fails
alike or is a literal of type `bool` and of the same truth, and leaves the same budget. -/
theorem evaluate_skips {scope : Scope} {parameters : List Expr} {guard : Expr} {truth : Bool}
    (decides : guard.Decides scope parameters truth) :
    (∀ selected skipped skipped' template template',
      skipped.typeOf scope = skipped'.typeOf scope →
        skipped.isTypeDependent = skipped'.isTypeDependent →
          (Expr.node (.choice truth guard selected skipped) template).evaluate scope parameters =
            (Expr.node (.choice truth guard selected skipped') template').evaluate scope
              parameters) ∧
      ∀ operator right right' template template', operator.decisive? = some truth →
        LockStep (fun result result' =>
            result.form = .fixed (.fundamental .bool) (Value.ofBool truth) .prvalue ∧
              result'.form = result.form)
          ((Expr.node (.binary operator guard right) template).evaluate scope parameters)
          ((Expr.node (.binary operator guard right') template').evaluate scope parameters) := by
  refine ⟨fun selected skipped skipped' template template' sameType sameDependence => ?_,
    fun operator right right' template template' decisive => ?_⟩
  · have converted (result : Expr) : result.convertTo
          ((Expr.node (.choice truth guard selected skipped) template).typeOf scope) =
        result.convertTo
          ((Expr.node (.choice truth guard selected skipped') template').typeOf scope) :=
      convertTo_choice sameType sameDependence result
    simp only [evaluate_choice decides, converted]
  · have guarded : LockStep Eq (guard.evaluate scope parameters)
        (guard.evaluate scope parameters) := .refl (fun _ => rfl) _
    rw [evaluate_connective decisive decides, evaluate_connective decisive decides]
    exact lockStep_simulation.bind lockStep_simulation.step fun _ _ _ =>
      lockStep_simulation.bind guarded fun _ _ _ => lockStep_simulation.pure ⟨rfl, rfl⟩

/-- The condition on which the body of `factorial` ends the recursion. -/
def factorialEnds : Expr :=
  .of (.binary (.comparison .lessEqual) factorialParameter (.int 1))

/-- For the argument one, the body of `factorial` does as well without the recursion, and nothing
that follows a disjunction with its condition matters, be it a division by zero or a
modification. -/
theorem evaluate_skips_recursion :
    factorialEnds.Decides factorialTable.scope [.int 1] true ∧
      factorialBody.evaluate factorialTable.scope [.int 1] =
        (Expr.node (.choice true factorialEnds (.int 1)
          (.literal (.fundamental .long) (.integral 0))) none).evaluate factorialTable.scope
            [.int 1] ∧
      LockStep (fun result result' =>
          result.form = .fixed (.fundamental .bool) (Value.ofBool true) .prvalue ∧
            result'.form = result.form)
        ((Expr.node (.binary .logicalOr factorialEnds
          (.of (.binary (.arithmetic .divide) factorialParameter (.int 0)))) none).evaluate
            factorialTable.scope [.int 1])
        ((Expr.node (.binary .logicalOr factorialEnds
          (.of (.unary .preIncrement factorialParameter))) none).evaluate factorialTable.scope
            [.int 1]) := by
  have decides : factorialEnds.Decides factorialTable.scope [.int 1] true :=
    ⟨.fresh 3, .bool true, ⟨3, 3⟩, rfl, rfl⟩
  obtain ⟨branches, operands⟩ := evaluate_skips decides
  exact ⟨decides, branches _ _ _ none none rfl rfl, operands _ _ _ none none rfl⟩

end ConstExpr
