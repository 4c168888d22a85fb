import ConstExpr.Instantiate
import ConstExpr.Proofs.Evaluate.Entering
import ConstExpr.Query.Category
import ConstExpr.Query.Constness

/-!
# Overload resolution

A call by name is resolved when its properties are asked for, when it is instantiated, and when it
is evaluated: from its own arguments, from the instantiated ones, and from those that its arguments
evaluate to. An evaluation only resolves calls of known arguments, of which none was a pack
expansion, and as many as there are in the call; so it comes to the target of the call
(`target_of_passed`). Reduced to its target, an overload set resolves to it again, and the call is
not told apart from the one with all candidates (`Expr.ReadsAs`).
-/
namespace ConstExpr

open Evaluation

/-- The evaluation of the tree fails, although all trees that its node enters are answered. -/
structure Expr.FailsItself (scope : Scope) (parameters : List Expr) (expr : Expr) (budget : Budget)
    (failure : Failure) (left : Budget) : Prop where
  /-- The evaluation fails. -/
  failed : expr.evaluate scope parameters budget = .error failure left
  /-- Trees that the node enters are answered. -/
  answered : ∀ call bound entered middle,
    Enters scope parameters (budget.spend 1) expr.form call bound entered middle →
      ∃ result rest, entered.evaluate scope bound middle = .ok result rest

/-- The expression has the type and the category of the other one, it is a constant expression when
that is one, and its value is computed with the same answer or failure in the same number of steps
from every budget. -/
structure Expr.ReadsAs (scope : Scope) (expr other : Expr) : Prop where
  /-- The types are the same. -/
  typeOf : expr.typeOf scope = other.typeOf scope
  /-- The categories are the same. -/
  category : expr.category scope = other.category scope
  /-- Both are constant expressions, or neither is. -/
  isConstant : expr.isConstant scope = other.isConstant scope
  /-- The values are computed alike. -/
  constantValue : expr.constantValue scope = other.constantValue scope

section Sets

variable {scope : Scope} {set : OverloadSet} {arity : Nat} {function : FunctionId}

/-- A call is refused when its overload set does not resolve, and otherwise for the function that it
resolves to. -/
theorem callee?_error {failure : Failure} (refused : callee? scope set arity = .error failure) :
    failure = .unresolvedOverload ∨ ∃ id, scope.resolve set arity = some id ∧
      (failure = .missingDefinition id ∨ failure = .nonConstexprFunction id) := by
  unfold callee? at refused
  split at refused
  · exact .inl (Except.error.inj refused).symm
  · next id resolved =>
    refine .inr ⟨id, resolved, ?_⟩
    split at refused
    · exact .inl (Except.error.inj refused).symm
    · split at refused
      · split at refused
        · contradiction
        · exact .inl (Except.error.inj refused).symm
      · exact .inr (Except.error.inj refused).symm

end Sets

section Calls

variable {scope : Scope} {parameters arguments arguments' : List Expr} {callee callee' : Expr}
  {set : OverloadSet} {budget left start : Budget} {function : FunctionId}
  {template template' : Option TemplateId}

/-- The name of an overload set takes a step and is evaluated to itself. -/
theorem evaluate_of_named (named : callee.overloadSet? = some set) :
    callee.evaluate scope parameters = (do Evaluation.step; return callee) := by
  obtain ⟨form, template⟩ := callee
  cases form with
  | overloads => rw [evaluate_eq]; rfl
  | _ => contradiction

/-- What evaluates to a known literal is no pack expansion. -/
theorem plain_of_known {expr result : Expr}
    (answered : expr.evaluate scope parameters budget = .ok result left)
    (known : result.isKnown = true) : expr.isExpansion = false := by
  obtain ⟨form, template⟩ := expr
  cases form with
  | expansion pattern =>
    rw [evaluate_eq] at answered
    obtain ⟨_, _, -, same⟩ := bind_ok answered
    obtain ⟨rfl, -⟩ := EStateM.Result.ok.inj same
    contradiction
  | _ => rfl

/-- Arguments are evaluated to as many results, and none of them was a pack expansion if all results
are known. -/
theorem plain_of_passed
    (passed : arguments.mapM (Expr.evaluate scope parameters) budget = .ok arguments' left) :
    arguments'.length = arguments.length ∧ (arguments'.all Expr.isKnown = true →
      ∀ argument ∈ arguments, argument.isExpansion = false) := by
  induction arguments generalizing budget arguments' with
  | nil =>
    rw [mapM_nil_ok] at passed
    obtain ⟨rfl, -⟩ := EStateM.Result.ok.inj passed
    exact ⟨rfl, fun _ => List.forall_mem_nil _⟩
  | cons argument arguments ih =>
    obtain ⟨result, rest, middle, answered, others, rfl⟩ := mapM_cons_ok_iff.mp passed
    obtain ⟨sameLength, plain⟩ := ih others
    refine ⟨congrArg (· + 1) sameLength, fun known => ?_⟩
    obtain ⟨firstKnown, restKnown⟩ := (Bool.and_eq_true _ _).mp known
    exact List.forall_mem_cons.mpr ⟨plain_of_known answered firstKnown, plain restKnown⟩

/-- What a name resolves to with the known results of the arguments is the target of the call. -/
theorem target_of_passed (named : callee.overloadSet? = some set)
    (passed : arguments.mapM (Expr.evaluate scope parameters) budget = .ok arguments' left)
    (known : arguments'.all Expr.isKnown = true) :
    scope.target callee arguments = scope.resolve set arguments'.length := by
  obtain ⟨sameLength, plain⟩ := plain_of_passed passed
  have unexpanded : arguments.any Expr.isExpansion = false := by
    simpa only [List.any_eq_false, Bool.not_eq_true] using plain known
  rw [Scope.target, unexpanded, named, sameLength]
  rfl

/-- The name of an overload set that is evaluated keeps it. -/
theorem eq_of_named (named : callee.overloadSet? = some set)
    (answered : callee.evaluate scope parameters budget = .ok callee' left) : callee' = callee := by
  rw [evaluate_of_named named] at answered
  obtain ⟨_, _, -, same⟩ := bind_ok answered
  exact (EStateM.Result.ok.inj same).1.symm

/-- A call by name comes to be resolved only to its target. -/
theorem ComesToCall.target {found : OverloadSet}
    (comes : ComesToCall scope parameters budget callee arguments callee' found arguments' left)
    (named : callee.overloadSet? = some set) :
    scope.target callee arguments = scope.resolve found arguments'.length := by
  obtain ⟨middle, answered, passed⟩ := comes.answered
  obtain rfl := eq_of_named named answered
  obtain rfl := Option.some.inj (named.symm.trans comes.named)
  exact target_of_passed named passed comes.known

/-- A call by name runs no body but that of its target. -/
theorem target_of_enters (named : callee.overloadSet? = some set) {bound : List Expr} {body : Expr}
    {middle : Budget} (enters : Enters scope parameters start (.call callee arguments)
      (some function) bound body middle) :
    scope.target callee arguments = some function := by
  cases enters with
  | body comes resolved =>
    rw [comes.target named]
    exact (callee?_ok resolved).1

/-- What fails by itself is raised by its node. -/
theorem Expr.FailsItself.raises {expr : Expr} {failure : Failure}
    (fails : expr.FailsItself scope parameters budget failure left)
    (unrefused : failure.isStepLimit = false) :
    Raises scope parameters (budget.spend 1) expr.form failure left := by
  have failed := fails.failed
  cases exhausted : budget.isExhausted with
  | true =>
    rw [evaluate_of_exhausted exhausted] at failed
    obtain ⟨rfl, -⟩ := EStateM.Result.error.inj failed
    contradiction
  | false =>
    rw [evaluate_of_active exhausted] at failed
    obtain raises | ⟨call, bound, entered, middle, inner, enters, below, -⟩ :=
      evaluateNode_error_iff.mp failed
    · exact raises
    · obtain ⟨_, _, answered⟩ := fails.answered call bound entered middle enters
      rw [answered] at below
      contradiction

/-- A call that raises a failure fails by itself: its callee and its arguments are answered, and it
does not come to a body. -/
theorem Raises.failsItself {failure : Failure} (active : budget.isExhausted = false)
    (raises : Raises scope parameters (budget.spend 1) (.call callee arguments) failure left) :
    (Expr.node (.call callee arguments) template).FailsItself scope parameters budget failure
      left := by
  refine ⟨(evaluate_of_active active).trans raises.evaluateNode,
    fun call bound entered middle enters => ?_⟩
  cases raises with
  | call comes failed =>
    obtain ⟨_, answered, passed⟩ := comes.answered
    cases enters with
    | child all among before =>
      cases run : entered.evaluate scope parameters middle with
      | ok result rest => exact ⟨result, rest, rfl⟩
      | error =>
        have unanswered := mapM_error_iff.mpr ⟨_, _, _, _, _, among, before, run⟩
        have children := mapM_cons_ok_iff.mpr ⟨_, _, _, answered, passed, rfl⟩
        have both := children.symm.trans unanswered
        contradiction
    | body comes' resolved =>
      obtain ⟨_, answered', passed'⟩ := comes'.answered
      rw [answered] at answered'
      obtain ⟨rfl, rfl⟩ := EStateM.Result.ok.inj answered'
      rw [passed] at passed'
      obtain ⟨rfl, rfl⟩ := EStateM.Result.ok.inj passed'
      obtain rfl := Option.some.inj (comes.named.symm.trans comes'.named)
      rw [failed] at resolved
      contradiction

/-- A call by name that is refused for a function is so for its target. -/
theorem target_of_failsItself (named : callee.overloadSet? = some set) {failure : Failure}
    (fails : (Expr.node (.call callee arguments) template).FailsItself scope parameters budget
      failure left)
    (blames : failure = .nonConstexprFunction function ∨ failure = .missingDefinition function) :
    scope.target callee arguments = some function := by
  have raises := fails.raises (by rcases blames with rfl | rfl <;> rfl)
  cases raises with
  | call comes failed =>
    rw [comes.target named]
    obtain rfl | ⟨id, resolved, raised⟩ := callee?_error failed
    · rcases blames with blames | blames <;> contradiction
    · rw [resolved]
      rcases blames with rfl | rfl <;> simpa [eq_comm] using raised

end Calls

section Reduced

variable {scope : Scope} {parameters arguments : List Expr} {callee callee' : Expr}
  {set : OverloadSet} {function : FunctionId} {template template' : Option TemplateId}

variable (named : callee.overloadSet? = some set)
  (reduced : callee'.overloadSet? = some { set with candidates := [function] })

include named reduced

/-- A tree is dependent in any way with the reduced overload set when it is with all candidates. -/
theorem anyForm_reduced {property : Form Expr → Bool}
    (calls : property (.call callee' arguments) = property (.call callee arguments))
    (sets : property (.overloads { set with candidates := [function] }) =
      property (.overloads set)) :
    (Expr.node (.call callee' arguments) template').anyForm property =
      (Expr.node (.call callee arguments) template).anyForm property := by
  obtain ⟨form, calleeTemplate⟩ := callee
  obtain ⟨form', calleeTemplate'⟩ := callee'
  cases form with
  | overloads =>
    cases form' with
    | overloads =>
      obtain rfl := Option.some.inj named
      obtain rfl := Option.some.inj reduced
      simp only [Expr.anyForm, Expr.anyChild, calls, sets]
    | _ => contradiction
  | _ => contradiction

variable (resolved : scope.resolve set arguments.length = some function)

include resolved

/-- The reduced overload set resolves as before, and so the call has the same target. -/
theorem target_reduced : scope.target callee' arguments = scope.target callee arguments := by
  simp only [Scope.target, named, reduced, Option.bind_some, Scope.resolve_only resolved, resolved]

/-- A call is evaluated with the reduced overload set as with all candidates, in lock-step and to
the same value. -/
theorem evaluate_reduced :
    LockStep (fun result result' => result.fixedValue? = result'.fixedValue?)
      ((Expr.node (.call callee' arguments) template').evaluate scope parameters)
      ((Expr.node (.call callee arguments) template).evaluate scope parameters) := by
  have callees : LockStep (fun result result' => callee' = result ∧ callee = result')
      (callee'.evaluate scope parameters) (callee.evaluate scope parameters) := by
    rw [evaluate_of_named named, evaluate_of_named reduced]
    exact lockStep_simulation.bind lockStep_simulation.step fun _ _ _ =>
      lockStep_simulation.pure ⟨rfl, rfl⟩
  have passed : LockStep
      (fun results results' => results = results' ∧ results.length = arguments.length)
      (arguments.mapM (Expr.evaluate scope parameters))
      (arguments.mapM (Expr.evaluate scope parameters)) :=
    .of_reached fun _ _ _ answered => ⟨rfl, (plain_of_passed answered).1⟩
  rw [evaluate_eq, evaluate_eq]
  refine lockStep_simulation.bind lockStep_simulation.step fun _ _ _ => ?_
  refine lockStep_simulation.bind callees ?_
  rintro _ _ ⟨rfl, rfl⟩
  refine lockStep_simulation.bind passed ?_
  rintro results _ ⟨rfl, sameLength⟩
  have rebuilt : LockStep (fun result result' => result.fixedValue? = result'.fixedValue?)
      (pure ((Expr.node (.call callee' arguments) template').derive (.call callee' results)))
      (pure ((Expr.node (.call callee arguments) template).derive (.call callee results))) :=
    lockStep_simulation.pure rfl
  have sameCallee : callee? scope { set with candidates := [function] } results.length =
      callee? scope set results.length := by
    rw [callee?, callee?, sameLength, resolved, Scope.resolve_only resolved]
  have sameDependence : callee'.isValueDependent = callee.isValueDependent := by
    rw [Expr.isValueDependent_of_named named, Expr.isValueDependent_of_named reduced]
    rfl
  simp only [named, reduced, sameDependence, sameCallee]
  split
  · exact rebuilt
  · split
    · next failed => exact lockStep_simulation.throw _ (callee?_failure failed)
    · next id decl body _ =>
      refine lockStep_simulation.bind (.refl (fun _ => rfl) _) ?_
      rintro result _ rfl
      split
      · exact lockStep_simulation.pure rfl
      · exact rebuilt

/-- A call that is not type-dependent reads with the reduced overload set as with all candidates. -/
theorem readsAs_reduced
    (independent : (Expr.node (.call callee arguments) template).isTypeDependent = false) :
    (Expr.node (.call callee' arguments) template').ReadsAs scope
      (.node (.call callee arguments) template) := by
  have independent' : (Expr.node (.call callee' arguments) template').isTypeDependent = false :=
    (anyForm_reduced named reduced rfl rfl).trans independent
  have sameValueDependence : (Expr.node (.call callee' arguments) template').isValueDependent =
      (Expr.node (.call callee arguments) template).isValueDependent :=
    anyForm_reduced named reduced rfl rfl
  have sameDecl : scope.targetDecl callee' arguments = scope.targetDecl callee arguments := by
    rw [Scope.targetDecl, Scope.targetDecl, target_reduced named reduced resolved]
  refine ⟨?_, ?_, ?_, ?_⟩
  · rw [Expr.typeOf_eq_plainType independent, Expr.typeOf_eq_plainType independent',
      Expr.plainType, Expr.plainType, Expr.plainFormType, Expr.plainFormType, sameDecl]
  · rw [Expr.category, Expr.category, Expr.formCategory, Expr.formCategory, sameDecl]
  · rw [Expr.isConstant, Expr.isConstant, Expr.isConstantForm, Expr.isConstantForm, sameDecl]
  · have together : LockStep Eq
        ((Expr.node (.call callee' arguments) template').constantValue scope)
        ((Expr.node (.call callee arguments) template).constantValue scope) := by
      unfold Expr.constantValue
      rw [sameValueDependence]
      refine refusal_alike lockStep_simulation rfl ?_
      exact lockStep_simulation.bind (evaluate_reduced named reduced resolved) fun _ _ same =>
        lockStep_simulation.pure (by rw [same])
    exact together.eq fun _ _ => id

end Reduced

/-- Instantiation leaves of an overload set that resolves the function that it resolves to. -/
theorem overloadSet?_narrow {work : Instantiation} {callee : Expr} {set : OverloadSet}
    {arguments : List Expr} {function : FunctionId} (named : callee.overloadSet? = some set)
    (unexpanded : arguments.any Expr.isExpansion = false)
    (resolved : work.scope.resolve set arguments.length = some function) :
    (work.narrow callee arguments).overloadSet? = some { set with candidates := [function] } := by
  have member : function ∈ set.candidates := (Scope.resolve_spec resolved).1
  by_cases several : 1 < set.candidates.length
  · simp only [Instantiation.narrow, named, several, unexpanded, resolved, decide_true,
      Bool.not_false, Bool.and_self, if_true]
    rfl
  · obtain ⟨candidates, name, templateArguments⟩ := set
    have alone : candidates = [function] := by
      match candidates with
      | [] => contradiction
      | [candidate] => rw [List.mem_singleton.mp member]
      | first :: second :: rest => exact absurd (Nat.one_lt_succ_succ _) several
    subst alone
    simp only [Instantiation.narrow, named, several, decide_false, Bool.false_and,
      Bool.false_eq_true, if_false]

/-- A call by name is resolved alike wherever it is. The body that its evaluation runs is that of
its target, and so is the function for which the evaluation refuses the call itself. A call that is
not type-dependent and that resolves has that function as its target. Instantiation leaves of its
overload set that function alone; the call then still has the same target and reads as before. -/
theorem resolution_agrees (scope : Scope) {callee : Expr} {set : OverloadSet}
    (named : callee.overloadSet? = some set) (arguments : List Expr)
    (template : Option TemplateId) :
    (∀ parameters start function bound body middle,
      Enters scope parameters start (.call callee arguments) (some function) bound body middle →
        scope.target callee arguments = some function) ∧
    (∀ parameters budget failure left function,
      (Expr.node (.call callee arguments) template).FailsItself scope parameters budget failure
        left →
        failure = .nonConstexprFunction function ∨ failure = .missingDefinition function →
          scope.target callee arguments = some function) ∧
    ∀ function, (Expr.node (.call callee arguments) template).isTypeDependent = false →
      scope.resolve set arguments.length = some function →
        scope.target callee arguments = some function ∧
        (∀ work : Instantiation, work.scope = scope →
          (work.narrow callee arguments).overloadSet? =
            some { set with candidates := [function] }) ∧
        ∀ callee' template',
          callee'.overloadSet? = some { set with candidates := [function] } →
            scope.target callee' arguments = some function ∧
              (Expr.node (.call callee' arguments) template').ReadsAs scope
                (.node (.call callee arguments) template) := by
  refine ⟨fun _ _ _ _ _ _ => target_of_enters named,
    fun _ _ _ _ _ => target_of_failsItself named, fun function independent resolved => ?_⟩
  have plain : ∀ argument ∈ arguments, argument.isExpansion = false := fun argument member =>
    Expr.plain_of_independent
      ((Expr.independent_iff.mp independent).2 argument (List.mem_cons_of_mem _ member))
  have unexpanded : arguments.any Expr.isExpansion = false := by
    simpa only [List.any_eq_false, Bool.not_eq_true] using plain
  have target : scope.target callee arguments = some function := by
    simp only [Scope.target, unexpanded, named, Bool.false_eq_true, if_false, Option.bind_some,
      resolved]
  refine ⟨target, ?_, fun callee' template' reduced => ⟨?_, ?_⟩⟩
  · rintro work rfl
    exact overloadSet?_narrow named unexpanded resolved
  · rw [target_reduced named reduced resolved, target]
  · exact readsAs_reduced named reduced resolved independent

/-- The function `pick` of one parameter, which returns the argument, and that of two, which is not
declared for constant expressions. -/
def pickTable : Table :=
  ⟨[⟨"pick", [.fundamental .int], .fundamental .int,
      some (.of (.parameterRef 0 (.fundamental .int) false)), true⟩,
    ⟨"pick", [.fundamental .int, .fundamental .int], .fundamental .long, none, false⟩], []⟩

/-- The name `pick`, which also denotes a function that is not declared. -/
def pick : Expr := .of (.overloads ⟨[⟨7⟩, ⟨1⟩, ⟨0⟩], "pick", none⟩)

/-- The call `pick(3)` runs the body of the function of one parameter, and `pick(3, 4)` is refused
for that of two. -/
theorem resolution_agrees_of_pick :
    pick.overloadSet? = some ⟨[⟨7⟩, ⟨1⟩, ⟨0⟩], "pick", none⟩ ∧
      (∃ bound body middle, Enters pickTable.scope [] ⟨1, 9⟩ (.call pick [.int 3]) (some ⟨0⟩) bound
        body middle) ∧
      (∃ left, (Expr.node (.call pick [.int 3, .int 4]) none).FailsItself pickTable.scope [] ⟨0, 9⟩
        (.nonConstexprFunction ⟨1⟩) left) ∧
      pickTable.scope.target pick [.int 3] = some ⟨0⟩ ∧
      pickTable.scope.target pick [.int 3, .int 4] = some ⟨1⟩ ∧
      (Expr.node (.call (.of (.overloads ⟨[⟨0⟩], "pick", none⟩)) [.int 3]) none).ReadsAs
        pickTable.scope (.node (.call pick [.int 3]) none) := by
  have named : pick.evaluate pickTable.scope [] ⟨1, 9⟩ = .ok pick ⟨2, 9⟩ := rfl
  have one : [Expr.int 3].mapM (Expr.evaluate pickTable.scope []) ⟨2, 9⟩ =
      .ok [.int 3] ⟨3, 9⟩ := rfl
  have two : [Expr.int 3, .int 4].mapM (Expr.evaluate pickTable.scope []) ⟨2, 9⟩ =
      .ok [.int 3, .int 4] ⟨4, 9⟩ := rfl
  have entered : ∃ bound body middle, Enters pickTable.scope [] ⟨1, 9⟩ (.call pick [.int 3])
      (some ⟨0⟩) bound body middle := ⟨_, _, _, .body ⟨⟨_, named, one⟩, rfl, rfl, rfl⟩ rfl⟩
  have fails : (Expr.node (.call pick [.int 3, .int 4]) none).FailsItself pickTable.scope [] ⟨0, 9⟩
      (.nonConstexprFunction ⟨1⟩) ⟨4, 9⟩ :=
    Raises.failsItself rfl (.call ⟨⟨_, named, two⟩, rfl, rfl, rfl⟩ rfl)
  have named' : pick.overloadSet? = some ⟨[⟨7⟩, ⟨1⟩, ⟨0⟩], "pick", none⟩ := rfl
  have resolves := resolution_agrees pickTable.scope named' [.int 3] none
  have refuses := resolution_agrees pickTable.scope named' [.int 3, .int 4] none
  obtain ⟨bound, body, middle, enters⟩ := entered
  exact ⟨rfl, ⟨bound, body, middle, enters⟩, ⟨_, fails⟩, resolves.1 _ _ _ _ _ _ enters,
    refuses.2.1 _ _ _ _ _ fails (.inl rfl), ((resolves.2.2 ⟨0⟩ rfl rfl).2.2 _ none rfl).2⟩

end ConstExpr
