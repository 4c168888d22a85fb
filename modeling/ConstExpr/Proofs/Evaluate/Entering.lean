import ConstExpr.Proofs.Evaluate.Residuals

/-!
# The trees that an evaluation enters

Evaluating a node evaluates other trees: children of it, the body of the function that it calls, or
the initializer of the variable that it mentions. `Enters` lists them, each with the parameters and
the budget that it is evaluated with, and with the call if it is the body of one. A node comes to it
only after all that it evaluates before has been answered. `Raises` lists the failures that are no
tree's but the node's own, of which none is a refused step. A node fails in these two ways and in no
other (`evaluateNode_error_iff`).
-/
namespace ConstExpr

open Evaluation

/-- All children of the form are evaluated, in order, before anything is made of them. -/
def Form.visitsAll {α : Type} : Form α → Bool
  | unary operator _ => !operator.isMutation
  | comma _ | call .. | braced _ | construct .. => true
  | _ => false

/-- With the given parameters and starting budget, the parts of a call are evaluated to those of one
that is resolved, and the last budget is left. -/
structure ComesToCall (scope : Scope) (parameters : List Expr) (start : Budget)
    (callee : Expr) (arguments : List Expr) (callee' : Expr) (set : OverloadSet)
    (results : List Expr) (last : Budget) : Prop where
  /-- The callee is evaluated, and then the arguments in order. -/
  answered : ∃ middle, callee.evaluate scope parameters start = .ok callee' middle ∧
    arguments.mapM (Expr.evaluate scope parameters) middle = .ok results last
  /-- The callee comes to the name of the overload set. -/
  named : callee'.overloadSet? = some set
  /-- The arguments come to known literals. -/
  known : results.all Expr.isKnown = true
  /-- The name does not depend on a template parameter. -/
  independent : callee'.isValueDependent = false

/-- With the given parameters, and with the starting budget after the step of the node, a node of
the form comes to evaluate a tree: as the body of the call, if one is named, with parameters of its
own, and from what is then left of the budget. -/
inductive Enters (scope : Scope) (parameters : List Expr) (start : Budget) :
    Form Expr → Option FunctionId → List Expr → Expr → Budget → Prop where
  /-- A child, where all of them are evaluated in order. -/
  | child {form : Form Expr} {before after results : List Expr} {expr : Expr} {middle : Budget}
    (all : form.visitsAll = true) (among : form.children = before ++ expr :: after)
    (answered : before.mapM (Expr.evaluate scope parameters) start = .ok results middle) :
    Enters scope parameters start form none parameters expr middle
  /-- The left operand of an operator that modifies nothing. -/
  | left {operator : BinaryOperator} {left right : Expr}
    (harmless : operator.isAssignment = false) :
    Enters scope parameters start (.binary operator left right) none parameters left start
  /-- The right operand, unless the left one decides. -/
  | right {operator : BinaryOperator} {left right result : Expr} {middle : Budget}
    (harmless : operator.isAssignment = false)
    (answered : left.evaluate scope parameters start = .ok result middle)
    (undecided : operator.decision? result = none) :
    Enters scope parameters start (.binary operator left right) none parameters right middle
  /-- The condition of a choice. -/
  | condition {condition positive negative : Expr} :
    Enters scope parameters start (.conditional condition positive negative) none parameters
      condition start
  /-- The branch that the condition selects. -/
  | selected {condition positive negative result : Expr} {truth : Bool} {middle : Budget}
    (answered : condition.evaluate scope parameters start = .ok result middle)
    (decided : result.fixedTruth? = some truth) :
    Enters scope parameters start (.conditional condition positive negative) none parameters
      (if truth then positive else negative) middle
  /-- The first branch of an undecided choice. -/
  | positive {condition positive negative result : Expr} {middle : Budget}
    (answered : condition.evaluate scope parameters start = .ok result middle)
    (undecided : result.fixedTruth? = none) :
    Enters scope parameters start (.conditional condition positive negative) none parameters
      positive middle
  /-- The second branch of an undecided choice. -/
  | negative {condition positive negative result first : Expr} {middle last : Budget}
    (answered : condition.evaluate scope parameters start = .ok result middle)
    (undecided : result.fixedTruth? = none)
    (before : positive.evaluate scope parameters middle = .ok first last) :
    Enters scope parameters start (.conditional condition positive negative) none parameters
      negative last
  /-- The body of the function that a call of known arguments resolves to. -/
  | body {callee callee' body : Expr} {arguments results : List Expr} {set : OverloadSet}
    {id : FunctionId} {decl : FunctionDecl} {last : Budget}
    (comes : ComesToCall scope parameters start callee arguments callee' set results last)
    (resolved : callee? scope set results.length = .ok (id, decl, body)) :
    Enters scope parameters start (.call callee arguments) (some id)
      (results.zipWith (fun argument type => argument.convertTo type) decl.parameters) body last
  /-- The initializer of a variable that may be used in a constant expression. -/
  | initializer {id : VariableId} {type : Ty} {initializer : Expr}
    (usable : scope.constantInitializer? id = some initializer) :
    Enters scope parameters start (.variableRef id type) none [] initializer start

/-- With the given parameters and starting budget, a node of the form raises the failure by itself,
when the last budget is left. -/
inductive Raises (scope : Scope) (parameters : List Expr) (start : Budget) :
    Form Expr → Failure → Budget → Prop where
  /-- An operator with one operand modifies it. -/
  | mutation {operator : UnaryOperator} {operand : Expr} (mutates : operator.isMutation = true) :
    Raises scope parameters start (.unary operator operand) .modification start
  /-- An operator with two operands modifies the left one. -/
  | assignment {operator : BinaryOperator} {left right : Expr}
    (assigns : operator.isAssignment = true) :
    Raises scope parameters start (.binary operator left right) .modification start
  /-- An operator has no result on the integers that its operands evaluate to. -/
  | arithmetic {operator : BinaryOperator} {left right left' right' : Expr} {middle last : Budget}
    {first second : Int} {firstType secondType : Fundamental} {failure : Failure}
    (harmless : operator.isAssignment = false)
    (answered : left.evaluate scope parameters start = .ok left' middle)
    (undecided : operator.decision? left' = none)
    (other : right.evaluate scope parameters middle = .ok right' last)
    (leftHolds : left'.fixedInteger? = some first) (rightHolds : right'.fixedInteger? = some second)
    (leftTyped : (left'.typeOf scope).fundamental? = some firstType)
    (rightTyped : (right'.typeOf scope).fundamental? = some secondType)
    (failed : operator.compute firstType secondType first second = .error failure) :
    Raises scope parameters start (.binary operator left right) failure last
  /-- A call of known arguments does not come to the body of a function. -/
  | call {callee callee' : Expr} {arguments results : List Expr} {set : OverloadSet} {last : Budget}
    {failure : Failure}
    (comes : ComesToCall scope parameters start callee arguments callee' set results last)
    (failed : callee? scope set results.length = .error failure) :
    Raises scope parameters start (.call callee arguments) failure last

/-- What a node raises by itself is no refused step. -/
theorem Raises.isStepLimit {scope : Scope} {parameters : List Expr} {start left : Budget}
    {form : Form Expr} {failure : Failure}
    (raises : Raises scope parameters start form failure left) : failure.isStepLimit = false := by
  cases raises with
  | mutation | assignment => rfl
  | arithmetic _ _ _ _ _ _ _ _ failed => exact BinaryOperator.compute_failure failed
  | call _ failed => exact callee?_failure failed

/-- The failure of a tree as it leaves the node that entered the tree: a refused step is blamed on
the call, if the tree is the body of one. -/
def Failure.leaving : Option FunctionId → Failure → Failure
  | none, failure => failure
  | some function, failure => failure.withinCall function

/-- A tree that the node enters fails, and the failure leaves the node as the given one. -/
def FailsWithin (scope : Scope) (parameters : List Expr) (start : Budget) (form : Form Expr)
    (failure : Failure) (left : Budget) : Prop :=
  ∃ call bound entered middle inner, Enters scope parameters start form call bound entered middle ∧
    entered.evaluate scope bound middle = .error inner left ∧ failure = inner.leaving call

/-- The node raises the failure by itself, or a tree that it enters fails. -/
def Fails (scope : Scope) (parameters : List Expr) (start : Budget) (form : Form Expr)
    (failure : Failure) (left : Budget) : Prop :=
  Raises scope parameters start form failure left ∨
    FailsWithin scope parameters start form failure left

/-- A failure that leaves a node is a refused step when it was one. -/
theorem Failure.isStepLimit_leaving (call : Option FunctionId) (failure : Failure) :
    (failure.leaving call).isStepLimit = failure.isStepLimit := by
  cases call with
  | none => rfl
  | some function => cases failure <;> rfl

section Runs

variable {α β : Type} {budget left : Budget} {failure : Failure}

/-- Evaluations in a row come to an answer when both do. -/
theorem bind_ok_of {first : Evaluation α} {next : α → Evaluation β} {middle : Budget} {answer : α}
    (answered : first budget = .ok answer middle) :
    (first >>= next) budget = next answer middle := by
  rw [bind_apply, answered]

/-- Evaluations in a row fail when the first one does, or when it answers and the next one
fails. -/
theorem bind_error_iff {first : Evaluation α} {next : α → Evaluation β} :
    (first >>= next) budget = .error failure left ↔ first budget = .error failure left ∨
      ∃ answer middle, first budget = .ok answer middle ∧
        next answer middle = .error failure left := by
  constructor
  · intro failed
    rw [bind_apply] at failed
    cases answered : first budget with
    | ok answer middle => exact .inr ⟨answer, middle, rfl, by rwa [answered] at failed⟩
    | error =>
      simp only [answered] at failed
      obtain ⟨rfl, rfl⟩ := EStateM.Result.error.inj failed
      exact .inl rfl
  · rintro (failed | ⟨answer, middle, answered, failed⟩)
    · rw [bind_apply, failed]
    · rw [bind_ok_of answered, failed]

variable {run : Expr → Evaluation Expr} {head : Expr} {tail exprs : List Expr}

/-- There is nothing to do for an empty list of trees. -/
theorem mapM_nil_ok : ([] : List Expr).mapM run budget = .ok [] budget := by
  rw [List.mapM_nil]
  rfl

/-- A list of trees is evaluated by its first tree and then the others. -/
theorem mapM_cons_ok_iff {results : List Expr} :
    (head :: tail).mapM run budget = .ok results left ↔ ∃ result rest middle,
      run head budget = .ok result middle ∧ tail.mapM run middle = .ok rest left ∧
        results = result :: rest := by
  rw [List.mapM_cons]
  constructor
  · intro answered
    obtain ⟨result, middle, first, answered⟩ := bind_ok answered
    obtain ⟨rest, _, others, same⟩ := bind_ok answered
    obtain ⟨rfl, rfl⟩ := EStateM.Result.ok.inj same
    exact ⟨result, rest, middle, first, others, rfl⟩
  · rintro ⟨result, rest, middle, first, others, rfl⟩
    rw [bind_ok_of first, bind_ok_of others]
    rfl

/-- The evaluation of a list of trees fails with its first tree, or with the others once that is
answered. -/
theorem mapM_cons_error_iff :
    (head :: tail).mapM run budget = .error failure left ↔ run head budget = .error failure left ∨
      ∃ result middle, run head budget = .ok result middle ∧
        tail.mapM run middle = .error failure left := by
  rw [List.mapM_cons, bind_error_iff]
  refine or_congr_right (exists_congr fun result => exists_congr fun middle =>
    and_congr_right fun _ => ?_)
  rw [bind_error_iff]
  refine or_iff_left ?_
  rintro ⟨_, _, _, impossible⟩
  contradiction

/-- The evaluation of a list of trees fails when that of one of them does after all before it were
answered. -/
theorem mapM_error_iff :
    exprs.mapM run budget = .error failure left ↔ ∃ before expr after results middle,
      exprs = before ++ expr :: after ∧ before.mapM run budget = .ok results middle ∧
        run expr middle = .error failure left := by
  induction exprs generalizing budget with
  | nil =>
    refine ⟨fun failed => by rw [mapM_nil_ok] at failed; contradiction, ?_⟩
    rintro ⟨before, expr, after, _, _, among, -⟩
    exact absurd among (by simp)
  | cons head tail ih =>
    rw [mapM_cons_error_iff]
    constructor
    · rintro (failed | ⟨result, middle, first, failed⟩)
      · exact ⟨[], head, tail, [], budget, rfl, mapM_nil_ok, failed⟩
      · obtain ⟨before, expr, after, rest, last, rfl, others, failed⟩ := ih.mp failed
        exact ⟨head :: before, expr, after, result :: rest, last, rfl,
          mapM_cons_ok_iff.mpr ⟨result, rest, middle, first, others, rfl⟩, failed⟩
    · rintro ⟨before, expr, after, results, last, among, answered, failed⟩
      cases before with
      | nil =>
        obtain ⟨rfl, rfl⟩ := List.cons.inj among
        rw [mapM_nil_ok] at answered
        obtain ⟨-, rfl⟩ := EStateM.Result.ok.inj answered
        exact .inl failed
      | cons first before =>
        obtain ⟨rfl, rfl⟩ := List.cons.inj among
        obtain ⟨result, rest, middle, headed, others, rfl⟩ := mapM_cons_ok_iff.mp answered
        exact .inr ⟨result, middle, headed,
          ih.mpr ⟨before, expr, after, rest, last, rfl, others, failed⟩⟩

end Runs

section Nodes

variable {scope : Scope} {parameters : List Expr} {expr : Expr} {start left : Budget}
  {failure : Failure}

/-- A node all of whose children are evaluated in order fails as soon as they do. -/
theorem evaluateNode_of_children (all : expr.form.visitsAll = true)
    (failed : expr.children.mapM (Expr.evaluate scope parameters) start = .error failure left) :
    evaluateNode scope (fun arguments other => other.evaluate scope arguments) parameters expr
      start = .error failure left := by
  obtain ⟨form, template⟩ := expr
  cases form with
  | unary operator operand =>
    have harmless : operator.isMutation = false := Bool.not_eq_true' _ ▸ all
    rcases mapM_cons_error_iff.mp failed with failed | ⟨_, _, _, impossible⟩
    · simp only [evaluateNode, Expr.form, evaluateUnary, harmless, Bool.false_eq_true, if_false]
      exact bind_error_iff.mpr (.inl failed)
    · rw [mapM_nil_ok] at impossible
      contradiction
  | call callee arguments =>
    refine bind_error_iff.mpr ?_
    rcases mapM_cons_error_iff.mp failed with failed | ⟨result, middle, answered, failed⟩
    · exact .inl failed
    · exact .inr ⟨result, middle, answered, bind_error_iff.mpr (.inl failed)⟩
  | comma | braced | construct => exact bind_error_iff.mpr (.inl failed)
  | _ => contradiction

/-- A node enters its first child from the starting budget, where all of them are evaluated in
order. -/
theorem Enters.first {form : Form Expr} {child : Expr} {rest : List Expr}
    (all : form.visitsAll = true) (among : form.children = child :: rest) :
    Enters scope parameters start form none parameters child start := by
  rw [← List.nil_append (child :: rest)] at among
  exact .child all among mapM_nil_ok

/-- A tree that is no body of a call fails as the node that enters it. -/
theorem Enters.failsWithin {form : Form Expr} {bound : List Expr} {entered : Expr}
    {middle : Budget} (enters : Enters scope parameters start form none bound entered middle)
    (failed : entered.evaluate scope bound middle = .error failure left) :
    FailsWithin scope parameters start form failure left :=
  ⟨none, bound, entered, middle, failure, enters, failed, rfl⟩

/-- Where children that are evaluated in order fail, one that the node enters does. -/
theorem failsWithin_of_children {form : Form Expr} (all : form.visitsAll = true)
    (failed : form.children.mapM (Expr.evaluate scope parameters) start = .error failure left) :
    FailsWithin scope parameters start form failure left := by
  obtain ⟨before, child, after, results, middle, among, answered, failed⟩ :=
    mapM_error_iff.mp failed
  exact Enters.failsWithin (.child all among answered) failed

section Blame

/-- The failures with which the evaluation ends from the budget are as said. -/
def Evaluation.Blames {α : Type} (run : Evaluation α) (start : Budget)
    (blame : Failure → Budget → Prop) : Prop :=
  ∀ failure left, run start = .error failure left → blame failure left

variable {α β : Type} {blame : Failure → Budget → Prop}

/-- An answer is no failure. -/
theorem Evaluation.Blames.pure (answer : α) : Blames (pure answer) start blame := by
  intro failure left failed
  contradiction

/-- A failure is itself. -/
theorem Evaluation.Blames.throw (raised : blame failure start) :
    Blames (throw failure : Evaluation α) start blame := by
  intro _ _ failed
  obtain ⟨rfl, rfl⟩ := EStateM.Result.error.inj failed
  exact raised

/-- Evaluations in a row fail as the first one does, or as the next one does from where the first
one was answered. -/
theorem Evaluation.Blames.bind {first : Evaluation α} {next : α → Evaluation β}
    (head : first.Blames start blame)
    (tail : ∀ answer middle, first start = .ok answer middle → (next answer).Blames middle blame) :
    (first >>= next).Blames start blame := by
  intro failure left failed
  rcases bind_error_iff.mp failed with failed | ⟨answer, middle, answered, failed⟩
  · exact head failure left failed
  · exact tail answer middle answered failure left failed

/-- An evaluation that starts with a refusal fails as refused, or as the rest does. -/
theorem Evaluation.Blames.refusal {refuses : Bool} {next : Unit → Evaluation α}
    (raised : refuses = true → blame failure start)
    (rest : refuses = false → (next ()).Blames start blame) :
    (if refuses then MonadExcept.throw failure >>= next else next ()).Blames start blame := by
  cases refuses with
  | true => exact .bind (.throw (raised rfl)) fun _ _ impossible => by contradiction
  | false => exact rest rfl

end Blame

section Forms

/-- A tree that the node enters, other than the body of a call, fails as the node. -/
theorem Enters.blames {form : Form Expr} {bound : List Expr} {entered : Expr} {middle : Budget}
    (enters : Enters scope parameters start form none bound entered middle) :
    (entered.evaluate scope bound).Blames middle (Fails scope parameters start form) :=
  fun _ _ failed => .inr (enters.failsWithin failed)

/-- Children that are all evaluated in order fail as the node. -/
theorem children_blame (form : Form Expr) (all : form.visitsAll = true) :
    (form.children.mapM (Expr.evaluate scope parameters)).Blames start
      (Fails scope parameters start form) :=
  fun _ _ failed => .inr (failsWithin_of_children all failed)

/-- How an operator with one operand fails. -/
theorem unary_blames (operator : UnaryOperator) (operand : Expr) :
    (evaluateUnary scope (fun arguments other => other.evaluate scope arguments) parameters expr
      operator operand).Blames start (Fails scope parameters start (.unary operator operand)) := by
  unfold evaluateUnary
  refine .refusal (fun mutates => .inl (.mutation mutates)) fun harmless =>
    .bind (Enters.blames (.first ?_ rfl)) fun _ _ _ => ?_
  · rw [Form.visitsAll, harmless]
    rfl
  · split <;> exact .pure _

/-- How an operator with two operands fails. -/
theorem binary_blames (operator : BinaryOperator) (left right : Expr) :
    (evaluateBinary scope (fun arguments other => other.evaluate scope arguments) parameters expr
      operator left right).Blames start
        (Fails scope parameters start (.binary operator left right)) := by
  cases harmless : operator.isAssignment with
  | true =>
    unfold evaluateBinary
    exact .refusal (fun assigns => .inl (.assignment assigns)) fun impossible => by
      rw [harmless] at impossible
      contradiction
  | false =>
    rw [evaluateBinary_eq harmless]
    refine .bind (Enters.left harmless).blames fun left' middle answered => ?_
    split
    · exact .pure _
    · next undecided =>
      refine .bind (Enters.right harmless answered undecided).blames fun right' last other => ?_
      unfold foldBinary
      dsimp only
      split
      · next leftHolds rightHolds leftTyped rightTyped =>
        split
        · exact .pure _
        · next failed =>
          exact .throw (.inl (.arithmetic harmless answered undecided other leftHolds rightHolds
            leftTyped rightTyped failed))
      · exact .pure _

/-- How a choice fails. -/
theorem conditional_blames (condition positive negative : Expr) :
    (evaluateConditional scope (fun arguments other => other.evaluate scope arguments) parameters
      expr condition positive negative).Blames start
        (Fails scope parameters start (.conditional condition positive negative)) := by
  refine .bind Enters.condition.blames fun result middle answered => ?_
  split
  · next truth decided => exact .bind (Enters.selected answered decided).blames fun _ _ _ => .pure _
  · next undecided =>
    refine .bind (Enters.positive answered undecided).blames fun first last before => ?_
    exact .bind (Enters.negative answered undecided before).blames fun _ _ _ => .pure _

/-- How the body of a call fails. -/
theorem body_blames {form : Form Expr} {id : FunctionId} {bound : List Expr} {body : Expr}
    {middle : Budget} (enters : Enters scope parameters start form (some id) bound body middle) :
    (Evaluation.withinCall id (body.evaluate scope bound)).Blames middle
      (Fails scope parameters start form) := by
  intro failure left failed
  unfold Evaluation.withinCall at failed
  split at failed
  · contradiction
  · next inner last failed' =>
    obtain ⟨rfl, rfl⟩ := EStateM.Result.error.inj failed
    exact .inr ⟨some id, _, _, _, inner, enters, failed', rfl⟩

/-- How a call fails. -/
theorem call_blames (callee : Expr) (arguments : List Expr) :
    (evaluateCall scope (fun arguments other => other.evaluate scope arguments) parameters expr
      callee arguments).Blames start (Fails scope parameters start (.call callee arguments)) := by
  have children : ((callee :: arguments).mapM (Expr.evaluate scope parameters)).Blames start
      (Fails scope parameters start (.call callee arguments)) := children_blame (.call _ _) rfl
  refine .bind (fun _ _ failed => children _ _ (mapM_cons_error_iff.mpr (.inl failed)))
    fun callee' middle answered => ?_
  refine .bind (fun _ _ failed => children _ _
    (mapM_cons_error_iff.mpr (.inr ⟨_, _, answered, failed⟩))) fun results last passed => ?_
  dsimp only
  split
  · exact .pure _
  · next set named =>
    split
    · exact .pure _
    · next entering =>
      simp only [Bool.or_eq_true, Bool.not_eq_true', not_or, Bool.not_eq_false,
        Bool.not_eq_true] at entering
      have comes : ComesToCall scope parameters start callee arguments callee' set results last :=
        ⟨⟨middle, answered, passed⟩, named, entering.1, entering.2⟩
      split
      · next failed => exact .throw (.inl (.call comes failed))
      · next id decl body resolved =>
        refine .bind (body_blames (.body comes resolved)) fun _ _ _ => ?_
        split <;> exact .pure _

/-- How a node fails. -/
theorem evaluateNode_blames :
    (evaluateNode scope (fun arguments other => other.evaluate scope arguments) parameters
      expr).Blames start (Fails scope parameters start expr.form) := by
  unfold evaluateNode
  cases expr.form with
  | fixed | templateRef | parameterRef | typeTrait | overloads | expansion => exact .pure _
  | variableRef id type =>
    unfold evaluateVariable
    dsimp only
    split
    · next initializer usable => exact .bind (Enters.initializer usable).blames fun _ _ _ => .pure _
    · exact .pure _
  | unary operator operand => exact unary_blames operator operand
  | binary operator left right => exact binary_blames operator left right
  | conditional condition positive negative =>
    exact conditional_blames condition positive negative
  | call callee arguments => exact call_blames callee arguments
  | comma operands =>
    refine .bind (children_blame (.comma operands) rfl) fun _ _ _ => ?_
    split
    · split <;> exact .pure _
    · exact .pure _
  | braced clauses =>
    refine .bind (children_blame (.braced clauses) rfl) fun _ _ _ => ?_
    split <;> exact .pure _
  | construct type arguments =>
    refine .bind (children_blame (.construct type arguments) rfl) fun _ _ _ => ?_
    dsimp only
    split
    · exact .pure _
    · split
      · exact .pure _
      · split <;> exact .pure _
      · exact .pure _

end Forms

/-- A call that is resolved goes on with the body of the function, or fails. -/
theorem ComesToCall.evaluateCall {callee callee' : Expr} {arguments results : List Expr}
    {set : OverloadSet} {last : Budget}
    (comes : ComesToCall scope parameters start callee arguments callee' set results last)
    (expr : Expr) :
    evaluateCall scope (fun arguments other => other.evaluate scope arguments) parameters expr
        callee arguments start =
      (match callee? scope set results.length with
        | .error failure => throw failure
        | .ok (id, decl, body) => do
          let bound := results.zipWith (fun (argument : Expr) type => argument.convertTo type)
            decl.parameters
          let result ← Evaluation.withinCall id (body.evaluate scope bound)
          if result.isFixed then return result.convertTo decl.returnType
          else return expr.derive (.call callee' results)) last := by
  obtain ⟨middle, answered, passed⟩ := comes.answered
  have entering : ¬(!results.all Expr.isKnown || callee'.isValueDependent) = true := by
    rw [comes.known, comes.independent]
    decide
  refine (bind_ok_of answered).trans ((bind_ok_of passed).trans ?_)
  rw [comes.named]
  exact congrFun (if_neg entering) last

/-- The failure of a tree that a node enters leaves the node. -/
theorem Enters.evaluateNode {call : Option FunctionId} {bound : List Expr} {entered : Expr}
    {middle : Budget} (enters : Enters scope parameters start expr.form call bound entered middle)
    (failed : entered.evaluate scope bound middle = .error failure left) :
    evaluateNode scope (fun arguments other => other.evaluate scope arguments) parameters expr
      start = .error (failure.leaving call) left := by
  obtain ⟨form, template⟩ := expr
  cases enters with
  | child all among answered =>
    exact evaluateNode_of_children all
      (mapM_error_iff.mpr ⟨_, _, _, _, _, among, answered, failed⟩)
  | left harmless =>
    exact (congrFun (evaluateBinary_eq harmless _ _ _) start).trans
      (bind_error_iff.mpr (.inl failed))
  | right harmless answered undecided =>
    refine (congrFun (evaluateBinary_eq harmless _ _ _) start).trans ?_
    rw [bind_ok_of answered, undecided]
    exact bind_error_iff.mpr (.inl failed)
  | condition => exact bind_error_iff.mpr (.inl failed)
  | selected answered decided =>
    refine bind_error_iff.mpr (.inr ⟨_, _, answered, ?_⟩)
    simp only [decided]
    exact bind_error_iff.mpr (.inl failed)
  | positive answered undecided =>
    refine bind_error_iff.mpr (.inr ⟨_, _, answered, ?_⟩)
    simp only [undecided]
    exact bind_error_iff.mpr (.inl failed)
  | negative answered undecided before =>
    refine bind_error_iff.mpr (.inr ⟨_, _, answered, ?_⟩)
    simp only [undecided]
    exact bind_error_iff.mpr (.inr ⟨_, _, before, bind_error_iff.mpr (.inl failed)⟩)
  | body comes resolved =>
    refine (comes.evaluateCall _).trans ?_
    simp only [resolved]
    refine bind_error_iff.mpr (.inl ?_)
    simp only [Evaluation.withinCall, failed]
    rfl
  | initializer usable =>
    simp only [ConstExpr.evaluateNode, Expr.form, evaluateVariable, usable]
    exact bind_error_iff.mpr (.inl failed)

/-- What a node raises by itself it fails with. -/
theorem Raises.evaluateNode (raises : Raises scope parameters start expr.form failure left) :
    evaluateNode scope (fun arguments other => other.evaluate scope arguments) parameters expr
      start = .error failure left := by
  obtain ⟨form, template⟩ := expr
  cases raises with
  | mutation mutates =>
    simp only [ConstExpr.evaluateNode, Expr.form, evaluateUnary, mutates, if_true]
    rfl
  | assignment assigns =>
    simp only [ConstExpr.evaluateNode, Expr.form, evaluateBinary, assigns, if_true]
    rfl
  | arithmetic harmless answered undecided other leftHolds rightHolds leftTyped rightTyped failed =>
    refine (congrFun (evaluateBinary_eq harmless _ _ _) start).trans ?_
    rw [bind_ok_of answered, undecided]
    refine (bind_ok_of other).trans ?_
    simp only [foldBinary, leftHolds, rightHolds, leftTyped, rightTyped, failed]
    rfl
  | call comes failed =>
    refine (comes.evaluateCall _).trans ?_
    simp only [failed]
    rfl

/-- A node fails exactly when it raises a failure by itself or when a tree that it enters fails. -/
theorem evaluateNode_error_iff :
    evaluateNode scope (fun arguments other => other.evaluate scope arguments) parameters expr
      start = .error failure left ↔ Fails scope parameters start expr.form failure left := by
  refine ⟨evaluateNode_blames failure left, ?_⟩
  rintro (raises | ⟨call, bound, entered, middle, inner, enters, failed, rfl⟩)
  · exact raises.evaluateNode
  · exact enters.evaluateNode failed

/-- No tree is evaluated from a spent budget. -/
theorem evaluate_of_exhausted (exhausted : start.isExhausted = true) :
    expr.evaluate scope parameters start =
      .error (.stepLimitExceeded start.performed start.limit none) start := by
  rw [evaluate_eq, bind_apply, step_of_exhausted exhausted]

/-- A budget that is not spent has fewer steps left after one more. -/
theorem Budget.remaining_spend_lt {budget : Budget} (active : budget.isExhausted = false) :
    (budget.spend 1).remaining < budget.remaining := by
  simp only [isExhausted, decide_eq_false_iff_not] at active
  simp only [remaining, spend]
  omega

/-- From a budget that is not spent, a tree takes a step and is evaluated as a node. -/
theorem evaluate_of_active (active : start.isExhausted = false) :
    expr.evaluate scope parameters start =
      evaluateNode scope (fun arguments other => other.evaluate scope arguments) parameters expr
        (start.spend 1) := by
  have stepped : step start = .ok () (start.spend 1) :=
    step_of_remaining (Nat.zero_lt_of_lt (Budget.remaining_spend_lt active))
  rw [evaluate_eq, bind_ok_of stepped]

/-- A node enters a tree with no more steps left than it started with. -/
theorem Enters.remaining_le {form : Form Expr} {call : Option FunctionId} {bound : List Expr}
    {entered : Expr} {middle : Budget}
    (enters : Enters scope parameters start form call bound entered middle) :
    middle.remaining ≤ start.remaining := by
  have tree {expr result : Expr} {budget rest : Budget}
      (answered : expr.evaluate scope parameters budget = .ok result rest) :
      rest.remaining ≤ budget.remaining := by
    obtain ⟨taken, -, rfl⟩ := (expr.evaluate_metered scope parameters).completes answered
    rw [Budget.remaining_spend]
    exact Nat.sub_le _ _
  have list {exprs results : List Expr} {budget rest : Budget}
      (answered : exprs.mapM (Expr.evaluate scope parameters) budget = .ok results rest) :
      rest.remaining ≤ budget.remaining := by
    induction exprs generalizing results budget with
    | nil =>
      rw [mapM_nil_ok] at answered
      obtain ⟨-, rfl⟩ := EStateM.Result.ok.inj answered
      exact Nat.le_refl _
    | cons expr exprs ih =>
      obtain ⟨_, _, _, first, others, -⟩ := mapM_cons_ok_iff.mp answered
      exact Nat.le_trans (ih others) (tree first)
  cases enters with
  | child _ _ answered => exact list answered
  | left | condition | initializer => exact Nat.le_refl _
  | right _ answered | selected answered | positive answered => exact tree answered
  | negative answered _ before => exact Nat.le_trans (tree before) (tree answered)
  | body comes =>
    obtain ⟨_, answered, passed⟩ := comes.answered
    exact Nat.le_trans (list passed) (tree answered)

end Nodes

end ConstExpr
