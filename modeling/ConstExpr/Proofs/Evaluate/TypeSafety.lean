import ConstExpr.Proofs.Evaluate.Folding

/-!
# Type safety on integral programs

A program of which every part is integral computes with integers of known types only: the
evaluation of a tree folds it to a literal of an integer that the type of the tree represents, or
fails because a step is refused, a divisor is zero or a shift amount is out of range
(`evaluate_integral`). The type is the one that is read off the tree, up to references and
qualifiers.
-/
namespace ConstExpr

open Evaluation

/-- The tree is integral as part of a body whose parameters have the given types. All its types are
integral; it uses nothing but literals of integers of their types, parameters of the body, usable
variables, arithmetic operators, type traits, choices, lists of operands, casts and calls that
resolve to a function with a body that may be called. The property `entered` is required of the
bodies and the initializers that an evaluation of the tree enters, with the types of their
parameters. -/
inductive Expr.Integral (scope : Scope) (entered : List Ty → Expr → Prop) (types : List Ty) :
    Expr → Prop where
  /-- A literal of an integer of its type. -/
  | fixed {type : Ty} {kind : Fundamental} {value : Int} {category : Category}
    {template : Option TemplateId} (isOf : type.IsOf kind) (represents : kind.Represents value) :
    Integral scope entered types (.node (.fixed type (.integral value) category) template)
  /-- A parameter of the body, of the same integral type as declared. -/
  | parameterRef {position : Nat} {type declared : Ty} {kind : Fundamental}
    {template : Option TemplateId} (found : types[position]? = some declared)
    (isOf : type.IsOf kind) (declaredOf : declared.IsOf kind) :
    Integral scope entered types (.node (.parameterRef position type false) template)
  /-- A variable that may be used in a constant expression. -/
  | variableRef {id : VariableId} {type : Ty} {initializer : Expr} {template : Option TemplateId}
    (integral : type.isIntegral = true)
    (usable : scope.constantInitializer? id = some initializer)
    (enters : entered [] initializer) :
    Integral scope entered types (.node (.variableRef id type) template)
  /-- A sign operator or a negation. -/
  | unary {operator : UnaryOperator} {operand : Expr} {template : Option TemplateId}
    (arithmetic : operator.isArithmetic = true)
    (operandIntegral : Integral scope entered types operand) :
    Integral scope entered types (.node (.unary operator operand) template)
  /-- An operator with two operands that is no assignment. -/
  | binary {operator : BinaryOperator} {left right : Expr} {template : Option TemplateId}
    (arithmetic : operator.isAssignment = false)
    (leftIntegral : Integral scope entered types left)
    (rightIntegral : Integral scope entered types right) :
    Integral scope entered types (.node (.binary operator left right) template)
  /-- An operator applied to an integral type. -/
  | typeTrait {operator : TypeOperator} {type : Ty} {template : Option TemplateId}
    (integral : type.isIntegral = true) :
    Integral scope entered types (.node (.typeTrait operator type) template)
  /-- A choice. -/
  | conditional {condition positive negative : Expr} {template : Option TemplateId}
    (conditionIntegral : Integral scope entered types condition)
    (positiveIntegral : Integral scope entered types positive)
    (negativeIntegral : Integral scope entered types negative) :
    Integral scope entered types (.node (.conditional condition positive negative) template)
  /-- A list of operands that is not empty. -/
  | comma {operands : List Expr} {template : Option TemplateId} (some : operands ≠ [])
    (integral : ∀ operand ∈ operands, Integral scope entered types operand) :
    Integral scope entered types (.node (.comma operands) template)
  /-- A call of the only candidate that takes as many arguments. -/
  | call {set : OverloadSet} {calleeTemplate template : Option TemplateId}
    {arguments : List Expr} {id : FunctionId} {decl : FunctionDecl} {body : Expr}
    (independent : set.isDependent = false)
    (resolved : scope.resolve set arguments.length = some id)
    (declared : scope.functionDecl? id = some decl) (callable : decl.isConstexpr = true)
    (defined : decl.body = some body)
    (parameters : ∀ type ∈ decl.parameters, type.isIntegral = true)
    (returned : decl.returnType.isIntegral = true) (enters : entered decl.parameters body)
    (integral : ∀ argument ∈ arguments, Integral scope entered types argument) :
    Integral scope entered types
      (.node (.call (.node (.overloads set) calleeTemplate) arguments) template)
  /-- A value initialization, or a cast of one argument. -/
  | construct {type : Ty} {arguments : List Expr} {template : Option TemplateId}
    (typeIntegral : type.isIntegral = true) (few : arguments.length ≤ 1)
    (integral : ∀ argument ∈ arguments, Integral scope entered types argument) :
    Integral scope entered types (.node (.construct type arguments) template)

/-- The tree outside of any body and all bodies and initializers that its evaluation can enter are
integral. -/
def Expr.IsIntegralProgram (scope : Scope) (expr : Expr) : Prop :=
  ∃ entered : List Ty → Expr → Prop, expr.Integral scope entered [] ∧
    ∀ types body, entered types body → body.Integral scope entered types

section Types

variable {scope : Scope} {entered : List Ty → Expr → Prop} {types : List Ty}

/-- An integral tree is no pack expansion. -/
theorem Expr.Integral.not_expansion {expr : Expr} (integral : expr.Integral scope entered types) :
    expr.isExpansion = false := by
  cases integral <;> rfl

/-- An integral tree has an integral type. -/
theorem Expr.Integral.hasKind {expr : Expr} (integral : expr.Integral scope entered types) :
    ∃ kind, expr.HasKind scope kind := by
  induction integral with
  | fixed isOf represents => exact ⟨_, (IsLiteral.fixed isOf represents).hasKind⟩
  | parameterRef found isOf declaredOf =>
    exact ⟨_, independent_iff.mpr ⟨isOf.not_dependent, nofun⟩, isOf.withoutReference⟩
  | variableRef integral usable enters =>
    obtain ⟨kind, isOf⟩ := Ty.exists_isOf integral
    exact ⟨kind, independent_iff.mpr ⟨isOf.not_dependent, nofun⟩, isOf.withoutReference⟩
  | unary arithmetic _ ih =>
    obtain ⟨_, typed⟩ := ih
    exact typed.unary arithmetic
  | binary arithmetic _ _ leftIH rightIH =>
    obtain ⟨_, left⟩ := leftIH
    obtain ⟨_, right⟩ := rightIH
    exact left.binary right arithmetic
  | typeTrait _ =>
    obtain ⟨kind, isOf⟩ := TypeOperator.resultType_isOf _
    exact ⟨kind, rfl, isOf⟩
  | conditional _ _ _ conditionIH positiveIH negativeIH =>
    obtain ⟨_, condition⟩ := conditionIH
    obtain ⟨_, positive⟩ := positiveIH
    obtain ⟨_, negative⟩ := negativeIH
    exact HasKind.conditional condition.independent positive negative
  | comma some integral ih =>
    obtain ⟨kind, typed⟩ := ih _ (List.getLast_mem some)
    exact ⟨kind, .comma (independent_of_typed ih) (List.getLast?_eq_some_getLast some) typed⟩
  | call independentSet resolved declared _ _ _ returned _ integral ih =>
    obtain ⟨kind, isOf⟩ := Ty.exists_isOf returned
    exact ⟨kind, .call independentSet resolved declared isOf
      (fun argument member => (integral argument member).not_expansion) (independent_of_typed ih)⟩
  | construct typeIntegral _ _ ih =>
    obtain ⟨kind, isOf⟩ := Ty.exists_isOf typeIntegral
    exact ⟨kind, .construct isOf (independent_of_typed ih)⟩

end Types

/-- The evaluation of trees folds the integral ones, and leaves the names of overload sets as they
are. -/
structure SafeRecursion (scope : Scope) (entered : List Ty → Expr → Prop)
    (recur : List Expr → Expr → Evaluation Expr) : Prop where
  /-- An integral tree folds when its parameters are bound. -/
  tree : ∀ {types : List Ty} {parameters : List Expr} {expr : Expr},
    expr.Integral scope entered types → Binds types parameters →
      (recur parameters expr).Folds scope expr
  /-- The name of an overload set is kept. -/
  name : ∀ (parameters : List Expr) (set : OverloadSet) (template : Option TemplateId),
    (recur parameters (.node (.overloads set) template)).Ensures
      (· = .node (.overloads set) template) fun failure => failure.isComputational = true

section Programs

variable {scope : Scope} {entered : List Ty → Expr → Prop}

/-- The node of an integral tree folds when all other trees do. -/
theorem evaluateNode_folds {recur : List Expr → Expr → Evaluation Expr}
    (safe : SafeRecursion scope entered recur)
    (bodies : ∀ types body, entered types body → body.Integral scope entered types)
    {types : List Ty} {parameters : List Expr} {expr : Expr}
    (integral : expr.Integral scope entered types) (binds : Binds types parameters) :
    (evaluateNode scope recur parameters expr).Folds scope expr := by
  cases integral with
  | fixed isOf represents => exact .pure ⟨_, isOf, .fixed isOf represents⟩
  | parameterRef found isOf declaredOf =>
    obtain ⟨argument, bound, literal⟩ := binds _ _ _ found declaredOf
    simp only [evaluateNode, Expr.form, Bool.false_eq_true, if_false, bound, Option.getD_some]
    exact .pure ⟨_, isOf.withoutReference, literal⟩
  | variableRef isIntegral usable enters =>
    obtain ⟨_, isOf⟩ := Ty.exists_isOf isIntegral
    have initializer := bodies _ _ enters
    obtain ⟨_, initializerTyped⟩ := initializer.hasKind
    exact evaluateVariable_folds isOf usable initializerTyped
      (safe.tree initializer (binds_nil []))
  | unary arithmetic operand =>
    obtain ⟨_, operandTyped⟩ := operand.hasKind
    exact evaluateUnary_folds arithmetic operandTyped (safe.tree operand binds)
  | binary arithmetic left right =>
    obtain ⟨_, leftTyped⟩ := left.hasKind
    obtain ⟨_, rightTyped⟩ := right.hasKind
    exact evaluateBinary_folds arithmetic leftTyped rightTyped (safe.tree left binds)
      (safe.tree right binds)
  | typeTrait isIntegral =>
    obtain ⟨_, isOf⟩ := Ty.exists_isOf isIntegral
    exact .pure (evaluateTypeTrait_folds isOf)
  | conditional condition positive negative =>
    obtain ⟨_, conditionTyped⟩ := condition.hasKind
    obtain ⟨_, positiveTyped⟩ := positive.hasKind
    obtain ⟨_, negativeTyped⟩ := negative.hasKind
    exact evaluateConditional_folds conditionTyped positiveTyped negativeTyped
      (safe.tree condition binds) (safe.tree positive binds) (safe.tree negative binds)
  | comma some operands =>
    exact evaluateComma_folds some
      (Expr.independent_of_typed fun operand member => (operands operand member).hasKind)
      fun operand member => safe.tree (operands operand member) binds
  | call independentSet resolved declared callable defined parameterTypes returned enters
      arguments =>
    obtain ⟨_, returnedOf⟩ := Ty.exists_isOf returned
    have body := bodies _ _ enters
    obtain ⟨_, bodyTyped⟩ := body.hasKind
    refine evaluateCall_folds independentSet resolved declared callable defined bodyTyped returnedOf
      ?_ (safe.name parameters _ _)
      (fun argument member => safe.tree (arguments argument member) binds)
      fun _ bound => safe.tree body bound
    exact (Expr.HasKind.call independentSet resolved declared returnedOf
      (fun argument member => (arguments argument member).not_expansion)
      (Expr.independent_of_typed fun argument member => (arguments argument member).hasKind)).isOf
  | construct isIntegral few arguments =>
    obtain ⟨_, isOf⟩ := Ty.exists_isOf isIntegral
    exact evaluateConstruct_folds isOf few fun argument member =>
      safe.tree (arguments argument member) binds

/-- Being safe is a property per budget. -/
theorem safeRecursion_isPerBudget : IsPerBudget (SafeRecursion scope entered) := by
  intro recur same
  refine ⟨fun {types parameters expr} integral binds => .perBudget fun budget => ?_,
    fun parameters set template => .perBudget fun budget => ?_⟩
  · obtain ⟨other, safe, equal⟩ := same budget
    exact ⟨_, safe.tree integral binds, equal parameters expr⟩
  · obtain ⟨other, safe, equal⟩ := same budget
    exact ⟨_, safe.name parameters set template, equal parameters _⟩

/-- The evaluation of trees folds the integral ones when all bodies and initializers that they
enter are integral. -/
theorem evaluate_safe (bodies : ∀ types body, entered types body →
      body.Integral scope entered types) :
    SafeRecursion scope entered fun parameters expr => expr.evaluate scope parameters := by
  have stepped : Ensures Evaluation.step (fun _ => True)
      fun failure => failure.isComputational = true := .step fun _ _ _ => rfl
  refine evaluate_induction scope safeRecursion_isPerBudget ?refused fun recur safe => ?node
  case refused => exact ⟨fun _ _ _ => rfl, fun _ _ _ _ => rfl⟩
  case node =>
    refine ⟨fun integral binds => stepped.bind fun _ _ => ?_, fun _ _ _ =>
      stepped.bind fun _ _ => .pure rfl⟩
    exact evaluateNode_folds safe bodies integral binds

end Programs

/-- The evaluation of an integral program folds it to a literal of an integer of its type, from
every budget, unless it is refused a step, divides by zero or shifts by an amount out of range. -/
theorem evaluate_integral {scope : Scope} {expr : Expr} (program : expr.IsIntegralProgram scope) :
    (expr.evaluate scope []).Folds scope expr := by
  obtain ⟨entered, integral, bodies⟩ := program
  exact (evaluate_safe bodies).tree integral (binds_nil [])

/-- The parameter of `factorial`. -/
def factorialParameter : Expr := .of (.parameterRef 0 (.const (.fundamental .int)) false)

/-- A call of `factorial`. -/
def factorialCall (argument : Expr) : Expr :=
  .of (.call (.of (.overloads ⟨[⟨0⟩], "factorial", none⟩)) [argument])

/-- The body of `factorial`: one for an argument of at most one, and otherwise the product of the
argument and of what the function returns for the argument before it. -/
def factorialBody : Expr :=
  .of (.conditional
    (.of (.binary (.comparison .lessEqual) factorialParameter (.int 1)))
    (.int 1)
    (.of (.binary (.arithmetic .multiply) factorialParameter
      (factorialCall (.of (.binary (.arithmetic .subtract) factorialParameter (.int 1)))))))

/-- The table that declares `factorial` alone. -/
def factorialTable : Table :=
  ⟨[⟨"factorial", [.const (.fundamental .int)], .fundamental .long, some factorialBody, true⟩], []⟩

/-- A recursive function of a constant parameter that returns another type makes an integral
program. -/
theorem evaluate_integral_factorial :
    (factorialCall (.int 20)).IsIntegralProgram factorialTable.scope ∧
      ((factorialCall (.int 20)).evaluate factorialTable.scope []).Folds factorialTable.scope
        (factorialCall (.int 20)) := by
  let entered (types : List Ty) (body : Expr) : Prop :=
    types = [.const (.fundamental .int)] ∧ body = factorialBody
  have literal (types : List Ty) (value : Int) (represents : Fundamental.int.Represents value) :
      (Expr.int value).Integral factorialTable.scope entered types :=
    .fixed (.fundamental rfl) represents
  have call (types : List Ty) (argument : Expr)
      (integral : argument.Integral factorialTable.scope entered types) :
      (factorialCall argument).Integral factorialTable.scope entered types := by
    refine .call rfl rfl rfl rfl rfl ?_ rfl ⟨rfl, rfl⟩ ?_
    · simp only [List.forall_mem_singleton]
      rfl
    · rwa [List.forall_mem_singleton]
  have body : factorialBody.Integral factorialTable.scope entered [.const (.fundamental .int)] := by
    have parameter : factorialParameter.Integral factorialTable.scope entered
        [.const (.fundamental .int)] := .parameterRef rfl ⟨rfl, rfl⟩ ⟨rfl, rfl⟩
    have one := literal [.const (.fundamental .int)] 1 (by decide)
    exact .conditional (.binary rfl parameter one) one
      (.binary rfl parameter (call _ _ (.binary rfl parameter one)))
  have program : (factorialCall (.int 20)).IsIntegralProgram factorialTable.scope := by
    refine ⟨entered, call [] _ (literal [] 20 (by decide)), fun types other within => ?_⟩
    obtain ⟨rfl, rfl⟩ := within
    exact body
  exact ⟨program, evaluate_integral program⟩

end ConstExpr
