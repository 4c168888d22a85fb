import ConstExpr.Proofs.Evaluate.Ensures
import ConstExpr.Proofs.Typing

/-!
# Folding to literals

A node folds to a literal of its type when what it is made of folds: the evaluated children are
literals of the kinds of the children, so the node that is built anew from them has the type of the
original one, and the integer that it computes is converted to that type. This is shown form by
form, for any evaluation of the other trees.
-/
namespace ConstExpr

open Evaluation

/-- The failures of a computation with integers: a refused step, a division by zero and a shift by
an amount out of range. -/
def Failure.isComputational : Failure → Bool
  | stepLimitExceeded .. | divisionByZero | invalidShift => true
  | _ => false

/-- A literal of an integer that the integral type represents. -/
inductive Expr.IsLiteral (kind : Fundamental) : Expr → Prop where
  /-- The literal is of the type, possibly qualified or referred to. -/
  | fixed {type : Ty} {value : Int} {category : Category} {template : Option TemplateId}
    (isOf : type.IsOf kind) (represents : kind.Represents value) :
    IsLiteral kind (.node (.fixed type (.integral value) category) template)

/-- The result is a literal of an integer of the expression's type. -/
structure Expr.FoldsTo (scope : Scope) (expr result : Expr) (kind : Fundamental) : Prop where
  /-- The type of the expression is the integral type. -/
  isOf : (expr.typeOf scope).IsOf kind
  /-- The result is a literal of the integral type. -/
  isLiteral : result.IsLiteral kind

/-- The evaluation folds the expression to a literal of an integer of the expression's type, or
fails as a computation with integers can. -/
def Evaluation.Folds (run : Evaluation Expr) (scope : Scope) (expr : Expr) : Prop :=
  run.Ensures (fun result => ∃ kind, expr.FoldsTo scope result kind)
    fun failure => failure.isComputational = true

section Literals

variable {scope : Scope} {kind : Fundamental} {expr : Expr}

/-- The value of a literal is an integer. -/
theorem Expr.IsLiteral.integer (isLiteral : expr.IsLiteral kind) :
    ∃ value, expr.fixedValue? = some (.integral value) := by
  obtain @⟨type, value, category, template, isOf, represents⟩ := isLiteral
  exact ⟨value, rfl⟩

/-- A literal holds an integer. -/
theorem Expr.IsLiteral.fixedInteger (isLiteral : expr.IsLiteral kind) :
    ∃ value, expr.fixedInteger? = some value := by
  obtain ⟨value, holds⟩ := isLiteral.integer
  exact ⟨value, by rw [fixedInteger?, holds, Option.bind_some, Value.integer?]⟩

/-- A literal has a truth value. -/
theorem Expr.IsLiteral.fixedTruth (isLiteral : expr.IsLiteral kind) :
    ∃ truth, expr.fixedTruth? = some truth := by
  obtain ⟨value, holds⟩ := isLiteral.integer
  exact ⟨value != 0, by rw [fixedTruth?, holds, Option.bind_some, Value.truth?]⟩

/-- A literal is known in all its parts. -/
theorem Expr.IsLiteral.isKnown (isLiteral : expr.IsLiteral kind) : expr.isKnown = true := by
  obtain ⟨value, holds⟩ := isLiteral.integer
  rw [Expr.isKnown, holds, Option.any_some, Value.isKnown]

/-- The type of a literal is that of its integer. -/
theorem Expr.IsLiteral.hasKind (isLiteral : expr.IsLiteral kind) : expr.HasKind scope kind := by
  obtain ⟨isOf, represents⟩ := isLiteral
  exact ⟨independent_iff.mpr ⟨isOf.not_dependent, nofun⟩, isOf⟩

/-- A node folds to a literal of its type. -/
theorem Expr.folded_isLiteral (isOf : (expr.typeOf scope).IsOf kind) (value : Int) :
    (expr.folded scope value).IsLiteral kind := by
  have target := isOf.withoutReference
  rw [folded, target.convert value]
  exact .fixed target (Fundamental.convert_represents isOf.2 value)

/-- A literal converted to an integral type is a literal of that type. -/
theorem Expr.IsLiteral.convertTo {source : Fundamental} (isLiteral : expr.IsLiteral source)
    {type : Ty} (isOf : type.IsOf kind) : (expr.convertTo type).IsLiteral kind := by
  obtain @⟨actual, value, category, template, sourceOf, represents⟩ := isLiteral
  have target := isOf.withoutReference
  simp only [Expr.convertTo, form, target.isScalar, Bool.true_and, bne_iff_ne, ne_eq]
  by_cases same : actual = type.withoutReference
  · obtain rfl := (same ▸ sourceOf).unique target
    simpa only [same, not_true_eq_false, if_false] using .fixed target represents
  · simp only [same, not_false_eq_true, if_true, target.convert value]
    exact .fixed target (Fundamental.convert_represents isOf.2 value)

end Literals

/-- An arithmetic operator computes an integer. -/
theorem UnaryOperator.compute_isSome {operator : UnaryOperator}
    (arithmetic : operator.isArithmetic = true) (operand : Int) :
    ∃ result, operator.compute? operand = some result := by
  cases operator <;> first | contradiction | exact ⟨_, rfl⟩

/-- An operator other than an assignment fails as a computation with integers can. -/
theorem BinaryOperator.compute_isComputational {operator : BinaryOperator}
    (arithmetic : operator.isAssignment = false) {leftType rightType : Fundamental}
    {left right : Int} {failure : Failure}
    (failed : operator.compute leftType rightType left right = .error failure) :
    failure.isComputational = true := by
  obtain rfl | rfl | ⟨assigns, -⟩ := compute_error failed
  · rfl
  · rfl
  · exact absurd assigns (by simp [arithmetic])

/-- The operators that one operand can decide have a truth value as their result. -/
theorem BinaryOperator.resultType_of_decisive {operator : BinaryOperator} {decisive : Bool}
    (decided : operator.decisive? = some decisive) (left right : Ty) :
    operator.resultType left right = .fundamental .bool := by
  cases operator <;> first | rfl | contradiction

/-- An operator measures or classifies an integral type. -/
theorem TypeOperator.compute_isSome (operator : TypeOperator) {type : Ty} {kind : Fundamental}
    (isOf : type.IsOf kind) : ∃ result, operator.compute? type = some result := by
  have measured : ∃ size, type.size = some size := by
    have integral := isOf.2
    simp only [Ty.size, isOf.unqualified]
    cases kind <;> first | contradiction | exact ⟨_, rfl⟩
  obtain ⟨size, known⟩ := measured
  cases operator with
  | sizeOf => exact ⟨_, by rw [compute?, known, Option.map_some]⟩
  | alignOf => exact ⟨_, by rw [compute?, Ty.alignment, known, Option.map_some]⟩
  | _ => exact ⟨_, rfl⟩

section Folding

variable {scope : Scope} {recur : List Expr → Expr → Evaluation Expr} {parameters : List Expr}
  {template : Option TemplateId}

/-- The literal that an expression folds to has the kind of the expression. -/
theorem Expr.HasKind.literal {expr result : Expr} {kind : Fundamental}
    (typed : expr.HasKind scope kind) (folded : ∃ other, expr.FoldsTo scope result other) :
    result.IsLiteral kind := by
  obtain ⟨other, folded⟩ := folded
  obtain rfl := typed.isOf.unique folded.isOf
  exact folded.isLiteral

/-- The sign operators and the negations fold on an operand that does. -/
theorem evaluateUnary_folds {operator : UnaryOperator} {operand : Expr} {kind : Fundamental}
    (arithmetic : operator.isArithmetic = true) (typed : operand.HasKind scope kind)
    (folds : (recur parameters operand).Folds scope operand) :
    (evaluateUnary scope recur parameters (.node (.unary operator operand) template) operator
      operand).Folds scope (.node (.unary operator operand) template) := by
  have pure : operator.isMutation = false := by
    cases operator <;> first | rfl | contradiction
  simp only [evaluateUnary, pure, Bool.false_eq_true, if_false]
  refine folds.bind fun operand' folded => ?_
  have literal := typed.literal folded
  obtain ⟨value, known⟩ := literal.fixedInteger
  obtain ⟨result, computed⟩ := UnaryOperator.compute_isSome arithmetic value
  simp only [known, Option.bind_some, computed]
  obtain ⟨resultKind, whole⟩ : ∃ resultKind,
      (Expr.node (.unary operator operand) template).HasKind scope resultKind :=
    typed.unary arithmetic
  refine .pure ⟨resultKind, whole.isOf, Expr.folded_isLiteral ?_ result⟩
  -- The operand keeps its kind when it is evaluated, so the operator keeps its type.
  rw [Expr.derive, Expr.build, Expr.HasKind.typeOf_unary_eq arithmetic typed literal.hasKind]
  exact whole.isOf

/-- An operator that is no assignment folds on literals of the kinds of its operands. -/
theorem foldBinary_folds {operator : BinaryOperator} {left right left' right' : Expr}
    {first second : Fundamental} (arithmetic : operator.isAssignment = false)
    (leftTyped : left.HasKind scope first) (rightTyped : right.HasKind scope second)
    (leftLiteral : left'.IsLiteral first) (rightLiteral : right'.IsLiteral second) :
    (foldBinary scope (.node (.binary operator left right) template) operator left' right').Folds
      scope (.node (.binary operator left right) template) := by
  obtain ⟨leftValue, leftKnown⟩ := leftLiteral.fixedInteger
  obtain ⟨rightValue, rightKnown⟩ := rightLiteral.fixedInteger
  have leftTyped' : left'.HasKind scope first := leftLiteral.hasKind
  have rightTyped' : right'.HasKind scope second := rightLiteral.hasKind
  simp only [foldBinary, leftKnown, rightKnown, leftTyped'.isOf.1, rightTyped'.isOf.1]
  split
  · next result computed =>
    obtain ⟨kind, whole⟩ : ∃ kind,
        (Expr.node (.binary operator left right) template).HasKind scope kind :=
      leftTyped.binary rightTyped arithmetic
    refine .pure ⟨kind, whole.isOf, Expr.folded_isLiteral ?_ result⟩
    rw [Expr.derive, Expr.build, Expr.HasKind.typeOf_binary_eq arithmetic leftTyped leftTyped'
      rightTyped rightTyped']
    exact whole.isOf
  · next failure failed =>
    exact .throw (BinaryOperator.compute_isComputational arithmetic failed)

/-- An operator that is no assignment folds on operands that do. -/
theorem evaluateBinary_folds {operator : BinaryOperator} {left right : Expr}
    {first second : Fundamental} (arithmetic : operator.isAssignment = false)
    (leftTyped : left.HasKind scope first) (rightTyped : right.HasKind scope second)
    (leftFolds : (recur parameters left).Folds scope left)
    (rightFolds : (recur parameters right).Folds scope right) :
    (evaluateBinary scope recur parameters (.node (.binary operator left right) template) operator
      left right).Folds scope (.node (.binary operator left right) template) := by
  simp only [evaluateBinary, arithmetic, Bool.false_eq_true, if_false]
  refine leftFolds.bind fun left' folded => ?_
  have leftLiteral := leftTyped.literal folded
  have undecided : (recur parameters right >>=
      foldBinary scope (.node (.binary operator left right) template) operator left').Folds scope
        (.node (.binary operator left right) template) :=
    rightFolds.bind fun right' folded =>
      foldBinary_folds arithmetic leftTyped rightTyped leftLiteral (rightTyped.literal folded)
  split
  · next decisive truth decided _ =>
    split
    · refine .pure ⟨.bool, ?_, .fixed (.fundamental rfl) ?_⟩
      · rw [Expr.typeOf_binary leftTyped.independent rightTyped.independent,
          BinaryOperator.resultType_of_decisive decided]
        exact .fundamental rfl
      · cases decisive <;> decide
    · exact undecided
  · exact undecided

/-- A type trait of an integral type folds. -/
theorem evaluateTypeTrait_folds {operator : TypeOperator} {type : Ty} {kind : Fundamental}
    (isOf : type.IsOf kind) :
    ∃ other, (Expr.node (.typeTrait operator type) template).FoldsTo scope
      (evaluateTypeTrait scope (.node (.typeTrait operator type) template) operator type)
      other := by
  have known : (Expr.node (.typeTrait operator type) template).isValueDependent = false :=
    Expr.anyForm_eq_false.mpr ⟨isOf.not_dependent, nofun⟩
  obtain ⟨result, computed⟩ := TypeOperator.compute_isSome operator isOf
  obtain ⟨resultKind, resultOf⟩ : ∃ resultKind, ((Expr.node (.typeTrait operator type)
      template).typeOf scope).IsOf resultKind := operator.resultType_isOf
  simp only [evaluateTypeTrait, known, computed, Bool.false_eq_true, if_false]
  exact ⟨resultKind, resultOf, Expr.folded_isLiteral resultOf result⟩

/-- A choice folds when its parts do. -/
theorem evaluateConditional_folds {condition positive negative : Expr}
    {conditionKind first second : Fundamental}
    (conditionTyped : condition.HasKind scope conditionKind)
    (positiveTyped : positive.HasKind scope first) (negativeTyped : negative.HasKind scope second)
    (conditionFolds : (recur parameters condition).Folds scope condition)
    (positiveFolds : (recur parameters positive).Folds scope positive)
    (negativeFolds : (recur parameters negative).Folds scope negative) :
    (evaluateConditional scope recur parameters
      (.node (.conditional condition positive negative) template) condition positive
      negative).Folds scope (.node (.conditional condition positive negative) template) := by
  refine conditionFolds.bind fun condition' folded => ?_
  obtain ⟨truth, known⟩ := (conditionTyped.literal folded).fixedTruth
  simp only [known]
  obtain ⟨kind, whole⟩ : ∃ kind,
      (Expr.node (.conditional condition positive negative) template).HasKind scope kind :=
    Expr.HasKind.conditional conditionTyped.independent positiveTyped negativeTyped
  cases truth with
  | true =>
    exact positiveFolds.bind fun result folded =>
      .pure ⟨kind, whole.isOf, (positiveTyped.literal folded).convertTo whole.isOf⟩
  | false =>
    exact negativeFolds.bind fun result folded =>
      .pure ⟨kind, whole.isOf, (negativeTyped.literal folded).convertTo whole.isOf⟩

/-- A variable folds when its initializer does. -/
theorem evaluateVariable_folds {id : VariableId} {type : Ty} {initializer : Expr}
    {kind source : Fundamental} (isOf : type.IsOf kind)
    (usable : scope.constantInitializer? id = some initializer)
    (typed : initializer.HasKind scope source)
    (folds : (recur [] initializer).Folds scope initializer) :
    (evaluateVariable scope recur (.node (.variableRef id type) template) id type).Folds scope
      (.node (.variableRef id type) template) := by
  simp only [evaluateVariable, usable]
  exact folds.bind fun result folded =>
    .pure ⟨kind, isOf.withoutReference, (typed.literal folded).convertTo isOf⟩

/-- What the expressions of a list fold to are literals. -/
theorem literals_of_folded {exprs results : List Expr}
    (folded : List.Forall₂ (fun expr result => ∃ kind, expr.FoldsTo scope result kind) exprs
      results) : ∀ result ∈ results, ∃ kind, result.IsLiteral kind :=
  forall_of_forall₂ folded fun _ _ ⟨kind, folds⟩ => ⟨kind, folds.isLiteral⟩

/-- A list of operands folds when each operand does. -/
theorem evaluateComma_folds {operands : List Expr} (some : operands ≠ [])
    (independent : ∀ operand ∈ operands, operand.isTypeDependent = false)
    (folds : ∀ operand ∈ operands, (recur parameters operand).Folds scope operand) :
    (evaluateComma recur parameters (.node (.comma operands) template) operands).Folds scope
      (.node (.comma operands) template) := by
  refine (Ensures.mapM folds).bind fun results folded => ?_
  have found := List.getLast?_eq_some_getLast some
  obtain ⟨last, foundLast, kind, isOf, literal⟩ := getLast?_of_forall₂ folded found
  obtain ⟨value, known⟩ := literal.integer
  simp only [foundLast, Expr.isFixed, known, Option.isSome_some, if_true]
  exact .pure ⟨kind, by rwa [Expr.typeOf_comma independent found], literal⟩

/-- A value initialization or a cast of one argument folds when the argument does. -/
theorem evaluateConstruct_folds {type : Ty} {arguments : List Expr} {kind : Fundamental}
    (isOf : type.IsOf kind) (few : arguments.length ≤ 1)
    (folds : ∀ argument ∈ arguments, (recur parameters argument).Folds scope argument) :
    (evaluateConstruct scope recur parameters (.node (.construct type arguments) template) type
      arguments).Folds scope (.node (.construct type arguments) template) := by
  have typed : ((Expr.node (.construct type arguments) template).typeOf scope).IsOf kind :=
    isOf.withoutReference
  refine (Ensures.mapM folds).bind fun results folded => ?_
  simp only [isOf.not_dependent, isOf.isScalar, Bool.not_true, Bool.or_self, Bool.false_eq_true,
    if_false]
  rw [folded.length_eq] at few
  match results, folded, few with
  | [], _, _ => exact .pure ⟨kind, typed, Expr.folded_isLiteral typed 0⟩
  | [result], folded, _ =>
    obtain ⟨source, literal⟩ := literals_of_folded folded result (by simp)
    obtain ⟨value, known⟩ := literal.integer
    simp only [Expr.isFixed, known, Option.isSome_some, if_true]
    exact .pure ⟨kind, typed, literal.convertTo isOf⟩

/-- The arguments are literals of the integral types of the parameters that they are given for. -/
def Binds (types : List Ty) (arguments : List Expr) : Prop :=
  ∀ (position : Nat) (type : Ty) (kind : Fundamental), types[position]? = some type →
    type.IsOf kind → ∃ argument, arguments[position]? = some argument ∧ argument.IsLiteral kind

/-- Without parameters there is nothing to bind. -/
theorem binds_nil (arguments : List Expr) : Binds [] arguments := by
  intro position type kind found
  rw [List.getElem?_nil] at found
  contradiction

/-- Literals that are converted to the types of as many parameters bind them. -/
theorem binds_of_literals {types : List Ty} {arguments : List Expr}
    (literals : ∀ argument ∈ arguments, ∃ kind, argument.IsLiteral kind)
    (same : types.length = arguments.length) :
    Binds types (arguments.zipWith (fun argument type => argument.convertTo type) types) := by
  intro position type kind found isOf
  obtain ⟨inside, -⟩ := List.getElem?_eq_some_iff.mp found
  have present : position < arguments.length := same ▸ inside
  obtain ⟨source, literal⟩ := literals arguments[position] (List.getElem_mem present)
  refine ⟨_, ?_, literal.convertTo isOf⟩
  rw [List.getElem?_zipWith, List.getElem?_eq_getElem present, found]

/-- The function that an overload set resolves to takes as many arguments as it is called with. -/
theorem length_of_resolved {set : OverloadSet} {arity : Nat} {id : FunctionId}
    {decl : FunctionDecl} (resolved : scope.resolve set arity = some id)
    (declared : scope.functionDecl? id = some decl) : decl.parameters.length = arity := by
  have accepts := (Scope.resolve_spec resolved).2
  simpa only [Scope.accepts, declared, Option.any_some, beq_iff_eq] using accepts

/-- A call of a function that may be called folds when its arguments and the body do. -/
theorem evaluateCall_folds {set : OverloadSet} {calleeTemplate : Option TemplateId}
    {arguments : List Expr} {id : FunctionId} {decl : FunctionDecl} {body : Expr}
    {source kind : Fundamental} (independentSet : set.isDependent = false)
    (resolved : scope.resolve set arguments.length = some id)
    (declared : scope.functionDecl? id = some decl) (callable : decl.isConstexpr = true)
    (defined : decl.body = some body) (bodyTyped : body.HasKind scope source)
    (returned : decl.returnType.IsOf kind)
    (typed : ((Expr.node (.call (.node (.overloads set) calleeTemplate) arguments)
      template).typeOf scope).IsOf kind)
    (named : (recur parameters (.node (.overloads set) calleeTemplate)).Ensures
      (· = .node (.overloads set) calleeTemplate) fun failure => failure.isComputational = true)
    (folds : ∀ argument ∈ arguments, (recur parameters argument).Folds scope argument)
    (bodyFolds : ∀ bound, Binds decl.parameters bound → (recur bound body).Folds scope body) :
    (evaluateCall scope recur parameters
      (.node (.call (.node (.overloads set) calleeTemplate) arguments) template)
      (.node (.overloads set) calleeTemplate) arguments).Folds scope
        (.node (.call (.node (.overloads set) calleeTemplate) arguments) template) := by
  refine named.bind fun callee same => (Ensures.mapM folds).bind fun results folded => ?_
  subst same
  have literals := literals_of_folded folded
  have known : results.all Expr.isKnown = true := by
    rw [List.all_eq_true]
    exact fun result member => (literals result member).elim fun _ literal => literal.isKnown
  have independent : (Expr.node (.overloads set) calleeTemplate).isValueDependent = false :=
    Expr.anyForm_eq_false.mpr ⟨by simp [Form.isTypeDependent, Form.isValueDependent,
      independentSet], nofun⟩
  have callee : callee? scope set results.length = .ok (id, decl, body) := by
    rw [callee?, ← folded.length_eq, resolved]
    simp only [declared, callable, defined, if_true]
  have bound := binds_of_literals literals
    ((length_of_resolved resolved declared).trans folded.length_eq)
  simp only [Expr.overloadSet?, Expr.form, known, independent, callee, Bool.not_true,
    Bool.or_self, Bool.false_eq_true, if_false]
  refine ((bodyFolds _ bound).withinCall ?_).bind fun result folded => ?_
  · intro failure computational
    cases failure <;> first | rfl | contradiction
  · have literal := bodyTyped.literal folded
    obtain ⟨value, holds⟩ := literal.integer
    simp only [Expr.isFixed, holds, Option.isSome_some, if_true]
    exact .pure ⟨kind, typed, literal.convertTo returned⟩

end Folding

end ConstExpr
