import ConstExpr.Proofs.Evaluate.Folding
import ConstExpr.Proofs.Declarations

/-!
# Values and types

The value of an expression and its type come from two independent readings of the tree. Where the
type is integral and the value is known, the value is an integer of the type or a braced list
(`constantValue_suits`). Lists get there because a conversion keeps them: a list in a place that is
converted to a scalar type, as the operand of a cast, an argument, what a function returns, an
initializer or a branch, stays a list of that scalar type. Where everything that is converted to a
scalar type has a scalar type itself, the value is an integer.
-/
namespace ConstExpr

open Evaluation

/-- An integer is one that the integral type represents; other values are not restricted. -/
def Value.Suits (kind : Fundamental) : Value → Prop
  | integral value => kind.Represents value
  | _ => True

/-- The value is a list. -/
def Value.IsList (value : Value) : Prop := ∃ elements, value = composite elements

namespace Form

/-- A literal of an integral type holds an integer of the type. -/
def LiteralFits : Form Expr → Prop
  | fixed type value _ =>
    ∀ kind, type.IsOf kind → ∃ integer, value = .integral integer ∧ kind.Represents integer
  | _ => True

/-- A mention of a parameter has the type that is declared for its position. -/
def MentionFits (types : List Ty) : Form Expr → Prop
  | parameterRef position type false =>
    ∀ declared, types[position]? = some declared → type = declared
  | _ => True

/-- What the node converts to a scalar type has a scalar type, and a literal of a scalar type holds
no list. -/
def KeepsListsApart (scope : Scope) : Form Expr → Prop
  | fixed type value _ => type.isScalar = true → ¬value.IsList
  | variableRef id type => type.isScalar = true →
    ∀ initializer, scope.constantInitializer? id = some initializer →
      (initializer.typeOf scope).isScalar = true
  | conditional _ positive negative =>
    ((positive.typeOf scope).merge (negative.typeOf scope)).isScalar = true →
      (positive.typeOf scope).isScalar = true ∧ (negative.typeOf scope).isScalar = true
  | call callee arguments => ∀ decl, scope.targetDecl callee arguments = some decl →
    (decl.returnType.isScalar = true → ∀ body, decl.body = some body →
      (body.typeOf scope).isScalar = true) ∧
    ∀ (position : Nat) (argument : Expr) (type : Ty), arguments[position]? = some argument →
      decl.parameters[position]? = some type → type.isScalar = true →
        (argument.typeOf scope).isScalar = true
  | construct type arguments => type.isScalar = true →
    ∀ argument ∈ arguments, (argument.typeOf scope).isScalar = true
  | _ => True

end Form

/-- A literal of the first type with the value can stand for an expression of the second type. If
lists are kept apart it holds none in the place of a scalar. -/
structure Value.StandsFor (apart : Prop) (actual : Ty) (value : Value) (type : Ty) : Prop where
  /-- The type of the literal is known. -/
  independent : actual.isDependent = false
  /-- The literal is in the range of its type. -/
  suits : ∀ kind, actual.IsOf kind → value.Suits kind
  /-- The literal is of the integral type of the expression. -/
  kind : ∀ kind, type.IsOf kind → actual.IsOf kind
  /-- The literal of a scalar type holds no list. -/
  plain : apart → type.isScalar = true → ¬value.IsList

/-- The expression can stand for one of the type, if it is a literal. -/
def Expr.Suits (apart : Prop) (type : Ty) (expr : Expr) : Prop :=
  ∀ actual value category, expr.form = .fixed actual value category →
    value.StandsFor apart actual type

/-- The evaluation comes to an expression that can stand for one of the type. -/
def Evaluation.Suits (run : Evaluation Expr) (apart : Prop) (type : Ty) : Prop :=
  run.Ensures (Expr.Suits apart type) fun _ => True

namespace Value

/-- A value that is converted to an integral type suits it. -/
theorem suits_convert {type : Ty} {kind : Fundamental} (isOf : type.IsOf kind) (value : Value) :
    (value.convert type).Suits kind := by
  cases value with
  | integral value =>
    rw [isOf.convert value]
    exact Fundamental.convert_represents isOf.2 value
  | _ => trivial

/-- A conversion makes no list of an integer. -/
theorem not_isList_convert (type : Ty) (value : Int) :
    ¬((Value.integral value).convert type).IsList := by
  rintro ⟨elements, same⟩
  simp only [convert] at same
  split at same <;> cases same

/-- A conversion keeps what is no list. -/
theorem not_isList_of_convert {type : Ty} {value : Value} (plain : ¬value.IsList) :
    ¬(value.convert type).IsList := by
  cases value with
  | integral value => exact not_isList_convert type value
  | _ => exact plain

end Value

namespace Expr

variable {scope : Scope} {apart : Prop} {type : Ty} {expr : Expr}

/-- A node of another form than a literal stands for every expression. -/
theorem suits_of_unfixed (unfixed : expr.isFixed = false) : expr.Suits apart type := by
  intro actual value category same
  rw [isFixed, fixedValue?, same] at unfixed
  contradiction

/-- An integer folded in the type of an expression stands for that expression, and for every
expression of which it has the integral type. -/
theorem folded_suits (independent : (expr.typeOf scope).isDependent = false)
    (keeps : ∀ kind, type.IsOf kind → (expr.typeOf scope).IsOf kind) (value : Int) :
    (expr.folded scope value).Suits apart type := by
  rintro actual result category ⟨⟩
  refine ⟨(Ty.isDependent_withoutReference _).trans independent,
    fun kind isOf => Value.suits_convert isOf _,
    fun kind isOf => (keeps kind isOf).withoutReference, fun _ _ => Value.not_isList_convert _ _⟩

/-- A literal that holds an integer is not type-dependent, and it has the integral type of the
expression that it stands for. -/
theorem Suits.known (fits : expr.Suits apart type) {integer : Int}
    (known : expr.fixedInteger? = some integer) :
    expr.isTypeDependent = false ∧ ∀ kind, type.IsOf kind → (expr.typeOf scope).IsOf kind := by
  obtain ⟨form, template⟩ := expr
  cases form with
  | fixed actual value category =>
    have standsFor := fits actual value category rfl
    exact ⟨independent_iff.mpr ⟨standsFor.independent, List.forall_mem_nil _⟩, standsFor.kind⟩
  | _ => cases known

/-- Where lists need not be kept apart, less is asked of what stands for an expression. -/
theorem Suits.weaken {weaker : Prop} (weakens : weaker → apart) (fits : expr.Suits apart type) :
    expr.Suits weaker type := by
  intro actual value category same
  obtain ⟨independent, suits, kind, plain⟩ := fits actual value category same
  exact ⟨independent, suits, kind, fun lists => plain (weakens lists)⟩

/-- Whatever stands for an expression stands for an erroneous one. -/
theorem Suits.problem (fits : expr.Suits False type) : expr.Suits apart .problem := by
  intro actual value category same
  obtain ⟨independent, suits, -, -⟩ := fits actual value category same
  refine ⟨independent, suits, ?_, ?_⟩
  · rintro kind ⟨⟨⟩, -⟩
  · rintro - ⟨⟩

/-- An expression stands for those of a type when it does for those of the type without the
reference. -/
theorem suits_withoutReference : expr.Suits apart type.withoutReference ↔ expr.Suits apart type := by
  constructor <;> intro fits actual value category same
  all_goals
    obtain ⟨independent, suits, kind, plain⟩ := fits actual value category same
    refine ⟨independent, suits, fun other isOf => kind other ?_, fun lists scalar => plain lists ?_⟩
  · exact isOf.withoutReference
  · rwa [Ty.isScalar_withoutReference]
  · exact Ty.isOf_withoutReference.mp isOf
  · rwa [Ty.isScalar_withoutReference] at scalar

/-- What is converted to a type stands for expressions of that type, if it stood for those of a
scalar type where the type is scalar. -/
theorem Suits.convertTo {source : Ty} (fits : expr.Suits apart source)
    (independent : type.isDependent = false)
    (scalars : apart → type.isScalar = true → source.isScalar = true) :
    (expr.convertTo type).Suits apart type := by
  obtain ⟨form, template⟩ := expr
  cases form with
  | fixed actual value category =>
    have standsFor := fits actual value category rfl
    have plain (lists : apart) (scalar : type.isScalar = true) : ¬value.IsList :=
      standsFor.plain lists (scalars lists scalar)
    simp only [Expr.convertTo, form]
    split
    · rintro _ _ _ ⟨⟩
      exact ⟨(Ty.isDependent_withoutReference _).trans independent,
        fun kind isOf => Value.suits_convert isOf value, fun kind isOf => isOf.withoutReference,
        fun lists scalar => Value.not_isList_of_convert (plain lists scalar)⟩
    · next kept =>
      rintro _ _ _ ⟨⟩
      refine ⟨standsFor.independent, standsFor.suits, fun kind isOf => ?_, plain⟩
      -- A literal is kept in a scalar type only where that is its own type.
      have same : actual = type.withoutReference := by
        simpa [isOf.withoutReference.isScalar] using kept
      rw [same]
      exact isOf.withoutReference
  | _ => exact suits_of_unfixed rfl

end Expr

section Forms

variable {scope : Scope} {recur : List Expr → Expr → Evaluation Expr} {parameters : List Expr}
  {template : Option TemplateId} {apart : Prop}

/-- An operator with one operand comes to what stands for it when its operand does. -/
theorem evaluateUnary_suits {operator : UnaryOperator} {operand : Expr}
    (independent : operand.isTypeDependent = false)
    (returns : ∀ id decl, scope.functionDecl? id = some decl → decl.returnType.isDependent = false)
    (fits : (recur parameters operand).Suits apart (operand.typeOf scope)) :
    (evaluateUnary scope recur parameters (.node (.unary operator operand) template) operator
      operand).Suits apart ((Expr.node (.unary operator operand) template).typeOf scope) := by
  unfold evaluateUnary
  dsimp only
  refine .refusal trivial fun _ => fits.bind fun operand' fits => ?_
  split
  · next integer computed =>
    obtain ⟨value, known, computed⟩ := Option.bind_eq_some_iff.mp computed
    have arithmetic : operator.isArithmetic = true := by
      cases operator <;> first | rfl | cases computed
    obtain ⟨independent', keeps⟩ := fits.known known
    refine .pure (Expr.folded_suits (Expr.typeOf_independent returns
      (Expr.independent_unary independent')) ?_ integer)
    intro kind isOf
    rw [Expr.typeOf_unary independent] at isOf
    rw [Expr.typeOf_unary independent']
    exact UnaryOperator.resultType_keeps arithmetic keeps isOf
  · exact .pure (Expr.suits_of_unfixed rfl)

/-- An operator on evaluated operands comes to what stands for the operator on those that they
stand for. -/
theorem foldBinary_suits {operator : BinaryOperator} {left right left' right' : Expr}
    (arithmetic : operator.isAssignment = false) (leftIndependent : left.isTypeDependent = false)
    (rightIndependent : right.isTypeDependent = false)
    (returns : ∀ id decl, scope.functionDecl? id = some decl → decl.returnType.isDependent = false)
    (leftFits : left'.Suits apart (left.typeOf scope))
    (rightFits : right'.Suits apart (right.typeOf scope)) :
    (foldBinary scope (.node (.binary operator left right) template) operator left' right').Suits
      apart ((Expr.node (.binary operator left right) template).typeOf scope) := by
  unfold foldBinary
  dsimp only
  split
  · next first second firstType secondType leftKnown rightKnown _ _ =>
    split
    · next integer _ =>
      obtain ⟨leftIndependent', keepsLeft⟩ := leftFits.known leftKnown
      obtain ⟨rightIndependent', keepsRight⟩ := rightFits.known rightKnown
      refine .pure (Expr.folded_suits (Expr.typeOf_independent returns
        (Expr.independent_binary leftIndependent' rightIndependent')) ?_ integer)
      intro kind isOf
      rw [Expr.typeOf_binary leftIndependent rightIndependent] at isOf
      rw [Expr.typeOf_binary leftIndependent' rightIndependent']
      exact BinaryOperator.resultType_keeps arithmetic keepsLeft keepsRight isOf
    · exact .throw trivial
  · exact .pure (Expr.suits_of_unfixed rfl)

/-- An operator with two operands comes to what stands for it when its operands do. -/
theorem evaluateBinary_suits {operator : BinaryOperator} {left right : Expr}
    (leftIndependent : left.isTypeDependent = false)
    (rightIndependent : right.isTypeDependent = false)
    (returns : ∀ id decl, scope.functionDecl? id = some decl → decl.returnType.isDependent = false)
    (leftFits : (recur parameters left).Suits apart (left.typeOf scope))
    (rightFits : (recur parameters right).Suits apart (right.typeOf scope)) :
    (evaluateBinary scope recur parameters (.node (.binary operator left right) template) operator
      left right).Suits apart ((Expr.node (.binary operator left right) template).typeOf scope) := by
  unfold evaluateBinary
  dsimp only
  refine .refusal trivial fun arithmetic => leftFits.bind fun left' leftFits => ?_
  have undecided : (recur parameters right >>=
      foldBinary scope (.node (.binary operator left right) template) operator left').Suits apart
        ((Expr.node (.binary operator left right) template).typeOf scope) :=
    rightFits.bind fun right' rightFits =>
      foldBinary_suits arithmetic leftIndependent rightIndependent returns leftFits rightFits
  split
  · next decisive truth decided _ =>
    split
    · refine .pure ?_
      rintro _ _ _ ⟨⟩
      rw [Expr.typeOf_binary leftIndependent rightIndependent,
        BinaryOperator.resultType_of_decisive decided]
      refine ⟨rfl, ?_, fun _ isOf => isOf, ?_⟩
      · rintro kind ⟨⟨⟩, -⟩
        change Fundamental.bool.Represents (if decisive then 1 else 0)
        cases decisive <;> decide
      · rintro _ _ ⟨_, ⟨⟩⟩
    · exact undecided
  · exact undecided

/-- A type trait comes to what stands for it. -/
theorem evaluateTypeTrait_suits {operator : TypeOperator} {type : Ty} :
    (evaluateTypeTrait scope (.node (.typeTrait operator type) template) operator type).Suits apart
      ((Expr.node (.typeTrait operator type) template).typeOf scope) := by
  unfold evaluateTypeTrait
  split
  · exact Expr.suits_of_unfixed rfl
  · split
    · refine Expr.folded_suits ?_ (fun _ isOf => isOf) _
      change operator.resultType.isDependent = false
      unfold TypeOperator.resultType
      split <;> rfl
    · exact Expr.suits_of_unfixed rfl

/-- A choice comes to what stands for it when its branches do, if branches of a scalar choice are
scalar. -/
theorem evaluateConditional_suits {condition positive negative : Expr} {conditionType : Ty}
    (independent : (Expr.node (.conditional condition positive negative) template).isTypeDependent =
      false)
    (returns : ∀ id decl, scope.functionDecl? id = some decl → decl.returnType.isDependent = false)
    (lists : apart → (Form.conditional condition positive negative).KeepsListsApart scope)
    (conditionFits : (recur parameters condition).Suits apart conditionType)
    (positiveFits : (recur parameters positive).Suits apart (positive.typeOf scope))
    (negativeFits : (recur parameters negative).Suits apart (negative.typeOf scope)) :
    (evaluateConditional scope recur parameters
      (.node (.conditional condition positive negative) template) condition positive
      negative).Suits apart
        ((Expr.node (.conditional condition positive negative) template).typeOf scope) := by
  have known := Expr.typeOf_independent returns independent
  have scalars : apart → ((Expr.node (.conditional condition positive negative)
      template).typeOf scope).isScalar = true →
        (positive.typeOf scope).isScalar = true ∧ (negative.typeOf scope).isScalar = true := by
    intro apart scalar
    obtain ⟨-, below⟩ := Expr.independent_iff.mp independent
    rw [Expr.typeOf_conditional (below _ (by simp [Form.children]))
      (below _ (by simp [Form.children])) (below _ (by simp [Form.children]))] at scalar
    exact lists apart scalar
  refine conditionFits.bind fun condition' _ => ?_
  split
  · next truth _ =>
    cases truth with
    | true =>
      exact positiveFits.bind fun result fits =>
        .pure (fits.convertTo known fun lists scalar => (scalars lists scalar).1)
    | false =>
      exact negativeFits.bind fun result fits =>
        .pure (fits.convertTo known fun lists scalar => (scalars lists scalar).2)
  · exact positiveFits.bind fun _ _ => negativeFits.bind fun _ _ =>
      .pure (Expr.suits_of_unfixed rfl)

/-- A list of operands comes to what stands for it when the operands do. -/
theorem evaluateComma_suits {operands : List Expr}
    (independent : ∀ operand ∈ operands, operand.isTypeDependent = false)
    (fits : ∀ operand ∈ operands, (recur parameters operand).Suits apart (operand.typeOf scope)) :
    (evaluateComma recur parameters (.node (.comma operands) template) operands).Suits apart
      ((Expr.node (.comma operands) template).typeOf scope) := by
  refine (Ensures.mapM fits).bind fun results related => ?_
  split
  · next last' found' =>
    split
    · obtain ⟨last, found, lastFits⟩ := getLast?_of_forall₂ related.flip found'
      rw [Expr.typeOf_comma independent found]
      exact .pure lastFits
    · exact .pure (Expr.suits_of_unfixed rfl)
  · exact .pure (Expr.suits_of_unfixed rfl)

/-- A braced list comes to what stands for it. -/
theorem evaluateBraced_suits {clauses : List Expr} {answers : Expr → Expr → Prop}
    (independent : ∀ clause ∈ clauses, clause.isTypeDependent = false)
    (each : ∀ clause ∈ clauses, (recur parameters clause).Ensures (answers clause) fun _ => True) :
    (evaluateBraced recur parameters (.node (.braced clauses) template) clauses).Suits apart
      ((Expr.node (.braced clauses) template).typeOf scope) := by
  refine (Ensures.mapM each).bind fun results _ => ?_
  split
  · refine .pure ?_
    rintro _ _ _ ⟨⟩
    have whole : (Expr.node (.braced clauses) template).isTypeDependent = false :=
      Expr.independent_iff.mpr ⟨rfl, independent⟩
    rw [Expr.typeOf_eq_plainType whole]
    refine ⟨rfl, ?_, ?_, ?_⟩
    · rintro kind ⟨⟨⟩, -⟩
    · rintro kind ⟨⟨⟩, -⟩
    · rintro - ⟨⟩
  · exact .pure (Expr.suits_of_unfixed rfl)

/-- A cast or a value initialization comes to what stands for it when its arguments do, if the
arguments of a cast to a scalar type are scalar. -/
theorem evaluateConstruct_suits {type : Ty} {arguments : List Expr}
    (known : type.isDependent = false)
    (lists : apart → (Form.construct type arguments).KeepsListsApart scope)
    (fits : ∀ argument ∈ arguments,
      (recur parameters argument).Suits apart (argument.typeOf scope)) :
    (evaluateConstruct scope recur parameters (.node (.construct type arguments) template) type
      arguments).Suits apart ((Expr.node (.construct type arguments) template).typeOf scope) := by
  have whole : ((Expr.node (.construct type arguments) template).typeOf scope).isDependent =
      false := (Ty.isDependent_withoutReference type).trans known
  refine (Ensures.mapM fits).bind fun results related => ?_
  dsimp only
  split
  · exact .pure (Expr.suits_of_unfixed rfl)
  · split
    · exact .pure (Expr.folded_suits whole (fun _ isOf => isOf) 0)
    · split
      · cases related with
        | @cons argument _ _ _ argumentFits rest =>
          cases rest
          refine .pure (Expr.suits_withoutReference.mpr (argumentFits.convertTo known ?_))
          exact fun apart scalar => lists apart scalar argument (List.mem_singleton_self _)
      · exact .pure (Expr.suits_of_unfixed rfl)
    · exact .pure (Expr.suits_of_unfixed rfl)

/-- A variable comes to what stands for it when its initializer does, if a scalar variable has a
scalar initializer. -/
theorem evaluateVariable_suits {id : VariableId} {type : Ty} (known : type.isDependent = false)
    (lists : apart → (Form.variableRef id type : Form Expr).KeepsListsApart scope)
    (fits : ∀ initializer, scope.constantInitializer? id = some initializer →
      (recur [] initializer).Suits apart (initializer.typeOf scope)) :
    (evaluateVariable scope recur (.node (.variableRef id type) template) id type).Suits apart
      ((Expr.node (.variableRef id type) template).typeOf scope) := by
  unfold evaluateVariable
  split
  · next initializer usable =>
    refine (fits initializer usable).bind fun result fits => ?_
    refine .pure (Expr.suits_withoutReference.mpr (fits.convertTo known ?_))
    exact fun apart scalar => lists apart scalar initializer usable
  · exact .pure (Expr.suits_of_unfixed rfl)

/-- The arguments can stand for the parameters that they are given for. -/
def BindsSuiting (apart : Prop) (types : List Ty) (arguments : List Expr) : Prop :=
  ∀ (position : Nat) (argument : Expr), arguments[position]? = some argument →
    ∃ type, types[position]? = some type ∧ (type.isDependent = false → argument.Suits apart type)

/-- Without arguments there is nothing to bind. -/
theorem bindsSuiting_nil (types : List Ty) : BindsSuiting apart types [] := by
  intro position argument found
  rw [List.getElem?_nil] at found
  contradiction

/-- Arguments that are converted to the types of parameters bind them, if those given for scalar
parameters are scalar. -/
theorem bindsSuiting_of_suits {types : List Ty} {arguments results : List Expr}
    (related : List.Forall₂ (fun argument => Expr.Suits apart (argument.typeOf scope)) arguments
      results)
    (scalars : apart → ∀ (position : Nat) (argument : Expr) (type : Ty),
      arguments[position]? = some argument → types[position]? = some type →
        type.isScalar = true → (argument.typeOf scope).isScalar = true) :
    BindsSuiting apart types (results.zipWith (fun result type => result.convertTo type) types) := by
  intro position bound found
  rw [List.getElem?_zipWith] at found
  split at found
  · next result type resultFound typeFound =>
    obtain rfl := Option.some.inj found
    obtain ⟨argument, argumentFound, fits⟩ := getElem?_of_forall₂ related.flip resultFound
    have standing : result.Suits apart (argument.typeOf scope) := fits
    exact ⟨type, typeFound, fun known => standing.convertTo known fun lists =>
      scalars lists position argument type argumentFound typeFound⟩
  · contradiction

/-- A call comes to what stands for it when its arguments and the bodies of functions do, if what is
passed and returned as a scalar is scalar. -/
theorem evaluateCall_suits {callee : Expr} {arguments : List Expr}
    (independentCallee : callee.isTypeDependent = false)
    (independent : ∀ argument ∈ arguments, argument.isTypeDependent = false)
    (returns : ∀ id decl, scope.functionDecl? id = some decl → decl.returnType.isDependent = false)
    (lists : apart → (Form.call callee arguments).KeepsListsApart scope)
    (named : (recur parameters callee).Ensures
      (fun result => callee.overloadSet?.isSome = true → result = callee) fun _ => True)
    (fits : ∀ argument ∈ arguments,
      (recur parameters argument).Suits apart (argument.typeOf scope))
    (bodies : ∀ weaker : Prop, (weaker → apart) → ∀ id decl body,
      scope.functionDecl? id = some decl → decl.body = some body →
        ∀ bound, BindsSuiting weaker decl.parameters bound →
          (recur bound body).Suits weaker (body.typeOf scope)) :
    (evaluateCall scope recur parameters (.node (.call callee arguments) template) callee
      arguments).Suits apart ((Expr.node (.call callee arguments) template).typeOf scope) := by
  refine named.bind fun callee' kept => (Ensures.mapM fits).bind fun results related => ?_
  dsimp only
  split
  · exact .pure (Expr.suits_of_unfixed rfl)
  · next set names =>
    split
    · exact .pure (Expr.suits_of_unfixed rfl)
    · split
      · exact .throw trivial
      · next id decl body entered =>
        obtain ⟨resolved, declared, defined⟩ := callee?_ok entered
        cases direct : callee.overloadSet? with
        | some written =>
          -- The function that is called is the one that the type of the call is read off.
          obtain rfl := kept (by rw [direct]; rfl)
          have reached : scope.targetDecl callee' arguments = some decl := by
            rw [Scope.targetDecl_eq names fun argument member =>
              Expr.plain_of_independent (independent argument member), related.length_eq, resolved,
              Option.bind_some, declared]
          have binds : BindsSuiting apart decl.parameters
              (results.zipWith (fun result type => result.convertTo type) decl.parameters) :=
            bindsSuiting_of_suits related fun holds => (lists holds decl reached).2
          rw [Expr.typeOf_call independentCallee independent reached]
          refine ((bodies apart (fun holds => holds) id decl body declared defined _ binds).withinCall
            fun _ _ => trivial).bind fun result fits => ?_
          split
          · refine .pure (Expr.suits_withoutReference.mpr
              (fits.convertTo (returns id decl declared) ?_))
            exact fun holds scalar => (lists holds decl reached).1 scalar body defined
          · exact .pure (Expr.suits_of_unfixed rfl)
        | none =>
          -- The callee has become a name, so the call has no type to respect.
          have typed : (Expr.node (.call callee arguments) template).typeOf scope = .problem := by
            rw [Expr.typeOf_eq_plainType (Expr.independent_call independentCallee independent),
              Expr.plainType, Expr.plainFormType, Scope.targetDecl_of_unnamed direct]
          have binds : BindsSuiting False decl.parameters
              (results.zipWith (fun result type => result.convertTo type) decl.parameters) :=
            bindsSuiting_of_suits (related.imp fun _ _ => .weaken False.elim) False.elim
          rw [typed]
          refine ((bodies False False.elim id decl body declared defined _ binds).withinCall
            fun _ _ => trivial).bind fun result fits => ?_
          split
          · exact .pure (fits.convertTo (returns id decl declared) False.elim).problem
          · exact .pure (Expr.suits_of_unfixed rfl)

end Forms

/-- The tree, as part of a body whose parameters have the given types, is one of which values and
types agree. -/
structure Expr.Sound (scope : Scope) (apart : Prop) (types : List Ty) (expr : Expr) : Prop where
  /-- The types in the tree are known. -/
  independent : expr.isTypeDependent = false
  /-- Its literals hold integers of their types. -/
  literals : expr.Every Form.LiteralFits
  /-- It mentions the parameters with their types. -/
  mentions : expr.Every (Form.MentionFits types)
  /-- It keeps lists apart. -/
  lists : apart → expr.Every (Form.KeepsListsApart scope)

/-- All bodies and initializers are such that values and types agree. -/
structure Scope.Sound (scope : Scope) (apart : Prop) : Prop where
  /-- The return types are known. -/
  returns : ∀ id decl, scope.functionDecl? id = some decl → decl.returnType.isDependent = false
  /-- The bodies mention the parameters of their functions. -/
  bodies : ∀ id decl body, scope.functionDecl? id = some decl → decl.body = some body →
    body.Sound scope apart decl.parameters
  /-- The initializers mention no parameters. -/
  initializers : ∀ id initializer, scope.constantInitializer? id = some initializer →
    initializer.Sound scope apart []

/-- The evaluation of trees comes to what stands for the sound ones, and leaves the names of
overload sets as they are. -/
structure TypedRecursion (scope : Scope) (recur : List Expr → Expr → Evaluation Expr) : Prop where
  /-- A sound tree comes to what stands for it when its parameters are bound. -/
  tree : ∀ {apart : Prop} {types : List Ty} {parameters : List Expr} {expr : Expr},
    scope.Sound apart → expr.Sound scope apart types → BindsSuiting apart types parameters →
      (recur parameters expr).Suits apart (expr.typeOf scope)
  /-- The name of an overload set is kept. -/
  name : ∀ (parameters : List Expr) (expr : Expr), (recur parameters expr).Ensures
    (fun result => expr.overloadSet?.isSome = true → result = expr) fun _ => True

section Trees

variable {scope : Scope} {apart : Prop} {types : List Ty}

/-- The children of a sound tree are sound. -/
theorem Expr.Sound.child {form : Form Expr} {template : Option TemplateId}
    (sound : (Expr.node form template).Sound scope apart types) {child : Expr}
    (member : child ∈ form.children) : child.Sound scope apart types :=
  ⟨(independent_iff.mp sound.independent).2 child member, sound.literals.child member,
    sound.mentions.child member, fun holds => (sound.lists holds).child member⟩

/-- Where lists need not be kept apart, less is asked of a tree. -/
theorem Expr.Sound.weaken {expr : Expr} {weaker : Prop} (weakens : weaker → apart)
    (sound : expr.Sound scope apart types) : expr.Sound scope weaker types :=
  ⟨sound.independent, sound.literals, sound.mentions, fun holds => sound.lists (weakens holds)⟩

/-- Where lists need not be kept apart, less is asked of the declarations. -/
theorem Scope.Sound.weaken {weaker : Prop} (weakens : weaker → apart) (sound : scope.Sound apart) :
    scope.Sound weaker where
  returns := sound.returns
  bodies id decl body declared defined := (sound.bodies id decl body declared defined).weaken weakens
  initializers id initializer usable := (sound.initializers id initializer usable).weaken weakens

/-- The node of a sound tree comes to what stands for it when all other trees do. -/
theorem evaluateNode_suits {recur : List Expr → Expr → Evaluation Expr}
    (typed : TypedRecursion scope recur) (declarations : scope.Sound apart)
    {parameters : List Expr} {expr : Expr} (sound : expr.Sound scope apart types)
    (binds : BindsSuiting apart types parameters) :
    (evaluateNode scope recur parameters expr).Suits apart (expr.typeOf scope) := by
  obtain ⟨form, template⟩ := expr
  have below (child : Expr) (member : child ∈ form.children) :
      (recur parameters child).Suits apart (child.typeOf scope) :=
    typed.tree declarations (sound.child member) binds
  have independent : ∀ child ∈ form.children, child.isTypeDependent = false :=
    (Expr.independent_iff.mp sound.independent).2
  have own : form.isTypeDependent = false := (Expr.independent_iff.mp sound.independent).1
  have lists (holds : apart) : form.KeepsListsApart scope := (sound.lists holds).root
  cases form with
  | fixed type value category =>
    refine .pure ?_
    rintro _ _ _ ⟨⟩
    refine ⟨own, fun kind isOf => ?_, fun kind isOf => isOf, lists⟩
    obtain ⟨integer, rfl, represents⟩ := sound.literals.root kind isOf
    exact represents
  | templateRef | overloads => exact .pure (Expr.suits_of_unfixed rfl)
  | expansion => contradiction
  | parameterRef position type isPack =>
    cases isPack with
    | true => exact .pure (Expr.suits_of_unfixed rfl)
    | false =>
      simp only [evaluateNode, Expr.form, Bool.false_eq_true, if_false]
      cases bound : parameters[position]? with
      | none => exact .pure (Expr.suits_of_unfixed rfl)
      | some argument =>
        obtain ⟨declared, found, fits⟩ := binds position argument bound
        obtain rfl := sound.mentions.root declared found
        exact .pure (Expr.suits_withoutReference.mpr (fits own))
  | variableRef id type =>
    exact evaluateVariable_suits own lists fun initializer usable =>
      typed.tree declarations (declarations.initializers id initializer usable)
        (bindsSuiting_nil [])
  | unary operator operand =>
    exact evaluateUnary_suits (independent operand (by simp [Form.children])) declarations.returns
      (below operand (by simp [Form.children]))
  | binary operator left right =>
    exact evaluateBinary_suits (independent left (by simp [Form.children]))
      (independent right (by simp [Form.children])) declarations.returns
      (below left (by simp [Form.children])) (below right (by simp [Form.children]))
  | typeTrait operator type => exact .pure evaluateTypeTrait_suits
  | conditional condition positive negative =>
    exact evaluateConditional_suits sound.independent declarations.returns lists
      (below condition (by simp [Form.children])) (below positive (by simp [Form.children]))
      (below negative (by simp [Form.children]))
  | comma operands => exact evaluateComma_suits independent below
  | call callee arguments =>
    obtain ⟨independentCallee, independent⟩ := List.forall_mem_cons.mp independent
    exact evaluateCall_suits independentCallee independent declarations.returns lists
      (typed.name parameters callee)
      (fun argument member => below argument (by simp [Form.children, member]))
      fun weaker weakens id decl body declared defined bound binds =>
        typed.tree (declarations.weaken weakens)
          ((declarations.bodies id decl body declared defined).weaken weakens) binds
  | braced clauses => exact evaluateBraced_suits independent below
  | construct type arguments => exact evaluateConstruct_suits own lists below

end Trees

section Runs

variable {scope : Scope} {expr : Expr}

/-- Coming to what stands for the sound trees is a property per budget. -/
theorem typedRecursion_isPerBudget : IsPerBudget (TypedRecursion scope) := by
  intro recur same
  refine ⟨fun {apart types parameters expr} declarations sound binds =>
    .perBudget fun budget => ?_, fun parameters expr => .perBudget fun budget => ?_⟩
  · obtain ⟨other, typed, equal⟩ := same budget
    exact ⟨_, typed.tree declarations sound binds, equal parameters expr⟩
  · obtain ⟨other, typed, equal⟩ := same budget
    exact ⟨_, typed.name parameters expr, equal parameters expr⟩

/-- The evaluation of a node keeps the name of an overload set. -/
theorem evaluateNode_keeps_name {recur : List Expr → Expr → Evaluation Expr}
    (parameters : List Expr) (expr : Expr) : (evaluateNode scope recur parameters expr).Ensures
      (fun result => expr.overloadSet?.isSome = true → result = expr) fun _ => True := by
  obtain ⟨form, template⟩ := expr
  cases form with
  | overloads => exact .pure fun _ => rfl
  | _ =>
    intro budget
    split
    · rintro ⟨⟩
    · trivial

/-- The evaluation of trees comes to what stands for the sound ones. -/
theorem evaluate_typed (scope : Scope) :
    TypedRecursion scope fun parameters expr => expr.evaluate scope parameters := by
  have stepped : Ensures Evaluation.step (fun _ => True) fun _ => True := .step fun _ _ _ => trivial
  refine evaluate_induction scope typedRecursion_isPerBudget ?refused fun recur typed => ?node
  case refused => exact ⟨fun _ _ _ _ => trivial, fun _ _ _ => trivial⟩
  case node =>
    exact ⟨fun declarations sound binds => stepped.bind fun _ _ =>
      evaluateNode_suits typed declarations sound binds,
      fun parameters expr => stepped.bind fun _ _ => evaluateNode_keeps_name parameters expr⟩

/-- No parameter is declared outside of a body, so every mention fits. -/
theorem Expr.mentionsFit_nil (expr : Expr) : expr.Every (Form.MentionFits []) := by
  intro part _
  unfold Form.MentionFits
  split
  · intro declared found
    rw [List.getElem?_nil] at found
    contradiction
  · trivial

/-- Values and types agree. Where literals of integral types hold integers of their types, bodies
mention parameters with the declared types, and the declarations do not depend on template
parameters, a known value of an expression of integral type is an integer of that type, unless it is
a list; and lists are such values only where some list is converted to a scalar type. -/
theorem constantValue_suits (independent : expr.isValueDependent = false)
    (declarations : scope.IsIndependent) (literals : scope.Everywhere Form.LiteralFits expr)
    (mentions : ∀ id decl body, scope.functionDecl? id = some decl → decl.body = some body →
      body.Every (Form.MentionFits decl.parameters))
    {budget left : Budget} {value : Value}
    (answered : expr.constantValue scope budget = .ok value left) (known : value.isKnown = true)
    {kind : Fundamental} (isOf : (expr.typeOf scope).IsOf kind) :
    (∃ integer, value = .integral integer ∧ kind.Represents integer) ∨
      value.IsList ∧ ¬scope.Everywhere (Form.KeepsListsApart scope) expr := by
  let apart : Prop := scope.Everywhere (Form.KeepsListsApart scope) expr
  have sound : scope.Sound apart :=
    ⟨declarations.returns, fun id decl body declared defined =>
      ⟨declarations.bodies id decl body declared defined,
        literals.bodies id decl body declared defined, mentions id decl body declared defined,
        fun lists => lists.bodies id decl body declared defined⟩,
      fun id initializer usable =>
      ⟨declarations.initializers id initializer usable, literals.initializers id initializer usable,
        initializer.mentionsFit_nil, fun lists => lists.initializers id initializer usable⟩⟩
  have untyped : expr.isTypeDependent = false :=
    Bool.eq_false_iff.mpr fun dependent => by
      rw [Expr.isValueDependent_of_isTypeDependent dependent] at independent
      contradiction
  have fits : (expr.evaluate scope []).Suits apart (expr.typeOf scope) :=
    (evaluate_typed scope).tree sound
      ⟨untyped, literals.tree, expr.mentionsFit_nil, fun lists => lists.tree⟩ (bindsSuiting_nil [])
  have valued : (expr.constantValue scope).Ensures (fun value => ∃ result : Expr,
      result.Suits apart (expr.typeOf scope) ∧ result.fixedValue?.getD .unknown = value)
        fun _ => True := by
    unfold Expr.constantValue
    dsimp only
    exact .refusal trivial fun _ => fits.bind fun result fits => .pure ⟨result, fits, rfl⟩
  have answer := valued budget
  simp only [outcome, answered] at answer
  obtain ⟨⟨form, template⟩, fits, rfl⟩ := answer
  cases form with
  | fixed actual value category =>
    have standsFor := fits actual value category rfl
    cases value with
    | integral integer => exact .inl ⟨integer, rfl, standsFor.suits kind (standsFor.kind kind isOf)⟩
    | composite elements =>
      exact .inr ⟨⟨elements, rfl⟩, fun lists => standsFor.plain lists isOf.isScalar ⟨elements, rfl⟩⟩
    | dependent | unknown => contradiction
  | _ => contradiction

end Runs

/-- The parameter of `low`. -/
def lowParameter : Expr := .of (.parameterRef 0 (.fundamental .short) false)

/-- The variable that `low` reads. -/
def lowVariable : Expr := .of (.variableRef ⟨0⟩ (.const (.fundamental .short)))

/-- The body of `low`. -/
def lowBody : Expr := .of (.binary (.arithmetic .add) lowParameter lowVariable)

/-- The table with the function `low`, which returns the lowest byte of a sum, and the variable that
it reads. -/
def lowTable : Table :=
  ⟨[⟨"low", [.fundamental .short], .fundamental .unsignedChar, some lowBody, true⟩],
    [⟨"base", .const (.fundamental .short), some (.int 1000), true⟩]⟩

/-- The call `low(70000)`. -/
def lowCall : Expr := .of (.call (.of (.overloads ⟨[⟨0⟩], "low", none⟩)) [.int 70000])

section Low

variable {property : Form Expr → Prop}

/-- A literal has only its own form. -/
theorem Expr.every_int {value : Int} (own : property (Expr.int value).form) :
    (Expr.int value).Every property :=
  every_node.mpr ⟨own, List.forall_mem_nil _⟩

/-- The forms in the body of `low`. -/
theorem lowBody_every (sum : property lowBody.form) (parameter : property lowParameter.form)
    (mention : property lowVariable.form) : lowBody.Every property :=
  Expr.every_node.mpr ⟨sum, List.forall_mem_cons.mpr
    ⟨Expr.every_node.mpr ⟨parameter, List.forall_mem_nil _⟩, List.forall_mem_singleton.mpr
      (Expr.every_node.mpr ⟨mention, List.forall_mem_nil _⟩)⟩⟩

/-- The forms in the program of `low`. -/
theorem low_everywhere (call : property lowCall.form)
    (name : property (.overloads ⟨[⟨0⟩], "low", none⟩)) (body : lowBody.Every property)
    (literals : ∀ value ∈ [1000, 70000], property (Expr.int value).form) :
    lowTable.scope.Everywhere property lowCall := by
  obtain ⟨base, argument⟩ := List.forall_mem_cons.mp literals
  refine Table.everywhere ?_ ?_ ?_
  · exact Expr.every_node.mpr ⟨call, List.forall_mem_cons.mpr
      ⟨Expr.every_node.mpr ⟨name, List.forall_mem_nil _⟩, List.forall_mem_singleton.mpr
        (Expr.every_int (argument _ (List.mem_singleton_self _)))⟩⟩
  · rintro decl member other defined
    obtain rfl := List.mem_singleton.mp member
    obtain rfl := Option.some.inj defined
    exact body
  · rintro decl member other defined
    obtain rfl := List.mem_singleton.mp member
    obtain rfl := Option.some.inj defined
    exact Expr.every_int base

end Low

/-- An integer is a literal of its type when it is in range. -/
theorem Form.literalFits_int {value : Int} (represents : Fundamental.int.Represents value) :
    (Expr.int value).form.LiteralFits := by
  rintro kind ⟨⟨⟩, -⟩
  exact ⟨value, rfl, represents⟩

/-- The argument is converted to `short` and the sum to `unsigned char`. -/
theorem constantValue_suits_of_low :
    lowCall.isValueDependent = false ∧ lowTable.scope.IsIndependent ∧
      lowTable.scope.Everywhere Form.LiteralFits lowCall ∧
      (∀ id decl body, lowTable.scope.functionDecl? id = some decl → decl.body = some body →
        body.Every (Form.MentionFits decl.parameters)) ∧
      lowTable.scope.Everywhere (Form.KeepsListsApart lowTable.scope) lowCall ∧
      lowCall.constantValue lowTable.scope ⟨0, 7⟩ = .ok (.integral 88) ⟨7, 7⟩ ∧
      ∃ integer, Value.integral 88 = .integral integer ∧
        Fundamental.unsignedChar.Represents integer := by
  have independent : lowTable.scope.IsIndependent := by
    refine ⟨Table.forall_found ?_, Table.forall_found ?_, Table.forall_bodies ?_,
      Table.forall_usable ?_⟩
    all_goals
      intro decl member
      obtain rfl := List.mem_singleton.mp member
    · rfl
    · exact List.forall_mem_singleton.mpr rfl
    · rintro body ⟨⟩
      rfl
    · rintro initializer ⟨⟩
      rfl
  have literals : lowTable.scope.Everywhere Form.LiteralFits lowCall :=
    low_everywhere trivial trivial (lowBody_every trivial trivial trivial)
      (List.forall_mem_cons.mpr ⟨Form.literalFits_int (by decide),
        List.forall_mem_singleton.mpr (Form.literalFits_int (by decide))⟩)
  have mentions : ∀ id decl body, lowTable.scope.functionDecl? id = some decl →
      decl.body = some body → body.Every (Form.MentionFits decl.parameters) := by
    refine Table.forall_bodies ?_
    intro decl member
    obtain rfl := List.mem_singleton.mp member
    rintro body ⟨⟩
    refine lowBody_every trivial ?_ trivial
    rintro declared ⟨⟩
    rfl
  have apart : lowTable.scope.Everywhere (Form.KeepsListsApart lowTable.scope) lowCall := by
    refine low_everywhere ?_ trivial (lowBody_every trivial trivial ?_) ?_
    · rintro decl ⟨⟩
      refine ⟨?_, ?_⟩
      · rintro - body ⟨⟩
        rfl
      · rintro position argument type found _ _
        obtain rfl := List.mem_singleton.mp (List.mem_of_getElem? found)
        rfl
    · rintro - initializer ⟨⟩
      rfl
    · rintro value - - ⟨elements, ⟨⟩⟩
  have answered : lowCall.constantValue lowTable.scope ⟨0, 7⟩ = .ok (.integral 88) ⟨7, 7⟩ := rfl
  refine ⟨rfl, independent, literals, mentions, apart, answered, ?_⟩
  have isOf : (lowCall.typeOf lowTable.scope).IsOf .unsignedChar := ⟨rfl, rfl⟩
  exact (constantValue_suits rfl independent literals mentions answered rfl isOf).resolve_right
    fun list => list.2 apart

/-- The cast `int({5})` of a braced list. -/
def listCast : Expr := .of (.construct (.fundamental .int) [.of (.braced [.int 5])])

/-- A list that is cast to a scalar type stays a list. The cast of the list of five has the type
`int`, and its value is not the integer five. -/
theorem cast_keeps_list :
    listCast.isValueDependent = false ∧ Table.empty.scope.IsIndependent ∧
      Table.empty.scope.Everywhere Form.LiteralFits listCast ∧
      (∀ id decl body, Table.empty.scope.functionDecl? id = some decl → decl.body = some body →
        body.Every (Form.MentionFits decl.parameters)) ∧
      listCast.typeOf Table.empty.scope = .fundamental .int ∧
      listCast.constantValue Table.empty.scope (.fresh defaultLimit) =
        .ok (.composite [.integral 5]) ⟨3, defaultLimit⟩ ∧
      (Value.composite [.integral 5]).isKnown = true := by
  refine ⟨rfl, Table.empty_isIndependent, Table.everywhere ?_ (List.forall_mem_nil _)
    (List.forall_mem_nil _), Table.forall_bodies (List.forall_mem_nil _), rfl, rfl, rfl⟩
  exact Expr.every_node.mpr ⟨trivial, List.forall_mem_singleton.mpr
    (Expr.every_node.mpr ⟨trivial, List.forall_mem_singleton.mpr
      (Expr.every_int (Form.literalFits_int (by decide)))⟩)⟩

end ConstExpr
