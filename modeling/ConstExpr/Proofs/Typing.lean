import ConstExpr.Proofs.Conversion

/-!
# Types of trees

A tree is type-dependent when one of its children is or its form is by itself, and otherwise its
type is read off the types of its children. A tree of integral type is not type-dependent and has
that type, possibly qualified or referred to (`Expr.HasKind`).
-/
namespace ConstExpr

/-- The function that an overload set resolves to is a candidate of the set that takes the
arguments. -/
theorem Scope.resolve_spec {scope : Scope} {set : OverloadSet} {arity : Nat} {function : FunctionId}
    (resolved : scope.resolve set arity = some function) :
    function ∈ set.candidates ∧ scope.accepts arity function = true := by
  unfold resolve at resolved
  split at resolved
  · next only =>
    rw [← Option.some.inj resolved, ← List.mem_filter, only]
    exact List.mem_singleton_self _
  · contradiction

/-- Reduced to the function that it resolves to, an overload set resolves to that function. -/
theorem Scope.resolve_only {scope : Scope} {set : OverloadSet} {arity : Nat} {function : FunctionId}
    (resolved : scope.resolve set arity = some function) :
    scope.resolve { set with candidates := [function] } arity = some function := by
  simp only [resolve, List.filter_cons, (resolve_spec resolved).2, if_true, List.filter_nil]

/-- A call by name, without pack expansions among its arguments, reaches the function that the name
resolves to. -/
theorem Scope.targetDecl_eq {scope : Scope} {callee : Expr} {set : OverloadSet}
    {arguments : List Expr} (named : callee.overloadSet? = some set)
    (plain : ∀ argument ∈ arguments, argument.isExpansion = false) :
    scope.targetDecl callee arguments =
      (scope.resolve set arguments.length).bind scope.functionDecl? := by
  have unexpanded : arguments.any Expr.isExpansion = false := by
    simpa only [List.any_eq_false, Bool.not_eq_true] using plain
  simp only [targetDecl, target, unexpanded, named, Bool.false_eq_true, if_false, Option.bind_some]

/-- A callee that is no name reaches no function. -/
theorem Scope.targetDecl_of_unnamed {scope : Scope} {callee : Expr} {arguments : List Expr}
    (unnamed : callee.overloadSet? = none) : scope.targetDecl callee arguments = none := by
  simp [targetDecl, target, unnamed]

namespace Expr

variable {scope : Scope} {template : Option TemplateId}

/-- Some tree of a list has a form with the property when one of its trees has. -/
theorem anyOf_eq_any (property : Form Expr → Bool) (exprs : List Expr) :
    anyOf property exprs = exprs.any (anyForm property) := by
  induction exprs with
  | nil => rfl
  | cons expr exprs ih => rw [anyOf, ih, List.any_cons]

/-- Some node of a tree has a form with the property when its own form has or when some node of a
child has. -/
theorem anyForm_eq (property : Form Expr → Bool) (form : Form Expr) :
    (node form template).anyForm property =
      (property form || form.children.any (anyForm property)) := by
  cases form <;>
    simp [anyForm, anyChild, Form.children, anyOf_eq_any, Bool.or_assoc]

/-- No node of a tree has a form with the property when neither its own form has nor some node of
a child. -/
theorem anyForm_eq_false {property : Form Expr → Bool} {form : Form Expr} :
    (node form template).anyForm property = false ↔
      property form = false ∧ ∀ child ∈ form.children, child.anyForm property = false := by
  rw [anyForm_eq, Bool.or_eq_false_iff, List.any_eq_false]
  simp only [Bool.not_eq_true]

/-- A tree is not type-dependent when neither its form is by itself nor one of its children. -/
theorem independent_iff {form : Form Expr} : (node form template).isTypeDependent = false ↔
    form.isTypeDependent = false ∧ ∀ child ∈ form.children, child.isTypeDependent = false :=
  anyForm_eq_false

/-- The type of an expression of which no part is type-dependent is its plain type. -/
theorem typeOf_eq_plainType {expr : Expr} (independent : expr.isTypeDependent = false) :
    expr.typeOf scope = expr.plainType scope := by
  obtain ⟨form, template⟩ := expr
  rw [typeOf, plainType]
  cases form with
  | expansion pattern => simp [isTypeDependent, anyForm, Form.isTypeDependent] at independent
  | unary operator operand =>
    cases operator <;>
      simp only [formType, independent, Bool.false_eq_true, if_false, plainType] <;> rfl
  | _ => simp only [formType, independent, Bool.false_eq_true, if_false, plainType, plainFormType]

/-- A tree that is not type-dependent is no pack expansion. -/
theorem plain_of_independent {expr : Expr} (independent : expr.isTypeDependent = false) :
    expr.isExpansion = false := by
  obtain ⟨form, template⟩ := expr
  cases form with
  | expansion => exact absurd (independent_iff.mp independent).1 Bool.noConfusion
  | _ => rfl

/-- The type of a list of operands is that of the last one. -/
theorem plainLastType_eq {operands : List Expr} {last : Expr}
    (found : operands.getLast? = some last) :
    plainLastType scope operands = last.plainType scope := by
  induction operands with
  | nil => contradiction
  | cons operand operands ih =>
    cases operands with
    | nil =>
      rw [List.getLast?_singleton, Option.some.injEq] at found
      rw [plainLastType, found]
    | cons next rest => exact ih (by rwa [List.getLast?_cons_cons] at found)

section Children

variable {operator : UnaryOperator} {connective : BinaryOperator}
  {operand left right condition positive negative callee : Expr} {arguments operands : List Expr}

/-- An operator is not type-dependent when its operand is not. -/
theorem independent_unary (independent : operand.isTypeDependent = false) :
    (node (.unary operator operand) template).isTypeDependent = false :=
  independent_iff.mpr ⟨rfl, List.forall_mem_singleton.mpr independent⟩

/-- An operator is not type-dependent when neither operand is. -/
theorem independent_binary (leftIndependent : left.isTypeDependent = false)
    (rightIndependent : right.isTypeDependent = false) :
    (node (.binary connective left right) template).isTypeDependent = false :=
  independent_iff.mpr ⟨rfl, List.forall_mem_cons.mpr
    ⟨leftIndependent, List.forall_mem_singleton.mpr rightIndependent⟩⟩

/-- A choice is not type-dependent when neither its condition nor a branch is. -/
theorem independent_conditional (conditionIndependent : condition.isTypeDependent = false)
    (positiveIndependent : positive.isTypeDependent = false)
    (negativeIndependent : negative.isTypeDependent = false) :
    (node (.conditional condition positive negative) template).isTypeDependent = false :=
  independent_iff.mpr ⟨rfl, List.forall_mem_cons.mpr ⟨conditionIndependent,
    List.forall_mem_cons.mpr
      ⟨positiveIndependent, List.forall_mem_singleton.mpr negativeIndependent⟩⟩⟩

/-- A call is not type-dependent when neither its callee nor an argument is. -/
theorem independent_call (independentCallee : callee.isTypeDependent = false)
    (independent : ∀ argument ∈ arguments, argument.isTypeDependent = false) :
    (node (.call callee arguments) template).isTypeDependent = false :=
  independent_iff.mpr ⟨rfl, List.forall_mem_cons.mpr ⟨independentCallee, independent⟩⟩

/-- The type of an operator is the one it gives to the type of its operand. -/
theorem typeOf_unary (independent : operand.isTypeDependent = false) :
    (node (.unary operator operand) template).typeOf scope =
      operator.resultType (operand.typeOf scope) := by
  rw [typeOf_eq_plainType (independent_unary independent), typeOf_eq_plainType independent]
  rfl

/-- The type of an operator is the one it gives to the types of its operands. -/
theorem typeOf_binary (leftIndependent : left.isTypeDependent = false)
    (rightIndependent : right.isTypeDependent = false) :
    (node (.binary connective left right) template).typeOf scope =
      connective.resultType (left.typeOf scope) (right.typeOf scope) := by
  rw [typeOf_eq_plainType (independent_binary leftIndependent rightIndependent),
    typeOf_eq_plainType leftIndependent, typeOf_eq_plainType rightIndependent]
  rfl

/-- The type of a choice is put together from the types of its branches. -/
theorem typeOf_conditional (conditionIndependent : condition.isTypeDependent = false)
    (positiveIndependent : positive.isTypeDependent = false)
    (negativeIndependent : negative.isTypeDependent = false) :
    (node (.conditional condition positive negative) template).typeOf scope =
      (positive.typeOf scope).merge (negative.typeOf scope) := by
  rw [typeOf_eq_plainType
      (independent_conditional conditionIndependent positiveIndependent negativeIndependent),
    typeOf_eq_plainType positiveIndependent, typeOf_eq_plainType negativeIndependent]
  rfl

/-- The type of a list of operands is that of the last one. -/
theorem typeOf_comma (independent : ∀ operand ∈ operands, operand.isTypeDependent = false)
    {last : Expr} (found : operands.getLast? = some last) :
    (node (.comma operands) template).typeOf scope = last.typeOf scope := by
  have whole : (node (.comma operands) template).isTypeDependent = false :=
    independent_iff.mpr ⟨rfl, independent⟩
  rw [typeOf_eq_plainType whole,
    typeOf_eq_plainType (independent last (List.mem_of_getLast? found))]
  exact plainLastType_eq found

/-- The type of a call is the return type of the function that it reaches. -/
theorem typeOf_call (independentCallee : callee.isTypeDependent = false)
    (independent : ∀ argument ∈ arguments, argument.isTypeDependent = false)
    {decl : FunctionDecl} (reached : scope.targetDecl callee arguments = some decl) :
    (node (.call callee arguments) template).typeOf scope = decl.returnType.withoutReference := by
  rw [typeOf_eq_plainType (independent_call independentCallee independent), plainType,
    plainFormType, reached]

end Children

end Expr

/-- The expression is not type-dependent, and its type is the integral type, possibly qualified or
referred to. -/
structure Expr.HasKind (scope : Scope) (expr : Expr) (kind : Fundamental) : Prop where
  /-- No part of the expression is type-dependent. -/
  independent : expr.isTypeDependent = false
  /-- The type is the integral type. -/
  isOf : (expr.typeOf scope).IsOf kind

namespace Expr

variable {scope : Scope} {template : Option TemplateId} {exprs : List Expr} {kind : Fundamental}

/-- Trees of integral types are not type-dependent. -/
theorem independent_of_typed (typed : ∀ expr ∈ exprs, ∃ kind, expr.HasKind scope kind) :
    ∀ expr ∈ exprs, expr.isTypeDependent = false :=
  fun expr member => (typed expr member).elim fun _ exprTyped => exprTyped.independent

namespace HasKind

/-- An arithmetic operator on an operand of integral type has an integral type. -/
theorem unary {operator : UnaryOperator} {operand : Expr} (typed : operand.HasKind scope kind)
    (arithmetic : operator.isArithmetic = true) :
    ∃ result, (node (.unary operator operand) template).HasKind scope result := by
  obtain ⟨result, isOf⟩ := UnaryOperator.resultType_isOf arithmetic typed.isOf
  refine ⟨result, independent_unary typed.independent, ?_⟩
  rwa [typeOf_unary typed.independent]

/-- An operator other than an assignment on operands of integral types has an integral type. -/
theorem binary {operator : BinaryOperator} {left right : Expr} {first second : Fundamental}
    (leftTyped : left.HasKind scope first) (rightTyped : right.HasKind scope second)
    (arithmetic : operator.isAssignment = false) :
    ∃ result, (node (.binary operator left right) template).HasKind scope result := by
  obtain ⟨result, isOf⟩ := BinaryOperator.resultType_isOf arithmetic leftTyped.isOf rightTyped.isOf
  refine ⟨result, independent_binary leftTyped.independent rightTyped.independent, ?_⟩
  rwa [typeOf_binary leftTyped.independent rightTyped.independent]

/-- An arithmetic operator has the same type on every operand of the same integral type. -/
theorem typeOf_unary_eq {operator : UnaryOperator} {operand operand' : Expr}
    {template' : Option TemplateId} (arithmetic : operator.isArithmetic = true)
    (typed : operand.HasKind scope kind) (typed' : operand'.HasKind scope kind) :
    (node (.unary operator operand') template').typeOf scope =
      (node (.unary operator operand) template).typeOf scope := by
  rw [typeOf_unary typed.independent, typeOf_unary typed'.independent]
  exact UnaryOperator.resultType_congr arithmetic (typed'.isOf.1.trans typed.isOf.1.symm)

/-- An operator other than an assignment has the same type on all operands of the same integral
types. -/
theorem typeOf_binary_eq {operator : BinaryOperator} {left left' right right' : Expr}
    {first second : Fundamental} {template' : Option TemplateId}
    (arithmetic : operator.isAssignment = false) (leftTyped : left.HasKind scope first)
    (leftTyped' : left'.HasKind scope first) (rightTyped : right.HasKind scope second)
    (rightTyped' : right'.HasKind scope second) :
    (node (.binary operator left' right') template').typeOf scope =
      (node (.binary operator left right) template).typeOf scope := by
  rw [typeOf_binary leftTyped.independent rightTyped.independent,
    typeOf_binary leftTyped'.independent rightTyped'.independent]
  exact BinaryOperator.resultType_congr arithmetic (leftTyped'.isOf.1.trans leftTyped.isOf.1.symm)
    (rightTyped'.isOf.1.trans rightTyped.isOf.1.symm)

/-- A choice between branches of integral types has an integral type. -/
theorem conditional {condition positive negative : Expr} {first second : Fundamental}
    (conditionIndependent : condition.isTypeDependent = false)
    (positiveTyped : positive.HasKind scope first)
    (negativeTyped : negative.HasKind scope second) :
    ∃ result, (node (.conditional condition positive negative) template).HasKind scope result := by
  obtain ⟨result, isOf⟩ := positiveTyped.isOf.merge negativeTyped.isOf
  refine ⟨result, independent_conditional conditionIndependent positiveTyped.independent
    negativeTyped.independent, ?_⟩
  rwa [typeOf_conditional conditionIndependent positiveTyped.independent
    negativeTyped.independent]

/-- A list of operands has the integral type of the last one. -/
theorem comma {last : Expr} (independent : ∀ operand ∈ exprs, operand.isTypeDependent = false)
    (found : exprs.getLast? = some last) (typed : last.HasKind scope kind) :
    (node (.comma exprs) template).HasKind scope kind := by
  refine ⟨independent_iff.mpr ⟨rfl, independent⟩, ?_⟩
  rw [typeOf_comma independent found]
  exact typed.isOf

/-- A call of a function that returns an integral type has that type. -/
theorem call {set : OverloadSet} {calleeTemplate : Option TemplateId} {id : FunctionId}
    {decl : FunctionDecl} (independentSet : set.isDependent = false)
    (resolved : scope.resolve set exprs.length = some id)
    (declared : scope.functionDecl? id = some decl) (returned : decl.returnType.IsOf kind)
    (plain : ∀ argument ∈ exprs, argument.isExpansion = false)
    (independent : ∀ argument ∈ exprs, argument.isTypeDependent = false) :
    (node (.call (node (.overloads set) calleeTemplate) exprs) template).HasKind scope kind := by
  have independentCallee : (node (.overloads set) calleeTemplate).isTypeDependent = false :=
    independent_iff.mpr ⟨independentSet, nofun⟩
  have reached : scope.targetDecl (node (.overloads set) calleeTemplate) exprs = some decl := by
    rw [Scope.targetDecl_eq rfl plain, resolved, Option.bind_some, declared]
  refine ⟨independent_call independentCallee independent, ?_⟩
  rw [typeOf_call independentCallee independent reached]
  exact returned.withoutReference

/-- A cast to an integral type has that type. -/
theorem construct {type : Ty} (isOf : type.IsOf kind)
    (independent : ∀ argument ∈ exprs, argument.isTypeDependent = false) :
    (node (.construct type exprs) template).HasKind scope kind :=
  ⟨independent_iff.mpr ⟨isOf.not_dependent, independent⟩, isOf.withoutReference⟩

end HasKind

end Expr

end ConstExpr
