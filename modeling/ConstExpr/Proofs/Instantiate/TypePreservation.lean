import ConstExpr.Proofs.Instantiate.Forms
import ConstExpr.Query.Category
import ConstExpr.Query.Typing

/-!
# Instantiation preserves types

A tree that is not type-dependent keeps its type and its category in every instantiation, when the
non-type parameters it mentions are bound to values of their types and no size of a pack in it is
in error. The tree changes all the same: parameters become literals, and overload sets lose the
candidates that do not accept their arguments. Two trees are `Expr.Alike` when no form of a node
above them can tell them apart by their types; the forms with like children are alike.
-/
namespace ConstExpr

/-- The argument is a value whose type is the given one, which is no reference. -/
def TemplateArgument.IsValueOf (type : Ty) (argument : TemplateArgument) : Prop :=
  (∃ value, argument = .nonType value type) ∧ ∀ kind referee, type ≠ .reference kind referee

/-- What the form mentions is bound so that its type stays: a non-type parameter to values of its
type, and the packs in the operand of a pack size, where they are bound, to a number of arguments
each that is the same for all. -/
def Form.WellBound (map : Substitution) : Form Expr → Prop
  | .templateRef parameter type =>
    ∀ argument ∈ map.arguments parameter.id, argument.IsValueOf type
  | .unary .sizeofPack operand =>
    operand.packSize map = .deferred ∨ ∃ size, operand.packSize map = .count size
  | _ => True

/-- The explicit template arguments of an overload set that is not dependent are kept. -/
theorem OverloadSet.silent_of_independent {set : OverloadSet}
    (independent : set.isDependent = false) : set.mentionsParameter = false := by
  refine List.any_eq_false.mpr fun argument member mentions => ?_
  exact List.any_eq_false.mp independent argument member
    (argument.isDependent_of_mentionsParameter mentions)

/-- A type that is not dependent is kept. -/
theorem Ty.instantiate_of_independent {map : Substitution} {offset : Option Nat} {type : Ty}
    (independent : type.isDependent = false) : type.instantiate map offset = type := by
  refine Ty.instantiate_of_silent (Bool.eq_false_iff.mpr fun mentions => ?_)
  rw [Ty.isDependent_of_mentionsParameter mentions] at independent
  contradiction

/-- The new tree is not type-dependent and has the type, the category and the overload set of the
old one. -/
structure Expr.Alike (scope : Scope) (old new : Expr) : Prop where
  /-- No part of the new tree is type-dependent. -/
  independent : new.isTypeDependent = false
  /-- The types are the same. -/
  sameType : new.plainType scope = old.plainType scope
  /-- The categories are the same. -/
  sameCategory : new.category scope = old.category scope
  /-- Both trees name the same overload set, or none. -/
  sameSet : new.overloadSet? = old.overloadSet?

namespace Expr.Alike

variable {scope : Scope} {old new : Expr} {exprs : List Expr} {change : Expr → Expr}

/-- A tree that is not type-dependent is like itself. -/
theorem refl (independent : old.isTypeDependent = false) : old.Alike scope old :=
  ⟨independent, rfl, rfl, rfl⟩

/-- Trees that are like the same tree are alike. -/
theorem trans {next : Expr} (first : old.Alike scope new) (second : new.Alike scope next) :
    old.Alike scope next :=
  ⟨second.independent, second.sameType.trans first.sameType,
    second.sameCategory.trans first.sameCategory, second.sameSet.trans first.sameSet⟩

/-- Nodes are alike that have the same type and category by their forms. -/
theorem of_form {form form' : Form Expr} {template template' : Option TemplateId}
    (own : form'.isTypeDependent = false)
    (below : ∀ child ∈ form'.children, child.isTypeDependent = false)
    (sameType : plainFormType scope form' = plainFormType scope form)
    (sameCategory : formCategory scope form' = formCategory scope form)
    (sameSet : (node form' template').overloadSet? = (node form template).overloadSet?) :
    (node form template).Alike scope (node form' template') :=
  ⟨independent_iff.mpr ⟨own, below⟩, sameType, sameCategory, sameSet⟩

/-- An instantiated node is like the origin when a node of its form is. -/
theorem of_reformed {form : Form Expr} {result : Expr} (reformed : old.Reformed form result)
    (alike : ∀ template, old.Alike scope (node form template)) : old.Alike scope result := by
  obtain ⟨actual, template⟩ := result
  obtain rfl : actual = form := reformed.form_eq
  exact alike template

variable {template template' : Option TemplateId}

/-- An operator on operands that are alike. -/
theorem unary {operator : UnaryOperator} (operand : old.Alike scope new) :
    (node (.unary operator old) template).Alike scope (node (.unary operator new) template') :=
  .of_form rfl (List.forall_mem_singleton.mpr operand.independent)
    (by rw [plainFormType, plainFormType, operand.sameType]) rfl rfl

/-- An operator on two pairs of operands that are alike. -/
theorem binary {operator : BinaryOperator} {left left' right right' : Expr}
    (leftAlike : left.Alike scope left') (rightAlike : right.Alike scope right') :
    (node (.binary operator left right) template).Alike scope
      (node (.binary operator left' right') template') := by
  refine .of_form rfl (List.forall_mem_cons.mpr
    ⟨leftAlike.independent, List.forall_mem_singleton.mpr rightAlike.independent⟩) ?_ rfl rfl
  rw [plainFormType, plainFormType, leftAlike.sameType, rightAlike.sameType]

/-- Choices whose conditions and branches are alike. -/
theorem conditional {condition condition' positive positive' negative negative' : Expr}
    (conditionAlike : condition.Alike scope condition')
    (positiveAlike : positive.Alike scope positive')
    (negativeAlike : negative.Alike scope negative') :
    (node (.conditional condition positive negative) template).Alike scope
      (node (.conditional condition' positive' negative') template') := by
  refine .of_form rfl (List.forall_mem_cons.mpr ⟨conditionAlike.independent,
    List.forall_mem_cons.mpr ⟨positiveAlike.independent,
      List.forall_mem_singleton.mpr negativeAlike.independent⟩⟩) ?_ ?_ rfl
  · rw [plainFormType, plainFormType, positiveAlike.sameType, negativeAlike.sameType]
  · rw [formCategory, formCategory, positiveAlike.sameCategory, negativeAlike.sameCategory]

section Lists

variable (alike : ∀ expr ∈ exprs, expr.Alike scope (change expr))

include alike

/-- Trees that are like others are not type-dependent. -/
theorem independent_map : ∀ expr ∈ exprs.map change, expr.isTypeDependent = false :=
  List.forall_mem_map.mpr fun expr member => (alike expr member).independent

/-- Sequences of operands that are alike. -/
theorem comma : (node (.comma exprs) template).Alike scope
    (node (.comma (exprs.map change)) template') := by
  refine .of_form rfl (independent_map alike) ?_ ?_ rfl
  · rw [plainFormType, plainFormType]
    induction exprs with
    | nil => rfl
    | cons head tail ih =>
      obtain ⟨headAlike, tailAlike⟩ := List.forall_mem_cons.mp alike
      cases tail with
      | nil => exact headAlike.sameType
      | cons next rest => exact ih tailAlike
  · rw [formCategory, formCategory]
    induction exprs with
    | nil => rfl
    | cons head tail ih =>
      obtain ⟨headAlike, tailAlike⟩ := List.forall_mem_cons.mp alike
      cases tail with
      | nil => exact headAlike.sameCategory
      | cons next rest => exact ih tailAlike

/-- Braced lists whose clauses are alike. -/
theorem braced : (node (.braced exprs) template).Alike scope
    (node (.braced (exprs.map change)) template') :=
  .of_form rfl (independent_map alike) rfl rfl rfl

/-- Casts to the same type whose arguments are alike. -/
theorem construct {type : Ty} (independent : type.isDependent = false) :
    (node (.construct type exprs) template).Alike scope
      (node (.construct type (exprs.map change)) template') :=
  .of_form independent (independent_map alike) rfl rfl rfl

/-- Calls of callees that are alike with arguments that are alike. -/
theorem call (callee : old.Alike scope new)
    (independent : ∀ expr ∈ exprs, expr.isTypeDependent = false) :
    (node (.call old exprs) template).Alike scope
      (node (.call new (exprs.map change)) template') := by
  have plain : exprs.any isExpansion = false :=
    List.any_eq_false.mpr fun expr member => by
      rw [plain_of_independent (independent expr member)]
      exact Bool.false_ne_true
  have plain' : (exprs.map change).any isExpansion = false :=
    List.any_eq_false.mpr fun expr member => by
      rw [plain_of_independent (independent_map alike expr member)]
      exact Bool.false_ne_true
  have reached : scope.targetDecl new (exprs.map change) = scope.targetDecl old exprs := by
    rw [Scope.targetDecl, Scope.targetDecl, Scope.target, Scope.target, plain, plain',
      callee.sameSet, List.length_map]
  refine .of_form rfl (List.forall_mem_cons.mpr
    ⟨callee.independent, independent_map alike⟩) ?_ ?_ rfl
  · rw [plainFormType, plainFormType, reached]
  · rw [formCategory, formCategory, reached]

end Lists

end Expr.Alike

namespace Instantiation

variable {work : Instantiation} {callee : Expr} {arguments : List Expr}

/-- A call reaches the same function after its overload set is reduced. -/
theorem target_narrow : work.scope.target (work.narrow callee arguments) arguments =
    work.scope.target callee arguments := by
  have spec := work.narrow_spec callee arguments
  generalize work.narrow callee arguments = reduced at spec ⊢
  cases spec with
  | kept => rfl
  | reduced several plain resolved =>
    simp only [Scope.target, Expr.overloadSet?, Expr.form, Option.bind_some, resolved,
      Scope.resolve_only resolved]

/-- An overload set that is reduced is type-dependent only if it was before. -/
theorem independent_narrow (independent : callee.isTypeDependent = false) :
    (work.narrow callee arguments).isTypeDependent = false := by
  have spec := work.narrow_spec callee arguments
  generalize work.narrow callee arguments = reduced at spec ⊢
  cases spec with
  | kept => exact independent
  | @reduced set =>
    have own : set.isDependent = false := (Expr.independent_iff.mp independent).1
    exact Expr.independent_iff.mpr ⟨own, nofun⟩

/-- A call is like the one whose overload set is reduced. -/
theorem alike_narrow {template template' : Option TemplateId}
    (independent : (Expr.node (.call callee arguments) template).isTypeDependent = false) :
    (Expr.node (.call callee arguments) template).Alike work.scope
      (.node (.call (work.narrow callee arguments) arguments) template') := by
  obtain ⟨calleeIndependent, argumentsIndependent⟩ :=
    List.forall_mem_cons.mp (Expr.independent_iff.mp independent).2
  have reached : work.scope.targetDecl (work.narrow callee arguments) arguments =
      work.scope.targetDecl callee arguments := by
    rw [Scope.targetDecl, target_narrow, Scope.targetDecl]
  refine .of_form rfl (List.forall_mem_cons.mpr
    ⟨independent_narrow calleeIndependent, argumentsIndependent⟩) ?_ ?_ rfl
  · rw [Expr.plainFormType, Expr.plainFormType, reached]
  · rw [Expr.formCategory, Expr.formCategory, reached]

/-- A node that is not type-dependent is like the one of the instantiated form, when its children
are like what they become. -/
theorem alike_instantiated {form : Form Expr} {template template' : Option TemplateId} {depth : Nat}
    {offset : Option Nat} (own : form.isTypeDependent = false)
    (below : ∀ child ∈ form.children, child.isTypeDependent = false)
    (childAlike : ∀ child ∈ form.children,
      child.Alike work.scope (child.instantiate work depth offset)) :
    (Expr.node form template).Alike work.scope
      (.node (form.instantiated work depth offset) template') := by
  have plain : ∀ exprs : List Expr, (∀ expr ∈ exprs, expr ∈ form.children) →
      exprs.flatMap (work.listed depth offset) = exprs.map (Expr.instantiate work depth offset) :=
    fun _ among => flatMap_listed_of_plain fun expr member =>
      Expr.plain_of_independent (below expr (among expr member))
  cases form with
  | fixed type | templateRef parameter type | variableRef id type =>
    have same : type.instantiate work.map offset = type := Ty.instantiate_of_independent own
    rw [Form.instantiated, same]
    exact .of_form own (List.forall_mem_nil _) rfl rfl rfl
  | parameterRef position type isPack =>
    have same : type.instantiate work.map offset = type :=
      Ty.instantiate_of_independent (Bool.or_eq_false_iff.mp own).2
    rw [Form.instantiated, same]
    exact .of_form own (List.forall_mem_nil _) rfl rfl rfl
  | typeTrait operator type =>
    -- The type that is measured may change; that of the trait is the operator's.
    exact .of_form rfl (List.forall_mem_nil _) rfl rfl rfl
  | overloads set =>
    rw [Form.instantiated,
      OverloadSet.expanded_of_silent (OverloadSet.silent_of_independent own)]
    exact .of_form own (List.forall_mem_nil _) rfl rfl rfl
  | unary operator operand => exact .unary (childAlike operand (List.mem_singleton_self operand))
  | binary operator left right =>
    exact .binary (childAlike left (by simp [Form.children]))
      (childAlike right (by simp [Form.children]))
  | conditional condition positive negative =>
    exact .conditional (childAlike condition (by simp [Form.children]))
      (childAlike positive (by simp [Form.children]))
      (childAlike negative (by simp [Form.children]))
  | comma operands =>
    rw [Form.instantiated, plain operands fun _ => id]
    exact .comma childAlike
  | braced clauses =>
    rw [Form.instantiated, plain clauses fun _ => id]
    exact .braced childAlike
  | construct type arguments =>
    rw [Form.instantiated, Ty.instantiate_of_independent own, plain arguments fun _ => id]
    exact .construct childAlike own
  | call callee arguments =>
    obtain ⟨calleeAlike, argumentsAlike⟩ := List.forall_mem_cons.mp childAlike
    rw [Form.instantiated, plain arguments fun _ => List.mem_cons_of_mem _]
    exact .call argumentsAlike calleeAlike (List.forall_mem_cons.mp below).2
  | expansion => contradiction

/-- A tree of which nothing is type-dependent becomes one that is like it, down to each depth. -/
theorem alike_instantiate (depth : Nat) (offset : Option Nat) {expr : Expr}
    (unspecialized : work.within = none) (independent : expr.isTypeDependent = false)
    (bound : expr.Every (Form.WellBound work.map)) :
    expr.Alike work.scope (expr.instantiate work depth offset) := by
  induction depth generalizing expr with
  | zero => exact .refl independent
  | succ depth ih =>
    cases mentions : expr.mentionsParameter with
    | false =>
      rw [instantiate_of_silent unspecialized mentions]
      exact .refl independent
    | true =>
      have outcome := work.outcome depth offset unspecialized mentions
      generalize expr.instantiate work (depth + 1) offset = result at outcome ⊢
      cases outcome with
      | @stable form template result stable reformed =>
        obtain ⟨own, below⟩ := Expr.independent_iff.mp independent
        refine .of_reformed reformed fun _ => alike_instantiated own below fun child member =>
          ih (below child member) (bound.child member)
      | value replaced =>
        obtain ⟨⟨value, same⟩, direct⟩ := bound.root _ (Substitution.mem_arguments replaced)
        obtain ⟨rfl, rfl⟩ := TemplateArgument.nonType.inj same
        exact .of_form (Expr.independent_iff.mp independent).1 nofun
          (Ty.withoutReference_of_direct direct).symm rfl rfl
      | mismatch replaced =>
        obtain ⟨⟨value, same⟩, -⟩ := bound.root _ (Substitution.mem_arguments replaced)
        contradiction
      | @selected position place type isPack template selected =>
        have notPack := (Bool.or_eq_false_iff.mp (Expr.independent_iff.mp independent).1).1
        rw [(element?_eq_some.mp selected).2.1] at notPack
        contradiction
      | measured sized => exact .of_form rfl (List.forall_mem_nil _) rfl rfl rfl
      | @unmeasured operand template unsized =>
        have typed : Form.WellBound work.map (.unary .sizeofPack operand) := bound.root
        rcases typed with found | ⟨size, found⟩ <;>
        · rw [found] at unsized
          rcases unsized with unsized | unsized <;> contradiction
      | @call callee arguments template =>
        obtain ⟨own, below⟩ := Expr.independent_iff.mp independent
        have alike : (Expr.node (.call callee arguments) template).Alike work.scope
            (.node ((Form.call callee arguments).instantiated work depth offset) template) :=
          alike_instantiated own below fun child member =>
            ih (below child member) (bound.child member)
        exact alike.trans (alike_narrow alike.independent)

end Instantiation

/-- A tree that is not type-dependent stays so and keeps its type and its category in every
instantiation without a specialization, whatever the offset and the depth, when the substitution
binds the non-type parameters that the tree mentions to values of their types and when the operands
of its pack sizes have one size or are deferred. -/
theorem instantiate_preserves_type (expr : Expr) (work : Instantiation) (depth : Nat)
    (offset : Option Nat) (independent : expr.isTypeDependent = false)
    (unspecialized : work.within = none) (bound : expr.Every (Form.WellBound work.map)) :
    (expr.instantiate work depth offset).isTypeDependent = false ∧
      (expr.instantiate work depth offset).typeOf work.scope = expr.typeOf work.scope ∧
      (expr.instantiate work depth offset).category work.scope = expr.category work.scope := by
  have alike := work.alike_instantiate depth offset unspecialized independent bound
  refine ⟨alike.independent, ?_, alike.sameCategory⟩
  rw [Expr.typeOf_eq_plainType alike.independent, Expr.typeOf_eq_plainType independent]
  exact alike.sameType

/-- The call `f(N, sizeof...(Ns))` of a name with two overloads. -/
def sizedCall : Expr :=
  .of (.call (.of (.overloads ⟨[⟨0⟩, ⟨1⟩], "f", none⟩))
    [.of (.templateRef ⟨⟨0, 0⟩, false⟩ (.fundamental .int)),
      .of (.unary .sizeofPack (.of (.templateRef ⟨⟨0, 1⟩, true⟩ (.fundamental .int))))])

/-- The overloads that `sizedCall` names, which return different types. -/
def sizedTable : Table :=
  ⟨[⟨"f", [.fundamental .int], .fundamental .long, none, true⟩,
    ⟨"f", [.fundamental .int, .fundamental .sizeType], .fundamental .bool, none, true⟩], []⟩

/-- A value for `N`, and two for the pack `Ns`. -/
def sizedMap : Substitution :=
  ⟨[(⟨0, 0⟩, .single (.nonType (.integral 7) (.fundamental .int))),
    (⟨0, 1⟩, .pack [.nonType (.integral 1) (.fundamental .int),
      .nonType (.integral 2) (.fundamental .int)])]⟩

/-- A call with a parameter and the size of a pack as arguments has the type that its overload of
two parameters returns, before the parameters are bound and afterwards. -/
theorem instantiate_preserves_type_of_call :
    sizedCall.isTypeDependent = false ∧ sizedCall.Every (Form.WellBound sizedMap) ∧
      sizedCall.typeOf sizedTable.scope = .fundamental .bool ∧
      (sizedCall.instantiate ⟨sizedMap, none, sizedTable.scope⟩ 3 none).typeOf sizedTable.scope =
        .fundamental .bool := by
  have value : ∀ argument ∈ sizedMap.arguments ⟨0, 0⟩, argument.IsValueOf (.fundamental .int) :=
    List.forall_mem_singleton.mpr ⟨⟨_, rfl⟩, nofun⟩
  have values : ∀ argument ∈ sizedMap.arguments ⟨0, 1⟩, argument.IsValueOf (.fundamental .int) :=
    List.forall_mem_cons.mpr
      ⟨⟨⟨_, rfl⟩, nofun⟩, List.forall_mem_singleton.mpr ⟨⟨_, rfl⟩, nofun⟩⟩
  have bound : sizedCall.Every (Form.WellBound sizedMap) := by
    simp only [sizedCall, Expr.of, Expr.build, Expr.every_node, Form.children,
      List.forall_mem_cons, List.not_mem_nil, false_implies, implies_true, and_true]
    exact ⟨trivial, trivial, value, .inr ⟨2, rfl⟩, values⟩
  have before : sizedCall.typeOf sizedTable.scope = .fundamental .bool := rfl
  have kept := instantiate_preserves_type sizedCall ⟨sizedMap, none, sizedTable.scope⟩ 3 none rfl
    rfl bound
  exact ⟨rfl, bound, before, kept.2.1.trans before⟩

end ConstExpr
