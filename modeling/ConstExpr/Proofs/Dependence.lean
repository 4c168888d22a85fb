import ConstExpr.Instantiate
import ConstExpr.Proofs.Tree

/-!
# Dependence and mentions of template parameters

A tree is value-dependent for what its types, values and children are, and an instantiation goes
into the trees that mention a template parameter. Whatever mentions a parameter is dependent, so
outside of a specialization an instantiation keeps every tree that is not value-dependent
(`instantiate_keeps_independent`).
-/
namespace ConstExpr

namespace TemplateArgument

/-- An argument that mentions a template parameter is dependent. -/
theorem isDependent_of_mentionsParameter {argument : TemplateArgument}
    (mentions : argument.mentionsParameter = true) : argument.isDependent = true := by
  cases argument with
  | type given => exact Ty.isDependent_of_mentionsParameter mentions
  | nonType value given =>
    simp only [isDependent, Ty.isDependent_of_mentionsParameter mentions, Bool.or_true]

end TemplateArgument

/-- A form that mentions a template parameter makes its node dependent. -/
theorem Form.dependent_of_mentionsParameter {form : Form Expr}
    (mentions : form.mentionsParameter = true) :
    (form.isTypeDependent || form.isValueDependent) = true := by
  cases form with
  | fixed | parameterRef | variableRef | typeTrait | construct =>
    simp [isTypeDependent, isValueDependent, Ty.isDependent_of_mentionsParameter mentions]
  | templateRef => exact Bool.or_true _
  | overloads set =>
    obtain ⟨argument, member, mention⟩ := List.any_eq_true.mp mentions
    have dependent : set.isDependent = true :=
      List.any_eq_true.mpr ⟨argument, member, argument.isDependent_of_mentionsParameter mention⟩
    simp [isTypeDependent, isValueDependent, dependent]
  | _ => contradiction

namespace Expr

variable {expr : Expr}

/-- A tree that mentions a template parameter is value-dependent. -/
theorem isValueDependent_of_mentionsParameter (mentions : expr.mentionsParameter = true) :
    expr.isValueDependent = true :=
  anyForm_mono (fun _ => Form.dependent_of_mentionsParameter) mentions

end Expr

namespace Instantiation

variable {work : Instantiation} {expr : Expr} {depth : Nat} {offset : Option Nat}

/-- Outside of a specialization nothing happens to the trees without a template parameter. -/
theorem spares_eq (unspecialized : work.within = none) :
    work.spares expr = !expr.mentionsParameter := by
  simp [spares, specializing, unspecialized]

/-- A tree to which nothing can happen is kept at every depth. -/
theorem substitute_of_spares (spared : work.spares expr = true) :
    work.substitute depth offset expr = none := by
  cases depth with
  | zero => rfl
  | succ depth => rw [substitute, if_pos spared]

end Instantiation

/-- Whatever mentions a template parameter is value-dependent. An instantiation without a
specialization keeps a tree that is not value-dependent: it builds no node anew, and the tree that
it answers is that tree. -/
theorem instantiate_keeps_independent (expr : Expr) :
    (expr.mentionsParameter = true → expr.isValueDependent = true) ∧
      (expr.isValueDependent = false → ∀ (work : Instantiation) (depth : Nat) (offset : Option Nat),
        work.within = none → work.substitute depth offset expr = none ∧
          expr.instantiate work depth offset = expr) := by
  refine ⟨Expr.isValueDependent_of_mentionsParameter,
    fun independent work depth offset unspecialized => ?_⟩
  have silent : expr.mentionsParameter = false := by
    cases mentions : expr.mentionsParameter with
    | false => rfl
    | true => rw [Expr.isValueDependent_of_mentionsParameter mentions] at independent; contradiction
  have spared : work.spares expr = true := by
    rw [Instantiation.spares_eq unspecialized, silent]
    rfl
  have kept : work.substitute depth offset expr = none := Instantiation.substitute_of_spares spared
  refine ⟨kept, ?_⟩
  rw [Expr.instantiate, kept, Option.getD_none]

/-- The sum `sizeof(int) + 1` is kept where a parameter is bound, and `N + 1` is value-dependent. -/
theorem instantiate_keeps_independent_of_measure :
    let sum (left : Expr) : Expr := .of (.binary (.arithmetic .add) left (.int 1))
    let measure := sum (.of (.typeTrait .sizeOf (.fundamental .int)))
    let work : Instantiation :=
      ⟨⟨[(⟨0, 0⟩, .single (.nonType (.integral 3) (.fundamental .int)))]⟩, none, Table.empty.scope⟩
    measure.isValueDependent = false ∧
      work.substitute defaultDepth none measure = none ∧
      measure.instantiate work defaultDepth none = measure ∧
      (sum (.of (.templateRef ⟨⟨0, 0⟩, false⟩ (.fundamental .int)))).isValueDependent = true := by
  intro sum measure work
  have independent : measure.isValueDependent = false := rfl
  have kept := (instantiate_keeps_independent measure).2 independent work defaultDepth none rfl
  exact ⟨independent, kept.1, kept.2, (instantiate_keeps_independent _).1 rfl⟩

end ConstExpr
