import ConstExpr.Proofs.Evaluate.Likeness
import ConstExpr.Proofs.Declarations

/-!
# Arguments that an evaluation does not tell apart

Expressions coincide when they are literals of the same type and value, whatever their categories
are, or when neither is a literal and both name the same overload set. Among declarations whose
types are known, an evaluation does not tell arguments that coincide apart (`evaluate_lockStep`).
-/
namespace ConstExpr

open Evaluation

/-- The evaluated expressions coincide: both are literals of the same type and value, or neither is
one and both name the same overload set or none. -/
inductive Expr.Coincides : Expr → Expr → Prop where
  /-- Literals of the same known type and the same value. -/
  | fixed {type : Ty} {value : Value} {category category' : Category}
    {template template' : Option TemplateId} (known : type.isDependent = false) :
    Coincides (.node (.fixed type value category) template)
      (.node (.fixed type value category') template')
  /-- Expressions other than literals. -/
  | unfixed {expr expr' : Expr} (unfixed : expr.fixedValue? = none)
    (unfixed' : expr'.fixedValue? = none) (named : expr.overloadSet? = expr'.overloadSet?) :
    Coincides expr expr'

namespace Expr

/-- To coincide is a likeness. -/
theorem coincides_likeness : IsLikeness Coincides where
  fixedValue coincides := by
    cases coincides with
    | fixed => rfl
    | unfixed unfixed unfixed' => rw [unfixed, unfixed']
  overloadSet coincides := by
    cases coincides with
    | fixed => rfl
    | unfixed _ _ named => exact named
  typeOf coincides isFixed _ _ := by
    cases coincides with
    | fixed => rfl
    | unfixed unfixed => rw [Expr.isFixed, unfixed] at isFixed; contradiction

namespace Coincides

variable {scope : Scope} {expr expr' : Expr}

/-- Literals that coincide have a known type. -/
theorem typed (coincides : expr.Coincides expr') (isFixed : expr.isFixed = true) :
    expr.isTypeDependent = false ∧ expr'.isTypeDependent = false ∧
      (expr.typeOf scope).isDependent = false := by
  cases coincides with
  | fixed independent =>
    exact ⟨independent_iff.mpr ⟨independent, List.forall_mem_nil _⟩,
      independent_iff.mpr ⟨independent, List.forall_mem_nil _⟩, independent⟩
  | unfixed unfixed => rw [Expr.isFixed, unfixed] at isFixed; contradiction

/-- An expression of a known type coincides with itself. -/
theorem refl (independent : expr.isTypeDependent = false) : expr.Coincides expr := by
  obtain ⟨form, template⟩ := expr
  cases form with
  | fixed => exact .fixed (independent_iff.mp independent).1
  | _ => exact .unfixed rfl rfl rfl

/-- Integers folded in the same known type coincide. -/
theorem folded (same : expr.typeOf scope = expr'.typeOf scope)
    (known : (expr.typeOf scope).isDependent = false) (value : Int) :
    (expr.folded scope value).Coincides (expr'.folded scope value) := by
  simp only [Expr.folded, same]
  rw [same] at known
  exact .fixed ((Ty.isDependent_withoutReference _).trans known)

/-- Expressions that coincide do so when they are converted to a known type. -/
theorem converts {type : Ty} (known : type.isDependent = false) :
    ConvertsAlike Coincides type type := by
  intro expr expr' coincides
  cases coincides with
  | fixed independent =>
    simp only [Expr.convertTo, form]
    split
    · exact .fixed ((Ty.isDependent_withoutReference _).trans known)
    · exact .fixed independent
  | unfixed unfixed unfixed' named =>
    rw [convertTo_of_unfixed unfixed, convertTo_of_unfixed unfixed']
    exact .unfixed unfixed unfixed' named

/-- All nodes make expressions that coincide of children that do. -/
theorem derives (scope : Scope) : DerivesAlike Coincides scope scope expr expr' where
  rebuilt parallel := by cases parallel <;> exact .unfixed rfl rfl rfl
  unary {operator operand operand'} coincides isFixed value := by
    obtain ⟨independent, independent', typeKnown⟩ : operand.isTypeDependent = false ∧
        operand'.isTypeDependent = false ∧ (operand.typeOf scope).isDependent = false :=
      coincides.typed isFixed
    refine .folded ?_ ?_ value
    · rw [Expr.derive, Expr.derive, Expr.build, Expr.build, Expr.typeOf_unary independent,
        Expr.typeOf_unary independent', coincides_likeness.typeOf coincides isFixed scope scope]
    · rw [Expr.derive, Expr.build, Expr.typeOf_unary independent]
      exact UnaryOperator.resultType_independent typeKnown
  binary {operator left left' right right'} lefts rights leftFixed rightFixed value := by
    obtain ⟨leftIndependent, leftIndependent', leftTypeKnown⟩ : left.isTypeDependent = false ∧
        left'.isTypeDependent = false ∧ (left.typeOf scope).isDependent = false :=
      lefts.typed leftFixed
    obtain ⟨rightIndependent, rightIndependent', -⟩ : right.isTypeDependent = false ∧
        right'.isTypeDependent = false ∧ (right.typeOf scope).isDependent = false :=
      rights.typed rightFixed
    refine .folded ?_ ?_ value
    · rw [Expr.derive, Expr.derive, Expr.build, Expr.build,
        Expr.typeOf_binary leftIndependent rightIndependent,
        Expr.typeOf_binary leftIndependent' rightIndependent',
        coincides_likeness.typeOf lefts leftFixed scope scope,
        coincides_likeness.typeOf rights rightFixed scope scope]
    · rw [Expr.derive, Expr.build, Expr.typeOf_binary leftIndependent rightIndependent]
      exact BinaryOperator.resultType_independent leftTypeKnown
  literal known _ := .fixed known

end Coincides

end Expr

/-- A mention of a parameter is bound by neither list of expressions or by ones that coincide. -/
def Form.BoundAlike (parameters parameters' : List Expr) : Form Expr → Prop
  | parameterRef position _ false =>
    Option.Rel Expr.Coincides parameters[position]? parameters'[position]?
  | _ => True

/-- Lists of expressions that coincide bind all mentions alike. -/
theorem Form.boundAlike_of_coincide {parameters parameters' : List Expr}
    (coincide : List.Forall₂ Expr.Coincides parameters parameters') (form : Form Expr) :
    form.BoundAlike parameters parameters' := by
  unfold BoundAlike
  split
  · next position _ =>
    induction coincide generalizing position with
    | nil => exact .none
    | cons first _ ih =>
      cases position with
      | zero => exact .some first
      | succ position => exact ih position
  · trivial

section SameNode

variable {related : {α β : Type} → (α → β → Prop) → Evaluation α → Evaluation β → Prop}
  {scope : Scope} {recur recur' : List Expr → Expr → Evaluation Expr}
  {parameters parameters' : List Expr}

/-- Calls of callees that coincide enter bodies that are evaluated alike for arguments that
coincide. -/
theorem coincides_calls (declarations : scope.IsIndependent)
    (bodies : ∀ id decl body bound bound', scope.functionDecl? id = some decl →
      decl.body = some body → List.Forall₂ Expr.Coincides bound bound' →
        related Expr.Coincides (recur bound body) (recur' bound' body)) :
    CallsAlike related Expr.Coincides scope scope recur recur' where
  callee _ _ _ := rfl
  returned _ _ entered := .converts (declarations.returns _ _ (callee?_ok entered).2.1)
  body _ _ entered coincide _ := by
    obtain ⟨-, declared, defined⟩ := callee?_ok entered
    exact bodies _ _ _ _ _ declared defined (Expr.IsLikeness.bound (fun type carried =>
      .converts (declarations.parameters _ _ declared type carried)) coincide)

/-- The evaluations of a node are related when those of its children, of bodies and of initializers
are. -/
theorem evaluateNode_simulated (simulation : Simulation related)
    (declarations : scope.IsIndependent) {expr : Expr} (independent : expr.isTypeDependent = false)
    (bound : expr.form.BoundAlike parameters parameters')
    (children : ∀ child ∈ expr.children,
      related Expr.Coincides (recur parameters child) (recur' parameters' child))
    (bodies : ∀ id decl body bound bound', scope.functionDecl? id = some decl →
      decl.body = some body → List.Forall₂ Expr.Coincides bound bound' →
        related Expr.Coincides (recur bound body) (recur' bound' body))
    (initializers : ∀ id initializer, scope.constantInitializer? id = some initializer →
      related Expr.Coincides (recur [] initializer) (recur' [] initializer)) :
    related Expr.Coincides (evaluateNode scope recur parameters expr)
      (evaluateNode scope recur' parameters' expr) := by
  have known := Expr.typeOf_independent declarations.returns independent
  obtain ⟨form, template⟩ := expr
  have own : form.isTypeDependent = false := (Expr.independent_iff.mp independent).1
  have kept : related Expr.Coincides (pure (Expr.node form template))
      (pure (Expr.node form template)) := simulation.pure (.refl independent)
  have inner (entered : form.isEntered = true) :
      related Expr.Coincides (evaluateNode scope recur parameters (.node form template))
        (evaluateNode scope recur' parameters' (.node form template)) :=
    evaluateNode_alike simulation Expr.coincides_likeness (Expr.Coincides.derives scope)
      (coincides_calls declarations bodies) (Form.parallel_self entered children)
      (fun _ _ _ _ => .converts known) fun _ _ _ => ⟨.converts, .folded rfl known 0⟩
  cases form with
  | fixed | templateRef | overloads | expansion => exact kept
  | parameterRef position type isPack =>
    cases isPack with
    | true => exact kept
    | false =>
      simp only [Expr.form, Form.BoundAlike] at bound
      simp only [evaluateNode, Expr.form, Bool.false_eq_true, if_false]
      generalize parameters[position]? = found, parameters'[position]? = found' at bound ⊢
      cases bound with
      | none => exact kept
      | some coincide => exact simulation.pure coincide
  | variableRef id type =>
    exact evaluateVariable_alike simulation rfl (.converts own) (fun _ => .refl independent)
      (initializers id)
  | typeTrait operator type =>
    refine simulation.pure ?_
    unfold evaluateTypeTrait
    split
    · exact .refl independent
    · split
      · exact .folded rfl known _
      · exact .refl independent
  | _ => exact inner rfl

end SameNode

/-- An evaluation goes in lock-step with itself for parameters that coincide where they are
mentioned. -/
theorem evaluate_lockStep {scope : Scope} (declarations : scope.IsIndependent)
    {parameters parameters' : List Expr} {expr : Expr} (independent : expr.isTypeDependent = false)
    (bound : expr.Every (Form.BoundAlike parameters parameters')) :
    LockStep Expr.Coincides (expr.evaluate scope parameters) (expr.evaluate scope parameters') := by
  let pairs (one other : List Expr × Expr) : Prop :=
    one.2 = other.2 ∧ one.2.isTypeDependent = false ∧ one.2.Every (Form.BoundAlike one.1 other.1)
  refine LockStep.evaluate pairs ?_ ⟨rfl, independent, bound⟩
  rintro recur recur' together parameters expr parameters' _ ⟨rfl, independent, bound⟩
  refine evaluateNode_simulated lockStep_simulation declarations independent
    (bound expr (.root expr)) (fun child member => ?_) ?_ ?_
  · obtain ⟨form, template⟩ := expr
    exact together parameters child parameters' child
      ⟨rfl, (Expr.independent_iff.mp independent).2 child member, bound.child member⟩
  · exact fun id decl body bound bound' declared defined coincide =>
      together bound body bound' body ⟨rfl, declarations.bodies id decl body declared defined,
        fun part _ => Form.boundAlike_of_coincide coincide part.form⟩
  · exact fun id initializer usable =>
      together [] initializer [] initializer ⟨rfl, declarations.initializers id initializer usable,
        fun part _ => Form.boundAlike_of_coincide .nil part.form⟩

end ConstExpr
