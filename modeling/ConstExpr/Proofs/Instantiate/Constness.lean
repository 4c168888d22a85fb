import ConstExpr.Proofs.Instantiate.TypePreservation
import ConstExpr.Query.Constness

/-!
# Instantiation preserves constant expressions

A mention of a template parameter is constant whatever it will be bound to, and afterwards is judged
as the literal that takes its place; a literal and a cast are judged by their types, which change,
and a call by the function that it reaches, whose overload set is reduced. Without pack expansions,
and with parameters bound to what they are used as, a tree is a constant expression after an
instantiation exactly when it was before (`instantiate_preserves_constness`).
-/
namespace ConstExpr

namespace TemplateArgument

/-- The argument is a type other than the erroneous one. -/
def IsProperType (argument : TemplateArgument) : Prop :=
  ∃ given, argument = .type given ∧ given.isProblem = false

/-- The argument is a value other than the unknown one, in a type other than the erroneous one. -/
def IsProperValue (argument : TemplateArgument) : Prop :=
  ∃ value given, argument = .nonType value given ∧ value ≠ .unknown ∧ given.isProblem = false

end TemplateArgument

/-- The parameters that decide whether the form is constant are bound to what they are used as: one
that is mentioned to values, and those in the type of a literal or of a cast to types. -/
def Form.BoundProperly (map : Substitution) : Form Expr → Prop
  | .templateRef parameter _ => ∀ argument ∈ map.arguments parameter.id, argument.IsProperValue
  | .fixed type .. | .construct type _ =>
    ∀ parameter ∈ type.parameters, ∀ argument ∈ map.arguments parameter.id, argument.IsProperType
  | _ => True

/-- A type becomes erroneous only when it is, if its parameters are bound to types that are not. -/
theorem Ty.isProblem_instantiate {map : Substitution} {offset : Option Nat} {type : Ty}
    (bound : ∀ parameter ∈ type.parameters, ∀ argument ∈ map.arguments parameter.id,
      argument.IsProperType) :
    (type.instantiate map offset).isProblem = type.isProblem := by
  cases type with
  | parameter mentioned =>
    rw [instantiate]
    cases replaced : map.argument? mentioned.id offset with
    | none => rfl
    | some argument =>
      obtain ⟨given, rfl, proper⟩ :=
        bound mentioned (List.mem_singleton_self _) argument (Substitution.mem_arguments replaced)
      exact proper
  | _ => rfl

section Targets

variable {scope : Scope} {callee callee' : Expr} {arguments arguments' : List Expr}

/-- The target of a call depends on the candidates of its callee, on the number of its arguments,
and on whether one of them is an expansion. -/
theorem Scope.target_congr
    (candidates : callee.overloadSet?.map OverloadSet.candidates =
      callee'.overloadSet?.map OverloadSet.candidates)
    (expansions : arguments.any Expr.isExpansion = arguments'.any Expr.isExpansion)
    (lengths : arguments.length = arguments'.length) :
    scope.target callee arguments = scope.target callee' arguments' := by
  have sameSet : (callee.overloadSet?.bind fun set => scope.resolve set arguments.length) =
      callee'.overloadSet?.bind fun set => scope.resolve set arguments'.length := by
    rw [lengths]
    cases named : callee.overloadSet? with
    | none =>
      rw [named] at candidates
      rw [Option.map_eq_none_iff.mp candidates.symm]
    | some set =>
      rw [named] at candidates
      obtain ⟨set', named', same⟩ := Option.map_eq_some_iff.mp candidates.symm
      rw [named', Option.bind_some, Option.bind_some, resolve, resolve, same]
  rw [target, target, expansions, sameSet]

end Targets

namespace Instantiation

variable {work : Instantiation} {depth : Nat} {offset : Option Nat} {expr : Expr}

/-- Outside of a specialization a tree names the same candidates as before, or none as before. -/
theorem candidates_instantiate (unspecialized : work.within = none) :
    (expr.instantiate work depth offset).overloadSet?.map OverloadSet.candidates =
      expr.overloadSet?.map OverloadSet.candidates := by
  cases depth with
  | zero => rfl
  | succ depth =>
    cases mentions : expr.mentionsParameter with
    | false => rw [instantiate_of_silent unspecialized mentions]
    | true =>
      have outcome := work.outcome depth offset unspecialized mentions
      generalize expr.instantiate work (depth + 1) offset = result at outcome ⊢
      cases outcome with
      | @stable form template result stable reformed =>
        obtain ⟨_, rfl⟩ := reformed.eq_node
        cases form <;> rfl
      | _ => rfl

/-- A call of which no argument is an expansion reaches the same function as before. -/
theorem target_instantiate (unspecialized : work.within = none) (callee : Expr)
    (arguments : List Expr) :
    work.scope.target (callee.instantiate work depth offset)
        (arguments.map (Expr.instantiate work depth offset)) =
      work.scope.target callee arguments := by
  have each : Expr.isExpansion ∘ Expr.instantiate work depth offset = Expr.isExpansion :=
    funext (isExpansion_instantiate work depth offset)
  refine Scope.target_congr (candidates_instantiate unspecialized) ?_ (List.length_map _)
  rw [List.any_map, each]

/-- A list of which each element stays constant or not stays so. -/
theorem allConstant_map {exprs : List Expr} {change : Expr → Expr}
    (same : ∀ expr ∈ exprs, (change expr).isConstant work.scope = expr.isConstant work.scope) :
    Expr.allConstant work.scope (exprs.map change) = Expr.allConstant work.scope exprs := by
  induction exprs with
  | nil => rfl
  | cons expr exprs ih =>
    obtain ⟨head, tail⟩ := List.forall_mem_cons.mp same
    rw [List.map_cons, Expr.allConstant, Expr.allConstant, head, ih tail]

/-- A tree without pack expansions is none. -/
theorem plain_of_every (plain : expr.Every fun form => form.hidesPacks = false) :
    expr.isExpansion = false := by
  obtain ⟨form, template⟩ := expr
  cases form with
  | expansion => exact absurd plain.root Bool.noConfusion
  | _ => rfl

/-- An instantiated form is constant when the form is, if its children stay constant or not. -/
theorem isConstantForm_instantiated {form : Form Expr} {template : Option TemplateId}
    (unspecialized : work.within = none)
    (plain : (Expr.node form template).Every fun form => form.hidesPacks = false)
    (bound : form.BoundProperly work.map)
    (same : ∀ child ∈ form.children,
      (child.instantiate work depth offset).isConstant work.scope = child.isConstant work.scope) :
    Expr.isConstantForm work.scope (form.instantiated work depth offset) =
      Expr.isConstantForm work.scope form := by
  have listed : ∀ exprs : List Expr, (∀ expr ∈ exprs, expr ∈ form.children) →
      exprs.flatMap (work.listed depth offset) = exprs.map (Expr.instantiate work depth offset) :=
    fun _ among => flatMap_listed_of_plain fun expr member =>
      plain_of_every (plain.child (among expr member))
  have constants : ∀ exprs : List Expr, (∀ expr ∈ exprs, expr ∈ form.children) →
      Expr.allConstant work.scope (exprs.flatMap (work.listed depth offset)) =
        Expr.allConstant work.scope exprs := fun exprs among => by
    rw [listed exprs among, allConstant_map fun expr member => same expr (among expr member)]
  cases form with
  | fixed type value category =>
    rw [Form.instantiated, Expr.isConstantForm, Expr.isConstantForm, Ty.isProblem_instantiate bound]
  | comma operands | braced operands => exact constants operands fun _ => id
  | construct type arguments =>
    rw [Form.instantiated, Expr.isConstantForm, Expr.isConstantForm,
      constants arguments fun _ => id, Ty.isProblem_instantiate bound]
  | call callee arguments =>
    have among : ∀ argument ∈ arguments, argument ∈ (Form.call callee arguments).children :=
      fun _ => List.mem_cons_of_mem _
    rw [Form.instantiated, Expr.isConstantForm, Expr.isConstantForm, constants arguments among,
      listed arguments among, Scope.targetDecl, Scope.targetDecl, target_instantiate unspecialized]
  | unary | binary | conditional | expansion =>
    simp only [Form.children, List.forall_mem_cons] at same
    simp only [Form.instantiated, Expr.isConstantForm, same]
  | _ => rfl

end Instantiation

/-- A tree is a constant expression after an instantiation without a specialization exactly when it
was before, whatever the offset and the depth, when nothing in it is a pack expansion or the size of
a pack and when the substitution binds parameters, as far as it does, to what they are used as. -/
theorem instantiate_preserves_constness (expr : Expr) (work : Instantiation) (depth : Nat)
    (offset : Option Nat) (unspecialized : work.within = none)
    (plain : expr.Every fun form => form.hidesPacks = false)
    (bound : expr.Every (Form.BoundProperly work.map)) :
    (expr.instantiate work depth offset).isConstant work.scope = expr.isConstant work.scope := by
  induction depth generalizing expr with
  | zero => rfl
  | succ depth ih =>
    cases mentions : expr.mentionsParameter with
    | false => rw [Instantiation.instantiate_of_silent unspecialized mentions]
    | true =>
      have outcome := work.outcome depth offset unspecialized mentions
      generalize expr.instantiate work (depth + 1) offset = result at outcome ⊢
      cases outcome with
      | @stable form template result stable reformed =>
        obtain ⟨_, rfl⟩ := reformed.eq_node
        exact Instantiation.isConstantForm_instantiated unspecialized plain bound.root
          fun child member => ih child (plain.child member) (bound.child member)
      | value replaced =>
        obtain ⟨value, given, same, known, proper⟩ :=
          bound.root _ (Substitution.mem_arguments replaced)
        obtain ⟨rfl, rfl⟩ := TemplateArgument.nonType.inj same
        change (!Ty.isProblem _ && _ != _) = true
        rw [proper, bne_iff_ne.mpr known]
        rfl
      | mismatch replaced =>
        obtain ⟨_, _, same, -⟩ := bound.root _ (Substitution.mem_arguments replaced)
        contradiction
      | selected => rfl
      | measured | unmeasured => exact absurd plain.root Bool.noConfusion
      | @call callee arguments template =>
        have reached := Instantiation.isConstantForm_instantiated unspecialized plain bound.root
          fun child member => ih child (plain.child member) (bound.child member)
        refine Eq.trans ?_ reached
        rw [Expr.derive, Expr.build, Expr.isConstant, Form.instantiated, Expr.isConstantForm,
          Expr.isConstantForm, Scope.targetDecl, Scope.targetDecl, Instantiation.target_narrow]

/-- The call `f(N, T(3))` of the name that `sizedTable` declares twice. -/
def castCall : Expr :=
  .of (.call (.of (.overloads ⟨[⟨0⟩, ⟨1⟩], "f", none⟩))
    [.of (.templateRef ⟨⟨0, 0⟩, false⟩ (.fundamental .int)),
      .of (.construct (.parameter ⟨⟨0, 1⟩, false⟩) [.int 3])])

/-- A value for `N`, and the type `long` for `T`. -/
def castMap : Substitution :=
  ⟨[(⟨0, 0⟩, .single (.nonType (.integral 7) (.fundamental .int))),
    (⟨0, 1⟩, .single (.type (.fundamental .long)))]⟩

/-- A call with a value and a cast to a type as arguments is a constant expression before both are
bound and afterwards. -/
theorem instantiate_preserves_constness_of_call :
    castCall.Every (fun form => form.hidesPacks = false) ∧
      castCall.Every (Form.BoundProperly castMap) ∧
      castCall.isConstant sizedTable.scope = true ∧
      (castCall.instantiate ⟨castMap, none, sizedTable.scope⟩ 3 none).isConstant
        sizedTable.scope = true := by
  have plain : castCall.Every fun form => form.hidesPacks = false := by
    simp only [castCall, Expr.int, Expr.literal, Expr.of, Expr.build, Expr.every_node,
      Form.children, List.forall_mem_cons, List.not_mem_nil, false_implies, implies_true, and_true,
      Form.hidesPacks]
  have value : ∀ argument ∈ castMap.arguments ⟨0, 0⟩, argument.IsProperValue :=
    List.forall_mem_singleton.mpr ⟨_, _, rfl, Value.noConfusion, rfl⟩
  have type : ∀ argument ∈ castMap.arguments ⟨0, 1⟩, argument.IsProperType :=
    List.forall_mem_singleton.mpr ⟨_, rfl, rfl⟩
  have bound : castCall.Every (Form.BoundProperly castMap) := by
    simp only [castCall, Expr.int, Expr.literal, Expr.of, Expr.build, Expr.every_node,
      Form.children, List.forall_mem_cons, List.not_mem_nil, false_implies, implies_true, and_true]
    exact ⟨trivial, trivial, value, List.forall_mem_singleton.mpr type, List.forall_mem_nil _⟩
  have before : castCall.isConstant sizedTable.scope = true := rfl
  have kept := instantiate_preserves_constness castCall ⟨castMap, none, sizedTable.scope⟩ 3 none rfl
    plain bound
  exact ⟨plain, bound, before, kept.trans before⟩

end ConstExpr
