import ConstExpr.Proofs.Evaluate.Likeness
import ConstExpr.Proofs.Evaluate.TypeSafety

/-!
# Arguments in the place of parameters

To evaluate a tree with literals for the parameters of the function is to evaluate, without any, the
tree in which the literals take the place of the mentions (`evaluate_binds`). The evaluation goes on
to bodies and initializers that have mentions of their own, and to those nothing is passed on: what
is bound to a parameter counts only where the tree itself mentions it.
-/
namespace ConstExpr

open Evaluation

/-- The argument that takes the place of a node of the form: the one that a parameter is bound to,
unless it is a pack. -/
def Form.argument? {α β : Type} (arguments : List β) : Form α → Option β
  | parameterRef position _ false => arguments[position]?
  | _ => none

namespace Expr

mutual

/-- The tree with the arguments in the place of the mentions of parameters, also in expansions. -/
def bind (arguments : List Expr) : Expr → Expr
  | node form template => (form.argument? arguments).getD (node (bindForm arguments form) template)

/-- The form with the arguments in the place of mentions below it. -/
def bindForm (arguments : List Expr) : Form Expr → Form Expr
  | .unary operator operand => .unary operator (bind arguments operand)
  | .binary operator left right => .binary operator (bind arguments left) (bind arguments right)
  | .conditional condition positive negative =>
    .conditional (bind arguments condition) (bind arguments positive) (bind arguments negative)
  | .comma operands => .comma (bindAll arguments operands)
  | .call callee operands => .call (bind arguments callee) (bindAll arguments operands)
  | .braced clauses => .braced (bindAll arguments clauses)
  | .construct type operands => .construct type (bindAll arguments operands)
  | .expansion pattern => .expansion (bind arguments pattern)
  | form => form

/-- The trees with the arguments in the place of mentions. -/
def bindAll (arguments : List Expr) : List Expr → List Expr
  | [] => []
  | expr :: exprs => bind arguments expr :: bindAll arguments exprs

end

variable {arguments : List Expr} {form : Form Expr} {template : Option TemplateId}

/-- Arguments take their places in each tree of a list. -/
theorem bindAll_eq (exprs : List Expr) : bindAll arguments exprs = exprs.map (bind arguments) := by
  induction exprs with
  | nil => rfl
  | cons expr exprs ih => rw [bindAll, ih, List.map_cons]

/-- Arguments take their places in each child of a form. -/
theorem bindForm_eq (form : Form Expr) : bindForm arguments form = form.map (bind arguments) := by
  cases form <;> simp only [bindForm, bindAll_eq, Form.map]

/-- A node other than the mention of a bound parameter stays, with the arguments in its children. -/
theorem bind_of_unbound (unbound : form.argument? arguments = none) :
    (node form template).bind arguments = node (form.map (bind arguments)) template := by
  rw [bind, unbound, Option.getD_none, bindForm_eq]

/-- The mention of a bound parameter becomes the argument. -/
theorem bind_of_bound {argument : Expr} (bound : form.argument? arguments = some argument) :
    (node form template).bind arguments = argument := by
  rw [bind, bound, Option.getD_some]

end Expr

namespace Form

/-- The argument of a mentioned parameter has the declared type, which is no reference. -/
def SuitsArguments (scope : Scope) (arguments : List Expr) : Form Expr → Prop
  | parameterRef position type false => ∀ argument, arguments[position]? = some argument →
    argument.typeOf scope = type ∧ ∀ kind referee, type ≠ .reference kind referee
  | _ => True

/-- A parameter that the form mentions is bound to the same in both lists. -/
def BindsSame (arguments others : List Expr) (form : Form Expr) : Prop :=
  form.argument? arguments = form.argument? others

variable {α β : Type} {form : Form α} {arguments : List β}

/-- Only mentions of parameters, none of a pack, are bound. -/
theorem argument?_eq_some {argument : β} : form.argument? arguments = some argument ↔
    ∃ position type, form = parameterRef position type false ∧
      arguments[position]? = some argument := by
  unfold argument?
  split <;> simp_all

/-- The children of a form with other children are those. -/
theorem children_map (change : α → β) (form : Form α) :
    (form.map change).children = form.children.map change := by
  cases form <;> rfl

end Form

/-- Both are the same expression, or neither is a literal and both name the same overload set or
none. -/
inductive Expr.Matches : Expr → Expr → Prop where
  /-- The same expression. -/
  | same (expr : Expr) : Matches expr expr
  /-- Expressions other than literals. -/
  | unfixed {expr expr' : Expr} (unfixed : expr.isFixed = false) (unfixed' : expr'.isFixed = false)
    (named : expr.overloadSet? = expr'.overloadSet?) : Matches expr expr'

/-- To match relates literals to themselves alone. -/
theorem Expr.matches_strict : Expr.IsStrict Expr.Matches where
  reflexive _ _ _ _ := .same _
  literal alike isFixed := by
    cases alike with
    | same => rfl
    | unfixed unfixed => rw [unfixed] at isFixed; contradiction
  isFixed alike := by
    cases alike with
    | same => rfl
    | unfixed unfixed unfixed' => rw [unfixed, unfixed']
  overloadSet alike := by
    cases alike with
    | same => rfl
    | unfixed _ _ named => exact named

/-- No literal is converted to a type that is not scalar. -/
theorem Expr.convertTo_unscalar {type : Ty} {expr : Expr}
    (unscalar : type.withoutReference.isScalar = false) : expr.convertTo type = expr := by
  obtain ⟨form, template⟩ := expr
  cases form with
  | fixed => simp [convertTo, Expr.form, unscalar]
  | _ => rfl

/-- A type-dependent choice has a type of its own. -/
theorem Expr.typeOf_dependent_conditional (scope : Scope) {condition positive negative : Expr}
    {template : Option TemplateId} {expr : Expr}
    (choice : expr = node (.conditional condition positive negative) template)
    (dependent : expr.isTypeDependent = true) :
    expr.typeOf scope = .dependentExpression (signature expr) := by
  subst choice
  simp only [typeOf, formType, dependent, if_true]

section Types

variable {scope : Scope} {arguments : List Expr} {expr : Expr}

/-- A form has the same plain type with other children of the same plain types, when they name the
same overload sets and the same of them are expansions. -/
theorem Expr.plainFormType_map {form : Form Expr} {change : Expr → Expr}
    (types : ∀ child ∈ form.children, (change child).plainType scope = child.plainType scope)
    (sets : ∀ child, (change child).overloadSet? = child.overloadSet?)
    (expansions : ∀ child, (change child).isExpansion = child.isExpansion) :
    plainFormType scope (form.map change) = plainFormType scope form := by
  cases form with
  | comma operands =>
    rw [Form.map, plainFormType, plainFormType]
    induction operands with
    | nil => rfl
    | cons head tail ih =>
      obtain ⟨headSame, tailSame⟩ := List.forall_mem_cons.mp types
      cases tail with
      | nil => exact headSame
      | cons next rest => exact ih tailSame
  | call callee operands =>
    have reached : scope.targetDecl (change callee) (operands.map change) =
        scope.targetDecl callee operands := by
      have each : Expr.isExpansion ∘ change = Expr.isExpansion := funext expansions
      rw [Scope.targetDecl, Scope.targetDecl, Scope.target, Scope.target, List.any_map, each, sets,
        List.length_map]
    rw [Form.map, plainFormType, plainFormType, reached]
  | _ =>
    simp only [Form.children, List.forall_mem_cons] at types
    simp only [Form.map, plainFormType, types]

variable (literals : ∀ argument ∈ arguments, argument.isFixed = true)

include literals

/-- An argument that takes the place of a node is a literal. -/
theorem Form.isFixed_argument? {form : Form Expr} {argument : Expr}
    (bound : form.argument? arguments = some argument) : argument.isFixed = true := by
  obtain ⟨position, type, -, found⟩ := argument?_eq_some.mp bound
  exact literals argument (List.mem_of_getElem? found)

/-- With the arguments in their places, a tree names the same overload set and is an expansion when
it is one. -/
theorem Expr.named_bind (expr : Expr) :
    (expr.bind arguments).overloadSet? = expr.overloadSet? ∧
      (expr.bind arguments).isExpansion = expr.isExpansion := by
  obtain ⟨form, template⟩ := expr
  cases bound : form.argument? arguments with
  | none =>
    rw [bind_of_unbound bound]
    cases form <;> exact ⟨rfl, rfl⟩
  | some argument =>
    rw [bind_of_bound bound]
    obtain ⟨type, value, category, _, rfl⟩ :=
      exists_of_isFixed (Form.isFixed_argument? literals bound)
    obtain ⟨position, _, rfl, -⟩ := Form.argument?_eq_some.mp bound
    exact ⟨rfl, rfl⟩

/-- The literal that takes the place of a mention has the declared type. -/
theorem Form.SuitsArguments.argument {form : Form Expr}
    (suits : form.SuitsArguments scope arguments) {argument : Expr}
    (bound : form.argument? arguments = some argument) :
    ∃ position type value category template, form = .parameterRef position type false ∧
      argument = .node (.fixed type value category) template ∧
        ∀ kind referee, type ≠ .reference kind referee := by
  have isFixed := isFixed_argument? literals bound
  obtain ⟨position, type, rfl, found⟩ := argument?_eq_some.mp bound
  obtain ⟨sameType, direct⟩ := suits argument found
  obtain ⟨_, value, category, template, rfl⟩ := Expr.exists_of_isFixed isFixed
  obtain rfl : _ = type := sameType
  exact ⟨position, _, value, category, template, rfl, rfl, direct⟩

/-- A tree is type-dependent with the arguments in their places exactly when it is. -/
theorem Expr.isTypeDependent_bind (suits : expr.Every (Form.SuitsArguments scope arguments)) :
    (expr.bind arguments).isTypeDependent = expr.isTypeDependent := by
  induction expr using Expr.induction with
  | step form template ih =>
    cases bound : form.argument? arguments with
    | some argument =>
      rw [bind_of_bound bound]
      obtain ⟨_, type, _, _, _, rfl, rfl, -⟩ := suits.root.argument literals bound
      simp [isTypeDependent, anyForm, anyChild, Form.isTypeDependent]
    | none =>
      rw [bind_of_unbound bound, isTypeDependent, isTypeDependent, anyForm_eq, anyForm_eq,
        Form.children_map, List.any_map]
      have own : (form.map (bind arguments)).isTypeDependent = form.isTypeDependent := by
        cases form <;> rfl
      rw [own]
      congr 1
      rw [Bool.eq_iff_iff, List.any_eq_true, List.any_eq_true]
      refine exists_congr fun child => and_congr_right fun member => ?_
      rw [Function.comp_apply]
      exact Bool.eq_iff_iff.mp (ih child member (suits.child member))

/-- A tree has the same plain type with the arguments in their places. -/
theorem Expr.plainType_bind (suits : expr.Every (Form.SuitsArguments scope arguments)) :
    (expr.bind arguments).plainType scope = expr.plainType scope := by
  induction expr using Expr.induction with
  | step form template ih =>
    cases bound : form.argument? arguments with
    | some argument =>
      rw [bind_of_bound bound]
      obtain ⟨_, type, _, _, _, rfl, rfl, direct⟩ := suits.root.argument literals bound
      exact (Ty.withoutReference_of_direct direct).symm
    | none =>
      rw [bind_of_unbound bound]
      exact plainFormType_map (fun child member => ih child member (suits.child member))
        (fun child => (child.named_bind literals).1) (fun child => (child.named_bind literals).2)

/-- A choice has the same type with the arguments in their places, unless it is type-dependent and
so has a type that no literal is converted to. -/
theorem Expr.converts_bind {form : Form Expr} {template : Option TemplateId}
    (suits : (node form template).Every (Form.SuitsArguments scope arguments))
    {condition positive negative : Expr}
    (choice : form = .conditional condition positive negative) :
    ConvertsAlike Matches ((node form template).typeOf scope)
      (((node form template).bind arguments).typeOf scope) := by
  subst choice
  have sameDependence := isTypeDependent_bind literals suits
  cases dependent : (node (.conditional condition positive negative) template).isTypeDependent with
  | false =>
    rw [typeOf_eq_plainType dependent, typeOf_eq_plainType (sameDependence.trans dependent),
      plainType_bind literals suits]
    exact matches_strict.converts _
  | true =>
    intro expr expr' alike
    rwa [typeOf_dependent_conditional scope rfl dependent,
      typeOf_dependent_conditional scope (bind_of_unbound rfl) (sameDependence.trans dependent),
      convertTo_unscalar rfl, convertTo_unscalar rfl]

end Types

/-- To be equal is strict. -/
theorem Expr.eq_strict : Expr.IsStrict Eq where
  reflexive _ _ _ _ := rfl
  literal same _ := same
  isFixed same := same ▸ rfl
  overloadSet same := same ▸ rfl

section Evaluate

variable {scope : Scope} {arguments : List Expr} {expr : Expr}

/-- Calls in one scope are alike for arguments that are so strictly: known arguments are the same,
and the evaluation of a body goes in lock-step with itself. -/
theorem callsAlike_of_strict {like : Expr → Expr → Prop} (strict : Expr.IsStrict like)
    (reflexive : ∀ expr, like expr expr) (recur : List Expr → Expr → Evaluation Expr) :
    CallsAlike LockStep like scope scope recur recur where
  callee _ _ _ := rfl
  returned _ _ _ := strict.converts _
  body _ _ _ alike known := by
    rw [strict.eq_of_known alike known]
    exact .refl reflexive _

/-- The evaluation of a tree goes in lock-step with that of the tree with the arguments in their
places. -/
theorem evaluate_bind (literals : ∀ argument ∈ arguments, argument.isFixed = true)
    (suits : expr.Every (Form.SuitsArguments scope arguments)) :
    LockStep Expr.Matches (expr.evaluate scope arguments)
      ((expr.bind arguments).evaluate scope []) := by
  induction expr using Expr.induction with
  | step form template ih =>
    rw [evaluate_eq, evaluate_eq]
    refine lockStep_simulation.bind lockStep_simulation.step fun _ _ _ => ?_
    cases bound : form.argument? arguments with
    | some argument =>
      obtain ⟨position, type, rfl, found⟩ := Form.argument?_eq_some.mp bound
      obtain ⟨_, _, _, _, isLiteral⟩ :=
        Expr.exists_of_isFixed (literals argument (List.mem_of_getElem? found))
      rw [Expr.bind_of_bound bound, isLiteral]
      simp only [evaluateNode, Expr.form, found, isLiteral, Bool.false_eq_true, if_false,
        Option.getD_some]
      exact lockStep_simulation.pure (.same _)
    | none =>
      rw [Expr.bind_of_unbound bound]
      have inner (entered : form.isEntered = true) : LockStep Expr.Matches
          (evaluateNode scope (fun arguments expr => expr.evaluate scope arguments) arguments
            (.node form template))
          (evaluateNode scope (fun arguments expr => expr.evaluate scope arguments) []
            (.node (form.map (Expr.bind arguments)) template)) :=
        evaluateNode_strict lockStep_simulation Expr.matches_strict
          (callsAlike_of_strict Expr.matches_strict .same _) rfl
          (fun parallel => by cases parallel <;> exact .unfixed rfl rfl rfl)
          (Form.parallel_map entered fun child member => ih child member (suits.child member))
          fun _ _ _ choice => by
            rw [← Expr.bind_of_unbound bound]
            exact Expr.converts_bind literals suits choice
      cases form with
      | fixed | templateRef | overloads | typeTrait => exact lockStep_simulation.pure (.same _)
      | parameterRef position type isPack =>
        cases isPack with
        | true => exact lockStep_simulation.pure (.same _)
        | false =>
          have unbound : arguments[position]? = none := bound
          simp only [evaluateNode, Expr.form, unbound]
          exact lockStep_simulation.pure (.same _)
      | variableRef id type => exact .refl .same _
      | expansion => exact lockStep_simulation.pure (.unfixed rfl rfl rfl)
      | _ => exact inner rfl

/-- An evaluation is the same with other parameters that a tree mentions bound to the same. -/
theorem evaluate_bindsSame {others : List Expr}
    (same : expr.Every (Form.BindsSame arguments others)) :
    expr.evaluate scope arguments = expr.evaluate scope others := by
  induction expr using Expr.induction with
  | step form template ih =>
    rw [evaluate_eq, evaluate_eq]
    refine bind_congr fun _ => ?_
    have own : form.argument? arguments = form.argument? others := same.root
    have inner (entered : form.isEntered = true) : LockStep Eq
        (evaluateNode scope (fun arguments expr => expr.evaluate scope arguments) arguments
          (.node form template))
        (evaluateNode scope (fun arguments expr => expr.evaluate scope arguments) others
          (.node form template)) := by
      refine evaluateNode_strict lockStep_simulation Expr.eq_strict
        (callsAlike_of_strict Expr.eq_strict (fun _ => rfl) _) rfl (fun parallel => ?_)
        (Form.parallel_self entered fun child member => ?_) fun _ _ _ _ => Expr.eq_strict.converts _
      · rw [parallel.eq_of_children (List.forall₂_eq_eq_eq ▸ parallel.children)]
      · rw [ih child member (same.child member)]
        exact .refl (fun _ => rfl) _
    cases form with
    | parameterRef position type isPack =>
      cases isPack with
      | true => rfl
      | false =>
        simp only [evaluateNode, Expr.form]
        rw [show arguments[position]? = others[position]? from own]
    | fixed | templateRef | variableRef | typeTrait | overloads | expansion => rfl
    | _ => exact (inner rfl).eq fun _ _ => id

end Evaluate

/-- To evaluate a tree with literals for the parameters is, step by step, to evaluate it without any
after the literals have taken the places of the mentions, and parameters that the tree does not
mention make no difference, whatever bodies and initializers mention. -/
theorem evaluate_binds (scope : Scope) (arguments : List Expr) (expr : Expr)
    (literals : ∀ argument ∈ arguments, argument.isFixed = true)
    (suits : expr.Every (Form.SuitsArguments scope arguments)) :
    LockStep Expr.Matches (expr.evaluate scope arguments)
        ((expr.bind arguments).evaluate scope []) ∧
      ∀ others, expr.Every (Form.BindsSame arguments others) →
        expr.evaluate scope arguments = expr.evaluate scope others :=
  ⟨evaluate_bind literals suits, fun _ same => evaluate_bindsSame same⟩

/-- The call `factorial(n)` in a function whose second parameter is `n`. -/
def factorialOfSecond : Expr := factorialCall (.of (.parameterRef 1 (.fundamental .int) false))

/-- The first argument of the caller does not reach the first parameter of `factorial`. -/
theorem evaluate_binds_of_factorial :
    (∀ argument ∈ [Expr.int 9, Expr.int 3], argument.isFixed = true) ∧
      factorialOfSecond.Every
        (Form.SuitsArguments factorialTable.scope [Expr.int 9, Expr.int 3]) ∧
      factorialOfSecond.Every (Form.BindsSame [Expr.int 9, Expr.int 3] [Expr.int 4, Expr.int 3]) ∧
      LockStep Expr.Matches
        (factorialOfSecond.evaluate factorialTable.scope [Expr.int 9, Expr.int 3])
        ((factorialCall (.int 3)).evaluate factorialTable.scope []) ∧
      factorialOfSecond.evaluate factorialTable.scope [Expr.int 9, Expr.int 3] =
        factorialOfSecond.evaluate factorialTable.scope [Expr.int 4, Expr.int 3] := by
  have every {property : Form Expr → Prop} (call : property factorialOfSecond.form)
      (callee : ∀ set, property (.overloads set))
      (mention : property (.parameterRef 1 (.fundamental .int) false)) :
      factorialOfSecond.Every property :=
    Expr.every_node.mpr ⟨call, List.forall_mem_cons.mpr
      ⟨Expr.every_node.mpr ⟨callee _, List.forall_mem_nil _⟩, List.forall_mem_singleton.mpr
        (Expr.every_node.mpr ⟨mention, List.forall_mem_nil _⟩)⟩⟩
  have literals : ∀ argument ∈ [Expr.int 9, Expr.int 3], argument.isFixed = true := by
    simp [Expr.isFixed, Expr.int, Expr.literal, Expr.of, Expr.build, Expr.fixedValue?, Expr.form]
  have suits : factorialOfSecond.Every
      (Form.SuitsArguments factorialTable.scope [Expr.int 9, Expr.int 3]) := by
    refine every trivial (fun _ => trivial) fun argument bound => ?_
    obtain rfl : Expr.int 3 = argument := Option.some.inj bound
    exact ⟨rfl, fun _ _ => Ty.noConfusion⟩
  have same : factorialOfSecond.Every
      (Form.BindsSame [Expr.int 9, Expr.int 3] [Expr.int 4, Expr.int 3]) :=
    every rfl (fun _ => rfl) rfl
  obtain ⟨together, unaffected⟩ := evaluate_binds factorialTable.scope [Expr.int 9, Expr.int 3]
    factorialOfSecond literals suits
  exact ⟨literals, suits, same, together, unaffected _ same⟩

end ConstExpr
