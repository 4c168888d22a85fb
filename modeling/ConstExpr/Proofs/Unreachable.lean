import ConstExpr.Proofs.Evaluate.Likeness
import ConstExpr.Proofs.Evaluate.ValueTypes
import ConstExpr.Proofs.Instantiate.Names
import ConstExpr.Query.Category
import ConstExpr.Query.Constness

/-!
# Declarations out of reach

Scopes that agree on everything that an expression reaches give the same answers about it
(`unreached_irrelevant`): what it is, what it evaluates to in how many steps, and what it is
instantiated to. The queries and the instantiation look up only what the tree itself names; the
evaluation goes on to bodies and initializers, and stays within what is reached.
-/
namespace ConstExpr

open Evaluation

/-- Only leaves name declarations. -/
theorem Form.Parallel.namesOnly {α β : Type} {related : α → β → Prop} {form : Form α}
    {form' : Form β} {known : DeclarationId → Prop} (parallel : Parallel related form form') :
    form.NamesOnly known := by
  cases parallel <;> rintro _ ⟨⟩

section Queries

variable {scope other : Scope}

/-- Lists of which each element is constant together are so together. -/
theorem Expr.allConstant_congr {exprs : List Expr}
    (same : ∀ expr ∈ exprs, expr.isConstant scope = expr.isConstant other) :
    allConstant scope exprs = allConstant other exprs := by
  induction exprs with
  | nil => rfl
  | cons expr exprs ih =>
    obtain ⟨head, tail⟩ := List.forall_mem_cons.mp same
    rw [allConstant, allConstant, head, ih tail]

/-- Lists of the same types have the same last type. -/
theorem Expr.plainLastType_congr {exprs : List Expr}
    (same : ∀ expr ∈ exprs, expr.plainType scope = expr.plainType other) :
    plainLastType scope exprs = plainLastType other exprs := by
  cases found : exprs.getLast? with
  | none => rw [List.getLast?_eq_none_iff.mp found, plainLastType, plainLastType]
  | some last =>
    rw [plainLastType_eq found, plainLastType_eq found, same last (List.mem_of_getLast? found)]

/-- Lists of the same categories have the same last category. -/
theorem Expr.lastCategory_congr {exprs : List Expr}
    (same : ∀ expr ∈ exprs, expr.category scope = expr.category other) :
    lastCategory scope exprs = lastCategory other exprs := by
  induction exprs with
  | nil => rfl
  | cons expr exprs ih =>
    obtain ⟨head, tail⟩ := List.forall_mem_cons.mp same
    cases exprs with
    | nil => exact head
    | cons => exact ih tail

variable {known : DeclarationId → Prop} (agree : scope.AgreeWithin other known) {expr : Expr}

include agree

/-- Trees of known names are constant expressions together. -/
theorem isConstant_within (named : expr.NamesOnly known) :
    expr.isConstant scope = expr.isConstant other := by
  induction expr using Expr.induction with
  | step form template ih =>
    have below : ∀ child ∈ form.children, child.isConstant scope = child.isConstant other :=
      fun child member => ih child member (named.child member)
    rw [Expr.isConstant, Expr.isConstant]
    cases form with
    | variableRef id type =>
      have found : scope.variableDecl? id = other.variableDecl? id :=
        agree.same _ (named.root _ (.mention id type))
      rw [Expr.isConstantForm, Expr.isConstantForm, found]
    | call callee arguments =>
      obtain ⟨-, below⟩ := List.forall_mem_cons.mp below
      have target := agree.targetDecl (named.child (List.mem_cons_self ..)) arguments
      rw [Expr.isConstantForm, Expr.isConstantForm, target, Expr.allConstant_congr below]
    | comma | braced | construct =>
      simp only [Form.children] at below
      rw [Expr.isConstantForm, Expr.isConstantForm, Expr.allConstant_congr below]
    | unary | binary | conditional | expansion =>
      simp only [Form.children, List.forall_mem_cons] at below
      simp only [Expr.isConstantForm, below]
    | _ => rfl

/-- Trees of known names have the same plain types. -/
theorem plainType_within (named : expr.NamesOnly known) :
    expr.plainType scope = expr.plainType other := by
  induction expr using Expr.induction with
  | step form template ih =>
    have below : ∀ child ∈ form.children, child.plainType scope = child.plainType other :=
      fun child member => ih child member (named.child member)
    rw [Expr.plainType, Expr.plainType]
    cases form with
    | call callee arguments =>
      have target := agree.targetDecl (named.child (List.mem_cons_self ..)) arguments
      rw [Expr.plainFormType, Expr.plainFormType, target]
    | comma => exact Expr.plainLastType_congr below
    | unary | binary | conditional | expansion =>
      simp only [Form.children, List.forall_mem_cons] at below
      simp only [Expr.plainFormType, below]
    | _ => rfl

/-- Trees of known names have the same types. -/
theorem typeOf_within (named : expr.NamesOnly known) : expr.typeOf scope = expr.typeOf other := by
  induction expr using Expr.induction with
  | step form template ih =>
    have plain := plainType_within agree named
    rw [Expr.typeOf, Expr.typeOf]
    cases form with
    | expansion pattern =>
      have inner := ih pattern (List.mem_singleton_self _)
        (named.child (List.mem_singleton_self _))
      rw [Expr.formType, Expr.formType, inner]
    | unary operator operand => cases operator <;> simp only [Expr.formType, plain]
    | _ => simp only [Expr.formType, plain]

/-- Trees of known names have the same categories. -/
theorem category_within (named : expr.NamesOnly known) :
    expr.category scope = expr.category other := by
  induction expr using Expr.induction with
  | step form template ih =>
    have below : ∀ child ∈ form.children, child.category scope = child.category other :=
      fun child member => ih child member (named.child member)
    rw [Expr.category, Expr.category]
    cases form with
    | call callee arguments =>
      have target := agree.targetDecl (named.child (List.mem_cons_self ..)) arguments
      rw [Expr.formCategory, Expr.formCategory, target]
    | comma => exact Expr.lastCategory_congr below
    | conditional | expansion =>
      simp only [Form.children, List.forall_mem_cons] at below
      simp only [Expr.formCategory, below]
    | _ => rfl

end Queries

/-- The same expression on both sides, of known names. -/
def Expr.SameWithin (known : DeclarationId → Prop) (expr expr' : Expr) : Prop :=
  expr = expr' ∧ expr.NamesOnly known

section Evaluate

variable {scope other : Scope} {known : DeclarationId → Prop}

/-- To be the same expression of known names is strict. -/
theorem Expr.sameWithin_strict : Expr.IsStrict (Expr.SameWithin known) where
  reflexive _ _ _ _ := ⟨rfl, namesOnly_fixed _ _ _ _⟩
  literal same _ := same.1
  isFixed same := congrArg Expr.isFixed same.1
  overloadSet same := congrArg Expr.overloadSet? same.1

/-- Lists of the same expressions, of known names, are the same list. -/
theorem Expr.eq_of_sameWithin {exprs exprs' : List Expr}
    (same : List.Forall₂ (Expr.SameWithin known) exprs exprs') :
    exprs = exprs' ∧ ∀ expr ∈ exprs', expr.NamesOnly known := by
  refine ⟨List.forall₂_eq_eq_eq ▸ same.imp fun _ _ same => same.1, ?_⟩
  exact forall_of_forall₂ same fun _ _ same => same.1 ▸ same.2

variable (agree : scope.AgreeWithin other known)

include agree

/-- Calls of known candidates enter the same body or are refused alike. -/
theorem callee_within {set : OverloadSet} (named : ∀ id ∈ set.candidates, known (.ofFunction id))
    (arity : Nat) : callee? scope set arity = callee? other set arity := by
  unfold callee?
  rw [← agree.resolve named]
  cases found : scope.resolve set arity with
  | none => rfl
  | some id =>
    dsimp only
    rw [agree.resolved named found]

/-- Calls enter the same bodies, whose names are known, for the same arguments. -/
theorem calls_within {recur recur' : List Expr → Expr → Evaluation Expr}
    (bodies : ∀ parameters body, (∀ parameter ∈ parameters, parameter.NamesOnly known) →
      body.NamesOnly known →
        LockStep (Expr.SameWithin known) (recur parameters body) (recur' parameters body)) :
    CallsAlike LockStep (Expr.SameWithin known) scope other recur recur' where
  callee same isSet := callee_within agree (same.2.candidates isSet)
  returned _ _ _ := Expr.sameWithin_strict.converts _
  body {callee _ _ _ id decl body _ _} same isSet entered alike _ := by
    obtain ⟨resolved, declared, defined⟩ := callee?_ok entered
    have reached : known (.ofFunction id) :=
      same.2.candidates isSet id (Scope.resolve_spec resolved).1
    have definition : scope.definition? (.ofFunction id) = some body := by
      rw [Scope.definition?, declared, Option.bind_some, defined]
    obtain ⟨sameBound, named⟩ := Expr.eq_of_sameWithin (Expr.IsLikeness.bound
      (fun type _ => Expr.sameWithin_strict.converts type) alike)
    rw [sameBound]
    exact bodies _ _ named (agree.closed _ _ reached definition)

/-- The evaluations of a tree of known names with parameters of known names go in lock-step. -/
theorem evaluate_within {parameters : List Expr} {expr : Expr} (named : expr.NamesOnly known)
    (bound : ∀ parameter ∈ parameters, parameter.NamesOnly known) :
    LockStep (Expr.SameWithin known) (expr.evaluate scope parameters)
      (expr.evaluate other parameters) := by
  let pairs (one two : List Expr × Expr) : Prop :=
    one = two ∧ one.2.NamesOnly known ∧ ∀ parameter ∈ one.1, parameter.NamesOnly known
  refine LockStep.evaluate pairs ?_ ⟨rfl, named, bound⟩
  rintro recur recur' together parameters ⟨form, template⟩ _ _ ⟨⟨⟩, named, bound⟩
  have kept : LockStep (Expr.SameWithin known) (pure (.node form template))
      (pure (.node form template)) := lockStep_simulation.pure ⟨rfl, named⟩
  have inner (entered : form.isEntered = true) : LockStep (Expr.SameWithin known)
      (evaluateNode scope recur parameters (.node form template))
      (evaluateNode other recur' parameters (.node form template)) := by
    refine evaluateNode_strict lockStep_simulation Expr.sameWithin_strict
      (calls_within agree fun _ _ bound named => together _ _ _ _ ⟨rfl, named, bound⟩) rfl
      (fun parallel => ?_)
      (Form.parallel_self entered fun child member =>
        together _ _ _ _ ⟨rfl, named.child member, bound⟩)
      fun _ _ _ _ => ?_
    · obtain ⟨sameChildren, children⟩ := Expr.eq_of_sameWithin parallel.children
      obtain rfl := parallel.eq_of_children sameChildren
      exact ⟨rfl, Expr.namesOnly_derive parallel.namesOnly children⟩
    · rw [typeOf_within agree named]
      exact Expr.sameWithin_strict.converts _
  cases form with
  | fixed | templateRef | overloads | expansion => exact kept
  | parameterRef position type isPack =>
    cases isPack with
    | true => exact kept
    | false =>
      refine lockStep_simulation.pure ⟨rfl, ?_⟩
      rw [if_neg Bool.false_ne_true]
      cases found : parameters[position]? with
      | none => exact named
      | some parameter => exact bound parameter (List.mem_of_getElem? found)
  | variableRef id type =>
    have reached : known (.ofVariable id) := named.root _ (.mention id type)
    refine evaluateVariable_alike lockStep_simulation (agree.constantInitializer reached)
      (Expr.sameWithin_strict.converts type) (fun _ => ⟨rfl, named⟩) fun initializer usable => ?_
    exact together _ _ _ _
      ⟨rfl, agree.closed _ _ reached (Scope.definition_of_usable usable), List.forall_mem_nil _⟩
  | typeTrait operator type =>
    refine lockStep_simulation.pure ?_
    unfold evaluateTypeTrait
    split
    · exact ⟨rfl, named⟩
    · split
      · exact Expr.sameWithin_strict.folded (typeOf_within agree named) rfl _
      · exact ⟨rfl, named⟩
  | _ => exact inner rfl

end Evaluate

/-- The tree has the same answers in both scopes: whether it is a constant expression, its type, its
category and its value, what it evaluates to in how many steps with parameters that name only what
the tree reaches, and what it is instantiated to outside of a specialization. -/
structure Expr.SameAnswers (scope other : Scope) (expr : Expr) : Prop where
  /-- The same trees are constant expressions. -/
  isConstant : expr.isConstant scope = expr.isConstant other
  /-- The types are the same. -/
  typeOf : expr.typeOf scope = expr.typeOf other
  /-- The categories are the same. -/
  category : expr.category scope = expr.category other
  /-- The values are the same within all limits. -/
  value : ∀ limit, expr.value scope limit = expr.value other limit
  /-- Answers, failures and budgets that are left are the same. -/
  evaluate : ∀ parameters, (∀ parameter ∈ parameters, parameter.NamesOnly (scope.Reaches expr)) →
    expr.evaluate scope parameters = expr.evaluate other parameters
  /-- Instantiations make the same of the tree. -/
  substitute : ∀ map depth offset,
    (⟨map, none, scope⟩ : Instantiation).substitute depth offset expr =
      (⟨map, none, other⟩ : Instantiation).substitute depth offset expr

/-- Scopes that agree on what a tree reaches have the same answers for it. -/
theorem sameAnswers_of_agree {scope other : Scope} {expr : Expr}
    (agree : scope.AgreeOnReached other expr) : expr.SameAnswers scope other := by
  have within := agree.within
  have named := scope.namesOnly_reached expr
  have evaluate (parameters : List Expr)
      (bound : ∀ parameter ∈ parameters, parameter.NamesOnly (scope.Reaches expr)) :
      expr.evaluate scope parameters = expr.evaluate other parameters :=
    (evaluate_within within named bound).eq fun _ _ same => same.1
  refine ⟨isConstant_within within named, typeOf_within within named,
    category_within within named, fun limit => ?_, evaluate,
    fun map depth offset => Instantiation.substitute_within within map depth offset named⟩
  rw [Expr.value, Expr.value, Expr.constantValue, Expr.constantValue,
    evaluate [] (List.forall_mem_nil _)]

/-- Declarations out of reach do not matter: scopes that agree on all that a tree reaches have the
same answers for it, and so have a table that declares all of that and the tables that become of it
when declarations are added and the bodies of functions out of reach are replaced. -/
theorem unreached_irrelevant (expr : Expr) :
    (∀ scope other : Scope, scope.AgreeOnReached other expr → expr.SameAnswers scope other) ∧
      ∀ table later : Table, table.DeclaresReached expr →
        Relation.ReflTransGen (Table.Revision expr) table later →
          expr.SameAnswers table.scope later.scope :=
  ⟨fun _ _ agree => sameAnswers_of_agree agree, fun _ _ declared revisions =>
    sameAnswers_of_agree (Table.agree_of_revisions declared revisions)⟩

/-- The table of `low` with a second function, whose body calls `low`, and a second variable. -/
def lowTableRevised : Table :=
  ⟨lowTable.functionDecls ++ [⟨"again", [], .fundamental .int, some lowCall, true⟩],
    lowTable.variableDecls ++ [⟨"rest", .fundamental .int, none, false⟩]⟩

/-- The call of `low` reaches the function and its variable, and what is added later tells nothing
about it. -/
theorem unreached_irrelevant_of_low :
    lowTable.DeclaresReached lowCall ∧
      Relation.ReflTransGen (Table.Revision lowCall) lowTable lowTableRevised ∧
      lowCall.SameAnswers lowTable.scope lowTableRevised.scope ∧
      lowTableRevised.scope.AgreeOnReached lowTable.scope lowCall ∧
      lowCall.SameAnswers lowTableRevised.scope lowTable.scope := by
  let known (id : DeclarationId) : Prop := id = .ofFunction ⟨0⟩ ∨ id = .ofVariable ⟨0⟩
  have names : lowTable.scope.Everywhere (Form.NamesOnly known) lowCall := by
    refine low_everywhere ?_ ?_ (lowBody_every ?_ ?_ ?_) fun _ _ => ?_
    · rintro _ ⟨⟩
    · rintro _ ⟨member⟩
      exact .inl (congrArg _ (List.mem_singleton.mp member))
    · rintro _ ⟨⟩
    · rintro _ ⟨⟩
    · rintro _ ⟨⟩
      exact .inr rfl
    · rintro _ ⟨⟩
  have reachedOnly {id : DeclarationId} (reached : lowTable.scope.Reaches lowCall id) :
      known id := by
    refine Scope.known_of_reaches names.tree ?_ reached
    rintro _ tree (rfl | rfl) definition
    · exact names.bodies ⟨0⟩ _ tree rfl definition
    · exact names.initializers ⟨0⟩ tree definition
  have declared : lowTable.DeclaresReached lowCall := by
    intro id reached
    rcases reachedOnly reached with rfl | rfl <;> rfl
  let added : Table := (lowTable.addFunction ⟨"again", [], .fundamental .int, none, true⟩).1
  have first : Table.Revision lowCall lowTable added := .addFunction _ _
  have unreached : ¬ added.scope.Reaches lowCall (.ofFunction ⟨1⟩) := by
    intro reached
    rcases reachedOnly ((Scope.reaches_iff_of_agree (first.agree declared)).mp reached) with
      same | same <;> cases same
  have second : Table.Revision lowCall added
      { added with functionDecls := lowTableRevised.functionDecls } :=
    .setBody unreached (rfl : added.setBody ⟨1⟩ lowCall = some _)
  have revisions : Relation.ReflTransGen (Table.Revision lowCall) lowTable lowTableRevised :=
    ((Relation.ReflTransGen.single first).tail second).tail (.addVariable _ _)
  have agree := Table.agree_of_revisions declared revisions
  have back : lowTableRevised.scope.AgreeOnReached lowTable.scope lowCall := fun id reached =>
    (agree id ((Scope.reaches_iff_of_agree agree).mp reached)).symm
  exact ⟨declared, revisions, (unreached_irrelevant lowCall).2 _ _ declared revisions, back,
    (unreached_irrelevant lowCall).1 _ _ back⟩

end ConstExpr
