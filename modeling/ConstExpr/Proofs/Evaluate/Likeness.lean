import ConstExpr.Proofs.Evaluate.Ensures
import ConstExpr.Proofs.Tree

/-!
# Evaluations of nodes that are alike

What a node makes of its evaluated children is determined by the types and the values of those that
are literals and by the overload sets that the others name. So two evaluations of nodes of the same
kind, each in a scope of its own, are related in every way that goes through sequences and calls,
when the evaluations of their children, of bodies and of initializers are, and the answers are alike
as far as this (`evaluateNode_alike`).
-/
namespace ConstExpr

open Evaluation

namespace Expr

/-- The name of an overload set is value-dependent when the set is dependent. -/
theorem isValueDependent_of_named {expr : Expr} {set : OverloadSet}
    (named : expr.overloadSet? = some set) : expr.isValueDependent = set.isDependent := by
  obtain ⟨form, template⟩ := expr
  cases form with
  | overloads other =>
    obtain rfl := Option.some.inj named
    simp [isValueDependent, anyForm, anyChild, Form.isTypeDependent, Form.isValueDependent]
  | _ => contradiction

/-- An expression other than a literal is not converted. -/
theorem convertTo_of_unfixed {type : Ty} {expr : Expr} (unfixed : expr.fixedValue? = none) :
    expr.convertTo type = expr := by
  obtain ⟨form, template⟩ := expr
  cases form with
  | fixed => contradiction
  | _ => rfl

/-- A literal is a node that holds a value. -/
theorem exists_of_isFixed {expr : Expr} (isFixed : expr.isFixed = true) :
    ∃ type value category template, expr = node (.fixed type value category) template := by
  obtain ⟨form, template⟩ := expr
  cases form with
  | fixed type value category => exact ⟨type, value, category, template, rfl⟩
  | _ => contradiction

/-- What is no literal has no value. -/
theorem fixedValue_of_unfixed {expr : Expr} (unfixed : expr.isFixed = false) :
    expr.fixedValue? = none := by
  rwa [isFixed, Option.isSome_eq_false_iff, Option.isNone_iff_eq_none] at unfixed

/-- A literal that holds an integer is a literal. -/
theorem isFixed_of_integer {expr : Expr} {integer : Int}
    (known : expr.fixedInteger? = some integer) : expr.isFixed = true := by
  obtain ⟨value, fixed, -⟩ := Option.bind_eq_some_iff.mp known
  rw [isFixed, fixed, Option.isSome_some]

/-- What has a truth is a literal. -/
theorem isFixed_of_truth {expr : Expr} {truth : Bool}
    (known : expr.fixedTruth? = some truth) : expr.isFixed = true := by
  obtain ⟨value, fixed, -⟩ := Option.bind_eq_some_iff.mp known
  rw [isFixed, fixed, Option.isSome_some]

/-- What is known is a literal. -/
theorem isFixed_of_isKnown {expr : Expr} (known : expr.isKnown = true) :
    expr.isFixed = true := by
  unfold isKnown at known
  cases fixed : expr.fixedValue? with
  | none => simp [fixed] at known
  | some => rw [isFixed, fixed, Option.isSome_some]

/-- A literal stays one when it is converted. -/
theorem isFixed_convertTo {type : Ty} {expr : Expr} (fixed : expr.isFixed = true) :
    (expr.convertTo type).isFixed = true := by
  obtain ⟨form, template⟩ := expr
  cases form with
  | fixed =>
    simp only [convertTo, form]
    split
    · rfl
    · exact fixed
  | _ => contradiction

/-- What has values is a list of literals. -/
theorem isFixed_of_fixedValues {exprs : List Expr} {values : List Value}
    (known : fixedValues? exprs = some values) : ∀ expr ∈ exprs, expr.isFixed = true := by
  unfold fixedValues? at known
  induction exprs generalizing values with
  | nil => exact List.forall_mem_nil _
  | cons expr exprs ih =>
    rw [List.mapM_cons] at known
    obtain ⟨value, fixed, known⟩ := Option.bind_eq_some_iff.mp known
    obtain ⟨rest, known, -⟩ := Option.bind_eq_some_iff.mp known
    refine List.forall_mem_cons.mpr ⟨?_, ih known⟩
    rw [isFixed, fixed, Option.isSome_some]

/-- A relation between evaluated expressions that relates literals to literals of the same type and
value, and other expressions to those that name the same overload set or none as well. -/
structure IsLikeness (like : Expr → Expr → Prop) : Prop where
  /-- The same values are held. -/
  fixedValue : ∀ {expr expr'}, like expr expr' → expr.fixedValue? = expr'.fixedValue?
  /-- The same overload sets are named. -/
  overloadSet : ∀ {expr expr'}, like expr expr' → expr.overloadSet? = expr'.overloadSet?
  /-- Literals have the same type. -/
  typeOf : ∀ {expr expr'}, like expr expr' → expr.isFixed = true →
    ∀ scope scope', expr.typeOf scope = expr'.typeOf scope'

/-- Expressions that are alike are so when each is converted to its type. -/
def ConvertsAlike (like : Expr → Expr → Prop) (type type' : Ty) : Prop :=
  ∀ expr expr', like expr expr' → like (expr.convertTo type) (expr'.convertTo type')

namespace IsLikeness

variable {like : Expr → Expr → Prop} (likeness : IsLikeness like) {expr expr' : Expr}

include likeness

/-- Expressions that are alike are literals together. -/
theorem isFixed (alike : like expr expr') : expr.isFixed = expr'.isFixed := by
  rw [Expr.isFixed, Expr.isFixed, likeness.fixedValue alike]

/-- Expressions that are alike are known together. -/
theorem isKnown (alike : like expr expr') : expr.isKnown = expr'.isKnown := by
  rw [Expr.isKnown, Expr.isKnown, likeness.fixedValue alike]

/-- Expressions that are alike hold the same integers. -/
theorem fixedInteger (alike : like expr expr') : expr.fixedInteger? = expr'.fixedInteger? := by
  rw [fixedInteger?, fixedInteger?, likeness.fixedValue alike]

/-- Expressions that are alike have the same truth. -/
theorem fixedTruth (alike : like expr expr') : expr.fixedTruth? = expr'.fixedTruth? := by
  rw [fixedTruth?, fixedTruth?, likeness.fixedValue alike]

/-- Arguments that are alike are known together. -/
theorem all_isKnown {arguments arguments' : List Expr}
    (alike : List.Forall₂ like arguments arguments') :
    arguments.all Expr.isKnown = arguments'.all Expr.isKnown := by
  induction alike with
  | nil => rfl
  | cons first _ ih => rw [List.all_cons, List.all_cons, likeness.isKnown first, ih]

/-- Lists of expressions that are alike hold the same values. -/
theorem fixedValues {exprs exprs' : List Expr} (alike : List.Forall₂ like exprs exprs') :
    fixedValues? exprs = fixedValues? exprs' := by
  unfold fixedValues?
  induction alike with
  | nil => rfl
  | cons first _ ih => rw [List.mapM_cons, List.mapM_cons, likeness.fixedValue first, ih]

omit likeness in
/-- Arguments that are alike are so when they are converted to the types of parameters. -/
theorem bound {types : List Ty} (converts : ∀ type ∈ types, ConvertsAlike like type type)
    {arguments arguments' : List Expr} (alike : List.Forall₂ like arguments arguments') :
    List.Forall₂ like (arguments.zipWith (fun argument type => argument.convertTo type) types)
      (arguments'.zipWith (fun argument type => argument.convertTo type) types) := by
  induction alike generalizing types with
  | nil => exact .nil
  | cons first _ ih =>
    cases types with
    | nil => exact .nil
    | cons type types =>
      obtain ⟨head, tail⟩ := List.forall_mem_cons.mp converts
      exact .cons (head _ _ first) (ih tail)

end IsLikeness

end Expr

/-- Forms of the same kind, other than leaves and expansions, that have related children in the same
places. -/
inductive Form.Parallel {α β : Type} (related : α → β → Prop) : Form α → Form β → Prop where
  /-- Operators with one operand. -/
  | unary (operator : UnaryOperator) {operand : α} {operand' : β}
    (operands : related operand operand') :
    Parallel related (.unary operator operand) (.unary operator operand')
  /-- Operators with two operands. -/
  | binary (operator : BinaryOperator) {left right : α} {left' right' : β}
    (lefts : related left left') (rights : related right right') :
    Parallel related (.binary operator left right) (.binary operator left' right')
  /-- Choices. -/
  | conditional {condition positive negative : α} {condition' positive' negative' : β}
    (conditions : related condition condition') (positives : related positive positive')
    (negatives : related negative negative') :
    Parallel related (.conditional condition positive negative)
      (.conditional condition' positive' negative')
  /-- Lists of operands. -/
  | comma {operands : List α} {operands' : List β}
    (each : List.Forall₂ related operands operands') :
    Parallel related (.comma operands) (.comma operands')
  /-- Calls. -/
  | call {callee : α} {callee' : β} {arguments : List α} {arguments' : List β}
    (callees : related callee callee') (each : List.Forall₂ related arguments arguments') :
    Parallel related (.call callee arguments) (.call callee' arguments')
  /-- Braced lists. -/
  | braced {clauses : List α} {clauses' : List β} (each : List.Forall₂ related clauses clauses') :
    Parallel related (.braced clauses) (.braced clauses')
  /-- Casts. -/
  | construct (type : Ty) {arguments : List α} {arguments' : List β}
    (each : List.Forall₂ related arguments arguments') :
    Parallel related (.construct type arguments) (.construct type arguments')

namespace Form

variable {α β : Type}

/-- The form with other children in the places of its own. -/
def map (change : α → β) : Form α → Form β
  | fixed type value category => fixed type value category
  | templateRef parameter type => templateRef parameter type
  | parameterRef position type isPack => parameterRef position type isPack
  | variableRef id type => variableRef id type
  | unary operator operand => unary operator (change operand)
  | binary operator left right => binary operator (change left) (change right)
  | typeTrait operator type => typeTrait operator type
  | conditional condition positive negative =>
    conditional (change condition) (change positive) (change negative)
  | comma operands => comma (operands.map change)
  | call callee arguments => call (change callee) (arguments.map change)
  | overloads set => overloads set
  | braced clauses => braced (clauses.map change)
  | construct type arguments => construct type (arguments.map change)
  | expansion pattern => expansion (change pattern)

/-- The form with its own children is itself. -/
theorem map_id (form : Form α) : form.map id = form := by
  cases form <;> simp only [map, List.map_id, id]

/-- An evaluation comes to the children of the form: it is neither a leaf nor an expansion. -/
def isEntered : Form α → Bool
  | fixed .. | templateRef .. | parameterRef .. | variableRef .. | typeTrait .. | overloads _
  | expansion _ => false
  | _ => true

/-- A form is parallel to the one with other children, when these are related to its own. -/
theorem parallel_map {related : α → β → Prop} {change : α → β} {form : Form α}
    (entered : form.isEntered = true) (children : ∀ child ∈ form.children,
      related child (change child)) : Parallel related form (form.map change) := by
  have each {exprs : List α} (holds : ∀ expr ∈ exprs, related expr (change expr)) :
      List.Forall₂ related exprs (exprs.map change) :=
    List.forall₂_map_right_iff.mpr (List.forall₂_same.mpr holds)
  cases form with
  | unary operator operand =>
    exact .unary operator (children operand (List.mem_singleton_self _))
  | binary operator left right =>
    obtain ⟨lefts, rights⟩ := List.forall_mem_cons.mp children
    exact .binary operator lefts (rights right (List.mem_singleton_self _))
  | conditional condition positive negative =>
    obtain ⟨conditions, branches⟩ := List.forall_mem_cons.mp children
    obtain ⟨positives, negatives⟩ := List.forall_mem_cons.mp branches
    exact .conditional conditions positives (negatives negative (List.mem_singleton_self _))
  | comma operands => exact .comma (each children)
  | call callee arguments =>
    obtain ⟨callees, arguments⟩ := List.forall_mem_cons.mp children
    exact .call callees (each arguments)
  | braced clauses => exact .braced (each children)
  | construct type arguments => exact .construct type (each children)
  | _ => contradiction

/-- A form is parallel to itself when its children are related to themselves. -/
theorem parallel_self {related : α → α → Prop} {form : Form α} (entered : form.isEntered = true)
    (children : ∀ child ∈ form.children, related child child) : Parallel related form form := by
  have parallel : Parallel related form (form.map id) := parallel_map entered children
  rwa [map_id] at parallel

/-- The children of parallel forms are related in order. -/
theorem Parallel.children {related : α → β → Prop} {form : Form α} {form' : Form β}
    (parallel : Parallel related form form') :
    List.Forall₂ related form.children form'.children := by
  cases parallel with
  | unary _ operands => exact .cons operands .nil
  | binary _ lefts rights => exact .cons lefts (.cons rights .nil)
  | conditional conditions positives negatives =>
    exact .cons conditions (.cons positives (.cons negatives .nil))
  | call callees each => exact .cons callees each
  | comma each | braced each | construct _ each => exact each

/-- Parallel forms with the same children are the same. -/
theorem Parallel.eq_of_children {related : α → α → Prop} {form form' : Form α}
    (parallel : Parallel related form form') (same : form.children = form'.children) :
    form = form' := by
  cases parallel <;> simp_all [Form.children]

end Form

/-- Two nodes, each in its scope, of which evaluated children that are alike make expressions that
are alike. -/
structure Expr.DerivesAlike (like : Expr → Expr → Prop) (scope scope' : Scope)
    (expr expr' : Expr) : Prop where
  /-- Nodes built anew from children that are alike. -/
  rebuilt : ∀ {form form'}, Form.Parallel like form form' →
    like (expr.derive form) (expr'.derive form')
  /-- What operators make of an integer. -/
  unary : ∀ {operator operand operand'}, like operand operand' → operand.isFixed = true →
    ∀ value, like ((expr.derive (.unary operator operand)).folded scope value)
      ((expr'.derive (.unary operator operand')).folded scope' value)
  /-- What operators make of two integers. -/
  binary : ∀ {operator left left' right right'}, like left left' → like right right' →
    left.isFixed = true → right.isFixed = true →
      ∀ value, like ((expr.derive (.binary operator left right)).folded scope value)
        ((expr'.derive (.binary operator left' right')).folded scope' value)
  /-- Literals of a known type. -/
  literal : ∀ {type}, type.isDependent = false → ∀ value,
    like (expr.derive (.fixed type value .prvalue)) (expr'.derive (.fixed type value .prvalue))

/-- A relation between evaluated expressions that relates literals to themselves alone, and other
expressions to those that name the same overload set or none as well. -/
structure Expr.IsStrict (like : Expr → Expr → Prop) : Prop where
  /-- A literal is related to itself. -/
  reflexive : ∀ type value category template, like (.node (.fixed type value category) template)
    (.node (.fixed type value category) template)
  /-- A literal is related to nothing else. -/
  literal : ∀ {expr expr'}, like expr expr' → expr.isFixed = true → expr = expr'
  /-- Literals are related to literals only. -/
  isFixed : ∀ {expr expr'}, like expr expr' → expr.isFixed = expr'.isFixed
  /-- The same overload sets are named. -/
  overloadSet : ∀ {expr expr'}, like expr expr' → expr.overloadSet? = expr'.overloadSet?

namespace Expr

namespace IsStrict

variable {like : Expr → Expr → Prop} (strict : IsStrict like) {expr expr' : Expr}

include strict

/-- A strict relation is a likeness. -/
theorem likeness : IsLikeness like where
  fixedValue {expr expr'} alike := by
    cases isFixed : expr.isFixed with
    | true => rw [strict.literal alike isFixed]
    | false =>
      rw [fixedValue_of_unfixed isFixed, fixedValue_of_unfixed (strict.isFixed alike ▸ isFixed)]
  overloadSet := strict.overloadSet
  typeOf alike isFixed _ _ := by
    obtain rfl := strict.literal alike isFixed
    obtain ⟨type, value, category, template, rfl⟩ := exists_of_isFixed isFixed
    rfl

/-- Conversions to the same type keep a strict relation. -/
theorem converts (type : Ty) : ConvertsAlike like type type := by
  intro expr expr' alike
  cases isFixed : expr.isFixed with
  | true =>
    obtain rfl := strict.literal alike isFixed
    obtain ⟨actual, value, category, template, rfl⟩ := exists_of_isFixed isFixed
    simp only [convertTo, form]
    split
    · exact strict.reflexive _ _ _ _
    · exact strict.reflexive _ _ _ _
  | false =>
    rwa [convertTo_of_unfixed (fixedValue_of_unfixed isFixed),
      convertTo_of_unfixed (fixedValue_of_unfixed (strict.isFixed alike ▸ isFixed))]

omit strict in
/-- Integers that take the place of nodes of the same type and template definition are the same. -/
theorem folded_congr {scope scope' : Scope} (sameType : expr.typeOf scope = expr'.typeOf scope')
    (sameTemplate : expr.template = expr'.template) (value : Int) :
    expr.folded scope value = expr'.folded scope' value := by
  rw [folded, folded, sameType, derive_leaf rfl, derive_leaf rfl, sameTemplate]

/-- Integers that take the place of nodes of the same type and template definition are alike. -/
theorem folded {scope scope' : Scope} (sameType : expr.typeOf scope = expr'.typeOf scope')
    (sameTemplate : expr.template = expr'.template) (value : Int) :
    like (expr.folded scope value) (expr'.folded scope' value) := by
  rw [← folded_congr sameType sameTemplate, Expr.folded, derive_leaf rfl]
  exact strict.reflexive _ _ _ _

/-- Known arguments are related to themselves alone. -/
theorem eq_of_known {arguments arguments' : List Expr}
    (alike : List.Forall₂ like arguments arguments') (known : arguments.all Expr.isKnown = true) :
    arguments = arguments' := by
  induction alike with
  | nil => rfl
  | cons first _ ih =>
    obtain ⟨headKnown, tailKnown⟩ := (Bool.and_eq_true _ _).mp known
    rw [strict.literal first (isFixed_of_isKnown headKnown), ih tailKnown]

/-- Nodes of one template definition make expressions that are alike, if what is built anew from
children is. -/
theorem derives {scope scope' : Scope} (sameTemplate : expr.template = expr'.template)
    (rebuilt : ∀ {form form'}, Form.Parallel like form form' →
      like (expr.derive form) (expr'.derive form')) :
    DerivesAlike like scope scope' expr expr' := by
  have same (form : Form Expr) : expr'.derive form = expr.derive form := by
    rw [derive, derive, sameTemplate]
  -- An operator on literals has the same type in every scope.
  refine ⟨rebuilt, ?_, ?_, ?_⟩
  · intro operator operand operand' alike isFixed value
    obtain rfl := strict.literal alike isFixed
    obtain ⟨_, _, _, _, rfl⟩ := exists_of_isFixed isFixed
    rw [same]
    refine strict.folded ?_ rfl value
    cases operator <;> rfl
  · intro operator left left' right right' lefts rights leftFixed rightFixed value
    obtain rfl := strict.literal lefts leftFixed
    obtain rfl := strict.literal rights rightFixed
    obtain ⟨_, _, _, _, rfl⟩ := exists_of_isFixed leftFixed
    obtain ⟨_, _, _, _, rfl⟩ := exists_of_isFixed rightFixed
    rw [same]
    exact strict.folded rfl rfl value
  · intro type _ value
    rw [same, derive_leaf rfl]
    exact strict.reflexive _ _ _ _

end IsStrict

end Expr

/-- A relation between evaluations that is kept when they are put together in the same way, for
answers that are related. -/
structure Evaluation.Simulation
    (related : {α β : Type} → (α → β → Prop) → Evaluation α → Evaluation β → Prop) : Prop where
  /-- Related answers. -/
  pure : ∀ {α β : Type} {answers : α → β → Prop} {answer : α} {answer' : β},
    answers answer answer' → related answers (pure answer) (pure answer')
  /-- A failure other than a refused step is related to itself. -/
  throw : ∀ {α β : Type} {answers : α → β → Prop} (failure : Failure),
    failure.isStepLimit = false → related answers (throw failure) (throw failure)
  /-- A step is related to itself. -/
  step : related (fun _ _ => True) Evaluation.step Evaluation.step
  /-- Related evaluations followed by related ones are related. -/
  bind : ∀ {α β α' β' : Type} {answers : α → α' → Prop} {answers' : β → β' → Prop}
    {first : Evaluation α} {first' : Evaluation α'} {next : α → Evaluation β}
    {next' : α' → Evaluation β'}, related answers first first' →
      (∀ answer answer', answers answer answer' → related answers' (next answer) (next' answer')) →
        related answers' (first >>= next) (first' >>= next')
  /-- Related bodies of a call are related with the call. -/
  withinCall : ∀ {α β : Type} {answers : α → β → Prop} {body : Evaluation α}
    {body' : Evaluation β} (function : FunctionId), related answers body body' →
      related answers (Evaluation.withinCall function body) (Evaluation.withinCall function body')

/-- Calls of callees that are alike come to the same function, which returns a type that literals
are converted to alike and whose body is evaluated alike for known arguments that are. -/
structure CallsAlike
    (related : {α β : Type} → (α → β → Prop) → Evaluation α → Evaluation β → Prop)
    (like : Expr → Expr → Prop) (scope scope' : Scope)
    (recur recur' : List Expr → Expr → Evaluation Expr) : Prop where
  /-- The calls are refused alike, or come to the same function. -/
  callee : ∀ {callee callee' set}, like callee callee' → callee.overloadSet? = some set →
    ∀ arity, callee? scope set arity = callee? scope' set arity
  /-- Results are converted alike. -/
  returned : ∀ {callee callee' set arity id decl body}, like callee callee' →
    callee.overloadSet? = some set → callee? scope set arity = .ok (id, decl, body) →
      Expr.ConvertsAlike like decl.returnType decl.returnType
  /-- Bodies are evaluated alike. -/
  body : ∀ {callee callee' set arity id decl body arguments arguments'}, like callee callee' →
    callee.overloadSet? = some set → callee? scope set arity = .ok (id, decl, body) →
      List.Forall₂ like arguments arguments' → arguments.all Expr.isKnown = true →
        related like
          (recur (arguments.zipWith (fun argument type => argument.convertTo type) decl.parameters)
            body)
          (recur' (arguments'.zipWith (fun argument type => argument.convertTo type)
            decl.parameters) body)

section Nodes

variable {related : {α β : Type} → (α → β → Prop) → Evaluation α → Evaluation β → Prop}
  (simulation : Simulation related) {like : Expr → Expr → Prop}
  {recur recur' : List Expr → Expr → Evaluation Expr} {parameters parameters' : List Expr}

include simulation

/-- Evaluations are related for all answers that follow from related ones. -/
theorem Evaluation.Simulation.mono {α β : Type} {answers weaker : α → β → Prop}
    {first : Evaluation α} {second : Evaluation β} (together : related answers first second)
    (weakens : ∀ answer answer', answers answer answer' → weaker answer answer') :
    related weaker first second := by
  rw [← bind_pure first, ← bind_pure second]
  exact simulation.bind together fun answer answer' holds =>
    simulation.pure (weakens answer answer' holds)

/-- The evaluations of lists of trees, in order, are related when those of the trees are. -/
theorem mapM_alike {exprs exprs' : List Expr}
    (each : List.Forall₂ (fun expr expr' => related like (recur parameters expr)
      (recur' parameters' expr')) exprs exprs') :
    related (List.Forall₂ like) (exprs.mapM (recur parameters))
      (exprs'.mapM (recur' parameters')) := by
  induction each with
  | nil =>
    rw [List.mapM_nil, List.mapM_nil]
    exact simulation.pure .nil
  | cons first _ ih =>
    rw [List.mapM_cons, List.mapM_cons]
    exact simulation.bind first fun _ _ first => simulation.bind ih fun _ _ rest =>
      simulation.pure (.cons first rest)

/-- Evaluations that start with the same refusal are related when what follows is. -/
theorem refusal_alike {α β : Type} {answers : α → β → Prop} {refused : Bool}
    {failure : Failure} (raised : failure.isStepLimit = false) {next : Unit → Evaluation α}
    {next' : Unit → Evaluation β} (rest : related answers (next ()) (next' ())) :
    related answers (if refused then throw failure >>= next else next ())
      (if refused then throw failure >>= next' else next' ()) := by
  have refusal : related (fun _ _ : Unit => True) (throw failure) (throw failure) :=
    simulation.throw failure raised
  split
  · exact simulation.bind refusal fun _ _ _ => rest
  · exact rest

variable {scope scope' : Scope} {expr expr' : Expr} (likeness : Expr.IsLikeness like)
  (derives : Expr.DerivesAlike like scope scope' expr expr')

include likeness derives

/-- Operators with one operand are related when the operands are. -/
theorem evaluateUnary_alike {operator : UnaryOperator} {operand operand' : Expr}
    (operands : related like (recur parameters operand) (recur' parameters' operand')) :
    related like (evaluateUnary scope recur parameters expr operator operand)
      (evaluateUnary scope' recur' parameters' expr' operator operand') := by
  unfold evaluateUnary
  dsimp only
  refine refusal_alike simulation rfl (simulation.bind operands fun operand operand' alike => ?_)
  rw [← likeness.fixedInteger alike]
  split
  · next result computed =>
    obtain ⟨integer, holds, -⟩ := Option.bind_eq_some_iff.mp computed
    exact simulation.pure (derives.unary alike (Expr.isFixed_of_integer holds) result)
  · exact simulation.pure (derives.rebuilt (.unary operator alike))

/-- Operators on evaluated operands are related when the operands are alike. -/
theorem foldBinary_alike {operator : BinaryOperator} {left left' right right' : Expr}
    (leftAlike : like left left') (rightAlike : like right right') :
    related like (foldBinary scope expr operator left right)
      (foldBinary scope' expr' operator left' right') := by
  have rebuilt : related like (pure (expr.derive (.binary operator left right)))
      (pure (expr'.derive (.binary operator left' right'))) :=
    simulation.pure (derives.rebuilt (.binary operator leftAlike rightAlike))
  unfold foldBinary
  dsimp only
  rw [← likeness.fixedInteger leftAlike, ← likeness.fixedInteger rightAlike]
  cases leftHolds : left.fixedInteger? with
  | none => exact rebuilt
  | some first =>
    cases rightHolds : right.fixedInteger? with
    | none => exact rebuilt
    | some second =>
      have leftFixed := Expr.isFixed_of_integer leftHolds
      have rightFixed := Expr.isFixed_of_integer rightHolds
      rw [← likeness.typeOf leftAlike leftFixed scope scope',
        ← likeness.typeOf rightAlike rightFixed scope scope']
      split
      · split
        · next result _ =>
          exact simulation.pure
            (derives.binary leftAlike rightAlike leftFixed rightFixed result)
        · next failure failed =>
          exact simulation.throw failure (BinaryOperator.compute_failure failed)
      · exact rebuilt

/-- Operators with two operands are related when the operands are. -/
theorem evaluateBinary_alike {operator : BinaryOperator} {left left' right right' : Expr}
    (lefts : related like (recur parameters left) (recur' parameters' left'))
    (rights : related like (recur parameters right) (recur' parameters' right')) :
    related like (evaluateBinary scope recur parameters expr operator left right)
      (evaluateBinary scope' recur' parameters' expr' operator left' right') := by
  unfold evaluateBinary
  dsimp only
  refine refusal_alike simulation rfl (simulation.bind lefts fun left left' leftAlike => ?_)
  have undecided : related like
      (recur parameters right >>= foldBinary scope expr operator left)
      (recur' parameters' right' >>= foldBinary scope' expr' operator left') :=
    simulation.bind rights fun _ _ rightAlike =>
      foldBinary_alike simulation likeness derives leftAlike rightAlike
  rw [← likeness.fixedTruth leftAlike]
  split
  · split
    · exact simulation.pure (derives.literal rfl _)
    · exact undecided
  · exact undecided

/-- Choices are related when their parts are, and when results are converted alike wherever the
condition decides. -/
theorem evaluateConditional_alike
    {condition condition' positive positive' negative negative' : Expr}
    (conditions : related (fun result result' => like result result' ∧
        (result.fixedTruth?.isSome = true →
          Expr.ConvertsAlike like (expr.typeOf scope) (expr'.typeOf scope')))
      (recur parameters condition) (recur' parameters' condition'))
    (positives : related like (recur parameters positive) (recur' parameters' positive'))
    (negatives : related like (recur parameters negative) (recur' parameters' negative')) :
    related like (evaluateConditional scope recur parameters expr condition positive negative)
      (evaluateConditional scope' recur' parameters' expr' condition' positive' negative') := by
  refine simulation.bind conditions fun condition condition' ⟨alike, converts⟩ => ?_
  rw [← likeness.fixedTruth alike]
  split
  · next truth decided =>
    have converts := converts (by rw [decided]; rfl)
    cases truth with
    | true => exact simulation.bind positives fun _ _ alike => simulation.pure (converts _ _ alike)
    | false => exact simulation.bind negatives fun _ _ alike => simulation.pure (converts _ _ alike)
  · exact simulation.bind positives fun _ _ positive => simulation.bind negatives
      fun _ _ negative => simulation.pure (derives.rebuilt (.conditional alike positive negative))

/-- Lists of operands are related when the operands are. -/
theorem evaluateComma_alike {operands operands' : List Expr}
    (each : List.Forall₂ (fun operand operand' => related like (recur parameters operand)
      (recur' parameters' operand')) operands operands') :
    related like (evaluateComma recur parameters expr operands)
      (evaluateComma recur' parameters' expr' operands') := by
  refine simulation.bind (mapM_alike simulation each) fun results results' alike => ?_
  have rebuilt : related like (pure (expr.derive (.comma results)))
      (pure (expr'.derive (.comma results'))) := simulation.pure (derives.rebuilt (.comma alike))
  cases found : results.getLast? with
  | none =>
    rw [List.getLast?_eq_none_iff] at found
    subst found
    cases alike
    exact rebuilt
  | some last =>
    obtain ⟨last', found', lastAlike⟩ := getLast?_of_forall₂ alike found
    simp only [found', ← likeness.isFixed lastAlike]
    split
    · exact simulation.pure lastAlike
    · exact rebuilt

/-- Braced lists are related when their clauses are. -/
theorem evaluateBraced_alike {clauses clauses' : List Expr}
    (each : List.Forall₂ (fun clause clause' => related like (recur parameters clause)
      (recur' parameters' clause')) clauses clauses') :
    related like (evaluateBraced recur parameters expr clauses)
      (evaluateBraced recur' parameters' expr' clauses') := by
  refine simulation.bind (mapM_alike simulation each) fun results results' alike => ?_
  rw [← likeness.fixedValues alike]
  split
  · exact simulation.pure (derives.literal rfl _)
  · exact simulation.pure (derives.rebuilt (.braced alike))

/-- Casts to the same type are related when the arguments are. -/
theorem evaluateConstruct_alike {type : Ty} {arguments arguments' : List Expr}
    (converts : type.isDependent = false → Expr.ConvertsAlike like type type)
    (zeros : like (expr.folded scope 0) (expr'.folded scope' 0))
    (each : List.Forall₂ (fun argument argument' => related like (recur parameters argument)
      (recur' parameters' argument')) arguments arguments') :
    related like (evaluateConstruct scope recur parameters expr type arguments)
      (evaluateConstruct scope' recur' parameters' expr' type arguments') := by
  refine simulation.bind (mapM_alike simulation each) fun results results' alike => ?_
  have rebuilt : related like (pure (expr.derive (.construct type results)))
      (pure (expr'.derive (.construct type results'))) :=
    simulation.pure (derives.rebuilt (.construct type alike))
  dsimp only
  split
  · exact rebuilt
  · next scalar =>
    simp only [Bool.or_eq_true, not_or, Bool.not_eq_true] at scalar
    cases alike with
    | nil => exact simulation.pure zeros
    | cons first rest =>
      cases rest with
      | nil =>
        simp only [← likeness.isFixed first]
        split
        · exact simulation.pure (converts scalar.1 _ _ first)
        · exact rebuilt
      | cons => exact rebuilt

omit likeness derives in
/-- Variables are related when their initializers are. -/
theorem evaluateVariable_alike {id : VariableId} {type : Ty}
    (same : scope.constantInitializer? id = scope'.constantInitializer? id)
    (converts : Expr.ConvertsAlike like type type)
    (kept : scope.constantInitializer? id = none → like expr expr')
    (initializers : ∀ initializer, scope.constantInitializer? id = some initializer →
      related like (recur [] initializer) (recur' [] initializer)) :
    related like (evaluateVariable scope recur expr id type)
      (evaluateVariable scope' recur' expr' id type) := by
  unfold evaluateVariable
  rw [← same]
  split
  · next initializer usable =>
    exact simulation.bind (initializers initializer usable) fun _ _ alike =>
      simulation.pure (converts _ _ alike)
  · next unusable => exact simulation.pure (kept unusable)

/-- Calls are related when their parts and the bodies of functions are. -/
theorem evaluateCall_alike {callee callee' : Expr} {arguments arguments' : List Expr}
    (calls : CallsAlike related like scope scope' recur recur')
    (callees : related like (recur parameters callee) (recur' parameters' callee'))
    (each : List.Forall₂ (fun argument argument' => related like
      (recur parameters argument) (recur' parameters' argument')) arguments arguments') :
    related like (evaluateCall scope recur parameters expr callee arguments)
      (evaluateCall scope' recur' parameters' expr' callee' arguments') := by
  refine simulation.bind callees fun callee callee' calleeAlike =>
    simulation.bind (mapM_alike simulation each) fun results results' alike => ?_
  have rebuilt : related like (pure (expr.derive (.call callee results)))
      (pure (expr'.derive (.call callee' results'))) :=
    simulation.pure (derives.rebuilt (.call calleeAlike alike))
  have sameSet := likeness.overloadSet calleeAlike
  dsimp only
  rw [← sameSet, ← likeness.all_isKnown alike, ← alike.length_eq]
  cases named : callee.overloadSet? with
  | none => exact rebuilt
  | some set =>
    rw [Expr.isValueDependent_of_named named,
      Expr.isValueDependent_of_named (sameSet.symm.trans named)]
    dsimp only
    rw [← calls.callee calleeAlike named]
    split
    · exact rebuilt
    · next entering =>
      split
      · next failure failed => exact simulation.throw failure (callee?_failure failed)
      · next id decl body entered =>
        have known : results.all Expr.isKnown = true := by
          simp only [Bool.or_eq_true, Bool.not_eq_true', not_or, Bool.not_eq_false] at entering
          exact entering.1
        have bodies := calls.body calleeAlike named entered alike known
        refine simulation.bind (simulation.withinCall id bodies) fun result result' alike => ?_
        rw [← likeness.isFixed alike]
        split
        · exact simulation.pure (calls.returned calleeAlike named entered _ _ alike)
        · exact rebuilt

/-- The evaluations of nodes of the same kind are related when those of their children are. -/
theorem evaluateNode_alike (calls : CallsAlike related like scope scope' recur recur')
    (parallel : Form.Parallel (fun child child' => related like (recur parameters child)
      (recur' parameters' child')) expr.form expr'.form)
    (chosen : ∀ condition positive negative, expr.form = .conditional condition positive negative →
      Expr.ConvertsAlike like (expr.typeOf scope) (expr'.typeOf scope'))
    (cast : ∀ type arguments, expr.form = .construct type arguments →
      (type.isDependent = false → Expr.ConvertsAlike like type type) ∧
        like (expr.folded scope 0) (expr'.folded scope' 0)) :
    related like (evaluateNode scope recur parameters expr)
      (evaluateNode scope' recur' parameters' expr') := by
  unfold evaluateNode
  generalize sameForm : expr.form = form, expr'.form = form' at parallel chosen cast ⊢
  cases parallel with
  | unary operator operands =>
    exact evaluateUnary_alike simulation likeness derives operands
  | binary operator lefts rights =>
    exact evaluateBinary_alike simulation likeness derives lefts rights
  | conditional conditions positives negatives =>
    exact evaluateConditional_alike simulation likeness derives
      (simulation.mono conditions fun _ _ alike => ⟨alike, fun _ => chosen _ _ _ rfl⟩)
      positives negatives
  | comma each => exact evaluateComma_alike simulation likeness derives each
  | call callees each => exact evaluateCall_alike simulation likeness derives calls callees each
  | braced each => exact evaluateBraced_alike simulation likeness derives each
  | construct type each =>
    obtain ⟨converts, zeros⟩ := cast _ _ rfl
    exact evaluateConstruct_alike simulation likeness derives converts zeros each

omit likeness derives in
/-- The evaluations of nodes of the same kind and template definition are related when those of
their children are, and when what they build anew from children that are alike is. -/
theorem evaluateNode_strict (strict : Expr.IsStrict like)
    (calls : CallsAlike related like scope scope' recur recur')
    (sameTemplate : expr.template = expr'.template)
    (rebuilt : ∀ {form form'}, Form.Parallel like form form' →
      like (expr.derive form) (expr'.derive form'))
    (parallel : Form.Parallel (fun child child' => related like (recur parameters child)
      (recur' parameters' child')) expr.form expr'.form)
    (chosen : ∀ condition positive negative, expr.form = .conditional condition positive negative →
      Expr.ConvertsAlike like (expr.typeOf scope) (expr'.typeOf scope')) :
    related like (evaluateNode scope recur parameters expr)
      (evaluateNode scope' recur' parameters' expr') := by
  refine evaluateNode_alike simulation strict.likeness (strict.derives sameTemplate rebuilt) calls
    parallel chosen fun type arguments cast => ⟨fun _ => strict.converts type, ?_⟩
  obtain ⟨form, template⟩ := expr
  obtain ⟨form', template'⟩ := expr'
  obtain rfl : form = .construct type arguments := cast
  obtain ⟨arguments', rfl⟩ : ∃ arguments', form' = .construct type arguments' := by
    cases parallel with
    | construct => exact ⟨_, rfl⟩
  refine strict.folded ?_ sameTemplate 0
  rfl

end Nodes

namespace Evaluation

/-- From every budget both evaluations come to related answers or to the same failure, and leave
the same budget. -/
def LockStep {α β : Type} (answers : α → β → Prop) (first : Evaluation α) (second : Evaluation β) :
    Prop :=
  ∀ budget, match first budget, second budget with
    | .ok answer left, .ok answer' left' => answers answer answer' ∧ left = left'
    | .error failure left, .error failure' left' => failure = failure' ∧ left = left'
    | _, _ => False

/-- Going in lock-step is kept by sequences and calls. -/
theorem lockStep_simulation : Simulation LockStep where
  pure related _ := ⟨related, rfl⟩
  throw _ _ _ := ⟨rfl, rfl⟩
  step budget := by
    unfold Evaluation.step
    by_cases exhausted : budget.isExhausted = true
    · simp only [exhausted, if_true, and_self]
    · simp only [exhausted, Bool.false_eq_true, if_false, and_self]
  bind {_ _ _ _ _ _ first first' next next'} firsts nexts budget := by
    have together := firsts budget
    simp only [bind_apply]
    cases result : first budget <;> cases result' : first' budget <;>
      simp only [result, result'] at together ⊢
    · obtain ⟨related, rfl⟩ := together
      exact nexts _ _ related _
    · exact together
  withinCall {_ _ _ body body'} function bodies budget := by
    have together := bodies budget
    simp only [Evaluation.withinCall]
    cases result : body budget <;> cases result' : body' budget <;>
      simp only [result, result'] at together ⊢
    · exact together
    · obtain ⟨rfl, rfl⟩ := together
      exact ⟨rfl, rfl⟩

/-- Evaluations of trees go in lock-step when those of nodes do whenever the evaluations of other
trees do: the budget ends the recursion in both at once. -/
theorem LockStep.evaluate {scope scope' : Scope} {answers : Expr → Expr → Prop}
    (pairs : List Expr × Expr → List Expr × Expr → Prop)
    (nodes : ∀ recur recur', (∀ parameters expr parameters' expr',
        pairs (parameters, expr) (parameters', expr') →
          LockStep answers (recur parameters expr) (recur' parameters' expr')) →
      ∀ parameters expr parameters' expr', pairs (parameters, expr) (parameters', expr') →
        LockStep answers (evaluateNode scope recur parameters expr)
          (evaluateNode scope' recur' parameters' expr'))
    {parameters parameters' : List Expr} {expr expr' : Expr}
    (pair : pairs (parameters, expr) (parameters', expr')) :
    LockStep answers (expr.evaluate scope parameters) (expr'.evaluate scope' parameters') := by
  have unrolled (depth : Nat) : ∀ parameters expr parameters' expr',
      pairs (parameters, expr) (parameters', expr') →
        LockStep answers (unrolled scope (fun _ _ => refuse) depth parameters expr)
          (unrolled scope' (fun _ _ => refuse) depth parameters' expr') := by
    induction depth with
    | zero => exact fun _ _ _ _ _ _ => ⟨rfl, rfl⟩
    | succ depth ih =>
      exact fun parameters expr parameters' expr' pair =>
        lockStep_simulation.bind lockStep_simulation.step fun _ _ _ => nodes _ _ ih _ _ _ _ pair
  intro budget
  rw [evaluate_eq_unrolled (fun _ _ => refuse) (Nat.lt_succ_self budget.remaining),
    evaluate_eq_unrolled (fun _ _ => refuse) (Nat.lt_succ_self budget.remaining)]
  exact unrolled _ _ _ _ _ pair budget

/-- An evaluation goes in lock-step with itself when the answers that it comes to are related to
themselves. -/
theorem LockStep.of_reached {α : Type} {answers : α → α → Prop} {run : Evaluation α}
    (reflexive : ∀ budget answer left, run budget = .ok answer left → answers answer answer) :
    LockStep answers run run := by
  intro budget
  cases answered : run budget with
  | ok answer left => exact ⟨reflexive budget answer left answered, rfl⟩
  | error failure left => exact ⟨rfl, rfl⟩

/-- An evaluation goes in lock-step with itself for answers that are related to themselves. -/
theorem LockStep.refl {α : Type} {answers : α → α → Prop}
    (reflexive : ∀ answer, answers answer answer) (run : Evaluation α) :
    LockStep answers run run :=
  .of_reached fun _ answer _ _ => reflexive answer

/-- Evaluations that go in lock-step with the same answers are the same. -/
theorem LockStep.eq {α : Type} {answers : α → α → Prop} {first second : Evaluation α}
    (together : LockStep answers first second)
    (same : ∀ answer answer', answers answer answer' → answer = answer') : first = second := by
  funext budget
  have here := together budget
  cases result : first budget <;> cases result' : second budget <;>
    simp only [result, result'] at here
  · obtain ⟨related, rfl⟩ := here
    rw [same _ _ related]
  · obtain ⟨rfl, rfl⟩ := here
    rfl

end Evaluation

end ConstExpr
