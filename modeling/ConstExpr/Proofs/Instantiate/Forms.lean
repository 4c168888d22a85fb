import ConstExpr.Proofs.Dependence
import ConstExpr.Proofs.Packs
import Mathlib.Data.List.Basic

/-!
# What becomes of a node

Outside of a specialization, what an instantiation makes of a node is read off its form and what it
makes of the children: the node has the same form with the children replaced (`Expr.Reformed`),
except that mentions of parameters and sizes of packs become literals, that expansions in a list
spread (`Instantiation.listed`), and that a call may lose candidates.
-/
namespace ConstExpr

namespace Ty

variable {map : Substitution} {offset : Option Nat} {type : Ty}

/-- A type without template parameters is kept. -/
theorem instantiate_of_silent (silent : type.mentionsParameter = false) :
    type.instantiate map offset = type := by
  induction type with
  | pointer _ ih | const _ ih | packExpansion _ ih | reference _ _ ih =>
    rw [instantiate, ih silent]
  | parameter => contradiction
  | _ => rfl

end Ty

namespace TemplateArgument

/-- What an argument becomes, unless it is the expansion of packs whose size is known. -/
theorem expand_cases (map : Substitution) (offset : Option Nat) (argument : TemplateArgument) :
    argument.expand map offset = [argument.instantiate map offset] ∨
      ∃ pattern size, argument = .type (.packExpansion pattern) ∧
        pattern.packSize map = .count size ∧ argument.expand map offset =
          (List.range size).map fun place => .type (pattern.instantiate map (some place)) := by
  unfold expand
  split
  · next pattern =>
    cases sized : pattern.packSize map with
    | count size => exact .inr ⟨pattern, size, rfl, sized, rfl⟩
    | _ => exact .inl rfl
  · exact .inl rfl

/-- An argument becomes one argument, unless it is the expansion of packs whose size is known. -/
theorem expand_of_unsized {map : Substitution} {offset : Option Nat} {argument : TemplateArgument}
    (unsized : ∀ pattern size, argument = .type (.packExpansion pattern) →
      pattern.packSize map ≠ .count size) :
    argument.expand map offset = [argument.instantiate map offset] := by
  rcases expand_cases map offset argument with same | ⟨pattern, size, expansion, sized, -⟩
  · exact same
  · exact absurd sized (unsized pattern size expansion)

/-- An argument without template parameters becomes itself alone. -/
theorem expand_of_silent {map : Substitution} {offset : Option Nat} {argument : TemplateArgument}
    (silent : argument.mentionsParameter = false) : argument.expand map offset = [argument] := by
  have kept : argument.instantiate map offset = argument := by
    cases argument <;> rw [instantiate, Ty.instantiate_of_silent silent]
  rw [expand_of_unsized, kept]
  rintro pattern size rfl sized
  have none : pattern.packs = [] := Ty.packs_of_silent silent
  rw [Ty.packSize_of_packs_eq_nil none] at sized
  contradiction

end TemplateArgument

namespace OverloadSet

/-- The overload set with the packs among its template arguments expanded. -/
def expanded (map : Substitution) (offset : Option Nat) (set : OverloadSet) : OverloadSet :=
  { set with
    templateArguments := set.templateArguments.map fun arguments =>
      arguments.flatMap (TemplateArgument.expand map offset) }

/-- The template arguments of an overload set are expanded one after the other. -/
theorem arguments_expanded (map : Substitution) (offset : Option Nat) (set : OverloadSet) :
    (set.expanded map offset).arguments =
      set.arguments.flatMap (TemplateArgument.expand map offset) := by
  obtain ⟨candidates, name, templateArguments⟩ := set
  cases templateArguments <;> rfl

/-- An overload set is kept exactly when its template arguments are. -/
theorem expanded_eq_iff {map : Substitution} {offset : Option Nat} {set : OverloadSet} :
    set.expanded map offset = set ↔
      set.arguments.flatMap (TemplateArgument.expand map offset) = set.arguments := by
  obtain ⟨candidates, name, templateArguments⟩ := set
  cases templateArguments <;> simp [expanded, arguments]

/-- An overload set is kept when each template argument becomes itself alone. -/
theorem expanded_of_each {map : Substitution} {offset : Option Nat} {set : OverloadSet}
    (each : ∀ argument ∈ set.arguments, argument.expand map offset = [argument]) :
    set.expanded map offset = set := by
  rw [expanded_eq_iff, List.flatMap_congr each, List.flatMap_singleton']

/-- An overload set without template parameters is kept. -/
theorem expanded_of_silent {map : Substitution} {offset : Option Nat} {set : OverloadSet}
    (silent : set.mentionsParameter = false) : set.expanded map offset = set :=
  expanded_of_each fun argument member => TemplateArgument.expand_of_silent
    (Bool.eq_false_iff.mpr (List.any_eq_false.mp silent argument member))

end OverloadSet

/-- A pattern with packs is no expansion itself. -/
theorem Expr.plain_of_count {map : Substitution} {pattern : Expr} {size : Nat}
    (sized : pattern.visiblePackSize map = .count size) : pattern.isExpansion = false := by
  obtain ⟨form, template⟩ := pattern
  cases form with
  | expansion => contradiction
  | _ => rfl

/-- The tree is the origin with the given form: made anew from the origin, or the origin itself
where that is its form. -/
def Expr.Reformed (origin : Expr) (form : Form Expr) (result : Expr) : Prop :=
  result = origin.derive form ∨ result = origin ∧ origin.form = form

namespace Expr.Reformed

variable {origin result : Expr} {form : Form Expr}

/-- The form of a tree that is reformed is the given one. -/
theorem form_eq (reformed : origin.Reformed form result) : result.form = form := by
  rcases reformed with rfl | ⟨rfl, same⟩
  · rfl
  · exact same

/-- A tree that is reformed is told by its form. -/
theorem eq_node (reformed : origin.Reformed form result) :
    ∃ template, result = node form template := by
  obtain ⟨actual, template⟩ := result
  exact ⟨template, by rw [← reformed.form_eq]; rfl⟩

/-- A node that is derived only where something changed. -/
theorem deriveIf {changed : Bool} (kept : changed = false → origin.form = form) :
    origin.Reformed form ((origin.deriveIf changed form).getD origin) := by
  cases changed with
  | false => exact .inr ⟨rfl, kept rfl⟩
  | true => exact .inl rfl

end Expr.Reformed

namespace Instantiation

/-- The trees that take the place of an element of a list. -/
def listed (work : Instantiation) (depth : Nat) (offset : Option Nat) (element : Expr) :
    List Expr :=
  match element.form with
  | .expansion pattern =>
    match element.packSize work.map with
    | .count size =>
      (List.range size).map fun place => pattern.instantiate work depth (some place)
    | .deferred => [element.instantiate work depth offset]
    | .failed | .absent => [Expr.problem]
  | _ => [element.instantiate work depth offset]

/-- An offset selects the element of a function parameter pack that has this number, where the type
of the pack has so many elements. -/
theorem element?_eq_some {work : Instantiation} {offset : Option Nat} {type : Ty} {isPack : Bool}
    {place : Nat} : work.element? offset type isPack = some place ↔
      offset = some place ∧ isPack = true ∧
        ∃ size, type.packSize work.map = .count size ∧ place < size := by
  unfold element?
  split
  · next selected size sized =>
    by_cases below : selected < size
    · simp [sized, below]
      grind
    · simp [sized, below]
      grind
  · next mismatch =>
    simp only [reduceCtorEq, false_iff]
    rintro ⟨rfl, rfl, size, sized, -⟩
    exact mismatch _ _ rfl rfl sized

/-- The overload set of a call with the given arguments is reduced to the function that the call
reaches, or not at all. -/
inductive Narrowed (work : Instantiation) (arguments : List Expr) : Expr → Expr → Prop where
  /-- The callee is kept. -/
  | kept (callee : Expr) : Narrowed work arguments callee callee
  /-- One of several candidates is left. -/
  | reduced {set : OverloadSet} {function : FunctionId} {template : Option TemplateId}
    (several : 1 < set.candidates.length) (plain : arguments.any Expr.isExpansion = false)
    (resolved : work.scope.resolve set arguments.length = some function) :
    Narrowed work arguments (.node (.overloads set) template)
      (.node (.overloads { set with candidates := [function] }) template)

/-- The callee of a call is reduced or kept. -/
theorem narrow_spec (work : Instantiation) (callee : Expr) (arguments : List Expr) :
    Narrowed work arguments callee (work.narrow callee arguments) := by
  obtain ⟨form, template⟩ := callee
  cases form with
  | overloads set =>
    have derived (set' : OverloadSet) : (Expr.node (.overloads set) template).derive
        (.overloads set') = .node (.overloads set') template := Expr.derive_leaf rfl
    simp only [narrow, Expr.overloadSet?, Expr.form, derived]
    split
    · next reducible =>
      obtain ⟨several, plain⟩ := Bool.and_eq_true_iff.mp reducible
      split
      · next function resolved =>
        exact .reduced (of_decide_eq_true several) (Bool.not_eq_true' _ |>.mp plain) resolved
      · exact .kept _
    · exact .kept _
  | _ => exact .kept _

section Lists

variable {work : Instantiation} {depth : Nat} {offset : Option Nat}

/-- Where no element of a list changes the list is kept, and otherwise it becomes that of the trees
in the place of its elements. -/
theorem substituteElement_getD (element : Expr) :
    (substituteElement work (work.substitute depth) offset element).getD [element] =
      work.listed depth offset element := by
  have one : ((work.substitute depth offset element).map fun changed => [changed]).getD [element] =
      [element.instantiate work depth offset] := by
    rw [Expr.instantiate]
    cases work.substitute depth offset element <;> rfl
  unfold substituteElement listed
  cases element.form with
  | expansion pattern =>
    cases element.packSize work.map with
    | deferred => exact one
    | _ => rfl
  | _ => exact one

/-- What becomes of a list is what becomes of its elements, one after the other. -/
theorem substituteList_getD (exprs : List Expr) :
    (substituteList work (work.substitute depth) offset exprs).getD exprs =
      exprs.flatMap (work.listed depth offset) := by
  induction exprs with
  | nil => rfl
  | cons head tail ih =>
    rw [List.flatMap_cons, ← ih, ← substituteElement_getD, substituteList]
    split
    · next same rest => rw [same, rest]; rfl
    · rfl

/-- What takes the place of an element, by its form and the size of its packs. -/
inductive Listed (work : Instantiation) (depth : Nat) (offset : Option Nat) :
    Expr → List Expr → Prop where
  /-- An element that is no expansion is instantiated. -/
  | plain {element : Expr} (plain : element.isExpansion = false) :
    Listed work depth offset element [element.instantiate work depth offset]
  /-- An expansion of known size becomes its elements. -/
  | expanded {pattern : Expr} {template : Option TemplateId} {size : Nat}
    (sized : pattern.visiblePackSize work.map = .count size) :
    Listed work depth offset (.node (.expansion pattern) template)
      ((List.range size).map fun place => pattern.instantiate work depth (some place))
  /-- An expansion whose size is deferred is instantiated. -/
  | deferred {pattern : Expr} {template : Option TemplateId}
    (deferred : pattern.visiblePackSize work.map = .deferred) :
    Listed work depth offset (.node (.expansion pattern) template)
      [(Expr.node (.expansion pattern) template).instantiate work depth offset]
  /-- An expansion without packs, or of packs that do not agree, is invalid. -/
  | invalid {pattern : Expr} {template : Option TemplateId}
    (unsized : pattern.visiblePackSize work.map = .failed ∨
      pattern.visiblePackSize work.map = .absent) :
    Listed work depth offset (.node (.expansion pattern) template) [Expr.problem]

/-- What takes the place of an element is told by its form and the size of its packs. -/
theorem listed_spec (work : Instantiation) (depth : Nat) (offset : Option Nat) (element : Expr) :
    Listed work depth offset element (work.listed depth offset element) := by
  obtain ⟨form, template⟩ := element
  cases form with
  | expansion pattern =>
    simp only [listed, Expr.form, Expr.packSize]
    cases sized : pattern.visiblePackSize work.map with
    | count size => exact .expanded sized
    | deferred => exact .deferred sized
    | failed => exact .invalid (.inl sized)
    | absent => exact .invalid (.inr sized)
  | _ => exact .plain rfl

section Expansions

variable {pattern : Expr} {template : Option TemplateId}

/-- An expansion of known size becomes its elements. -/
theorem listed_of_count {size : Nat} (sized : pattern.visiblePackSize work.map = .count size) :
    work.listed depth offset (.node (.expansion pattern) template) =
      (List.range size).map fun place => pattern.instantiate work depth (some place) := by
  simp only [listed, Expr.form, Expr.packSize, sized]

/-- An expansion that is deferred is instantiated in its place. -/
theorem listed_of_deferred (deferred : pattern.visiblePackSize work.map = .deferred) :
    work.listed depth offset (.node (.expansion pattern) template) =
      [(Expr.node (.expansion pattern) template).instantiate work depth offset] := by
  simp only [listed, Expr.form, Expr.packSize, deferred]

/-- An expansion without packs, or of packs that do not agree, is invalid. -/
theorem listed_of_unsized (unsized : pattern.visiblePackSize work.map = .failed ∨
    pattern.visiblePackSize work.map = .absent) :
    work.listed depth offset (.node (.expansion pattern) template) = [Expr.problem] := by
  rcases unsized with unsized | unsized <;> simp only [listed, Expr.form, Expr.packSize, unsized]

end Expansions

/-- An element that is no expansion is instantiated in its place. -/
theorem listed_of_plain {element : Expr} (plain : element.isExpansion = false) :
    work.listed depth offset element = [element.instantiate work depth offset] := by
  have spec := work.listed_spec depth offset element
  generalize work.listed depth offset element = results at spec ⊢
  cases spec with
  | plain => rfl
  | _ => contradiction

/-- An element is instantiated in its place, if it is deferred when it is an expansion. -/
theorem listed_of_deferring {element : Expr}
    (deferring : element.isExpansion = true → element.packSize work.map = .deferred) :
    work.listed depth offset element = [element.instantiate work depth offset] := by
  have spec := work.listed_spec depth offset element
  generalize work.listed depth offset element = results at spec ⊢
  cases spec with
  | plain | deferred => rfl
  | expanded sized => cases sized.symm.trans (deferring rfl)
  | invalid unsized =>
    have deferred := deferring rfl
    rcases unsized with unsized | unsized <;> cases unsized.symm.trans deferred

/-- A list without expansions is instantiated element by element. -/
theorem flatMap_listed_of_plain {exprs : List Expr}
    (plain : ∀ expr ∈ exprs, expr.isExpansion = false) :
    exprs.flatMap (work.listed depth offset) = exprs.map (Expr.instantiate work depth offset) := by
  rw [List.flatMap_congr fun expr member => listed_of_plain (plain expr member)]
  exact List.flatMap_pure_eq_map _ _

end Lists

section Nodes

variable {work : Instantiation} {depth : Nat} {offset : Option Nat} {expr : Expr}
  {template : Option TemplateId}

/-- The answer of an instantiation that builds nothing anew is the tree itself. -/
theorem instantiate_of_kept (kept : work.substitute depth offset expr = none) :
    expr.instantiate work depth offset = expr := by
  rw [Expr.instantiate, kept, Option.getD_none]

/-- A tree without template parameters is kept. -/
theorem instantiate_of_silent (unspecialized : work.within = none)
    (silent : expr.mentionsParameter = false) : expr.instantiate work depth offset = expr := by
  have spared : work.spares expr = true := by rw [spares_eq unspecialized, silent]; rfl
  exact instantiate_of_kept (substitute_of_spares spared)

/-- What becomes of a tree that something can happen to is what becomes of its root. -/
theorem instantiate_of_entered (entered : work.spares expr = false) :
    expr.instantiate work (depth + 1) offset =
      (substituteNode work (work.substitute depth) offset expr).getD expr := by
  rw [Expr.instantiate, substitute, entered]
  rfl

/-- Outside of a specialization something can happen to a tree that mentions a template
parameter. -/
theorem spares_of_mentions (unspecialized : work.within = none)
    (mentions : expr.mentionsParameter = true) : work.spares expr = false := by
  rw [spares_eq unspecialized, mentions]
  rfl

/-- The children of a node without template parameters have none. -/
theorem silent_children {form : Form Expr}
    (silent : (Expr.node form template).mentionsParameter = false) :
    form.mentionsParameter = false ∧ ∀ child ∈ form.children, child.mentionsParameter = false :=
  Expr.anyForm_eq_false.mp silent

end Nodes

end Instantiation

/-- The form with its types instantiated, its template arguments expanded, and its children replaced
by what becomes of them. -/
def Form.instantiated (work : Instantiation) (depth : Nat) (offset : Option Nat) :
    Form Expr → Form Expr
  | .fixed type value category => .fixed (type.instantiate work.map offset) value category
  | .templateRef parameter type => .templateRef parameter (type.instantiate work.map offset)
  | .parameterRef position type isPack =>
    .parameterRef position (type.instantiate work.map offset) isPack
  | .variableRef id type => .variableRef id (type.instantiate work.map offset)
  | .unary operator operand => .unary operator (operand.instantiate work depth offset)
  | .binary operator left right =>
    .binary operator (left.instantiate work depth offset) (right.instantiate work depth offset)
  | .typeTrait operator type => .typeTrait operator (type.instantiate work.map offset)
  | .conditional condition positive negative =>
    .conditional (condition.instantiate work depth offset) (positive.instantiate work depth offset)
      (negative.instantiate work depth offset)
  | .comma operands => .comma (operands.flatMap (work.listed depth offset))
  | .call callee arguments =>
    .call (callee.instantiate work depth offset) (arguments.flatMap (work.listed depth offset))
  | .overloads set => .overloads (set.expanded work.map offset)
  | .braced clauses => .braced (clauses.flatMap (work.listed depth offset))
  | .construct type arguments =>
    .construct (type.instantiate work.map offset) (arguments.flatMap (work.listed depth offset))
  | .expansion pattern => .expansion (pattern.instantiate work depth offset)

namespace Form

variable {work : Instantiation} {depth : Nat} {offset : Option Nat}

/-- The children that are not elements of a list are instantiated. -/
theorem operands_instantiated (form : Form Expr) :
    (form.instantiated work depth offset).operands =
      form.operands.map (Expr.instantiate work depth offset) := by
  cases form <;> rfl

/-- The elements of a list become what takes their place. -/
theorem elements_instantiated (form : Form Expr) :
    (form.instantiated work depth offset).elements =
      form.elements.flatMap (work.listed depth offset) := by
  cases form <;> rfl

/-- The children of an instantiated form are what becomes of those of the form. -/
theorem mem_children_instantiated {form : Form Expr} {result : Expr} :
    result ∈ (form.instantiated work depth offset).children ↔
      (∃ operand ∈ form.operands, operand.instantiate work depth offset = result) ∨
        ∃ element ∈ form.elements, result ∈ work.listed depth offset element := by
  rw [mem_children, operands_instantiated, elements_instantiated, List.mem_map, List.mem_flatMap]

/-- Nothing of the form itself is selected: a parameter that it mentions is not replaced, an element
of a pack is not chosen, and the size of a pack is deferred. -/
def IsStable (work : Instantiation) (offset : Option Nat) : Form Expr → Prop
  | .templateRef parameter _ => work.map.argument? parameter.id offset = none
  | .parameterRef _ type isPack => work.element? offset type isPack = none
  | .unary .sizeofPack operand => operand.packSize work.map = .deferred
  | _ => True

end Form

namespace Instantiation

/-- What becomes of a node that mentions a template parameter, by its form. -/
inductive Outcome (work : Instantiation) (depth : Nat) (offset : Option Nat) : Expr → Expr → Prop
  where
  /-- The form stays, and what is in it is instantiated. -/
  | stable {form : Form Expr} {template : Option TemplateId} {result : Expr}
    (stable : form.IsStable work offset)
    (reformed : (Expr.node form template).Reformed (form.instantiated work depth offset) result) :
    Outcome work depth offset (.node form template) result
  /-- A parameter becomes the literal of the value that it is bound to. -/
  | value {parameter : TemplateParameter} {type actual : Ty} {value : Value}
    {template : Option TemplateId}
    (replaced : work.map.argument? parameter.id offset = some (.nonType value actual)) :
    Outcome work depth offset (.node (.templateRef parameter type) template)
      ((Expr.node (.templateRef parameter type) template).derive (.fixed actual value .prvalue))
  /-- A non-type parameter that is bound to a type is invalid. -/
  | mismatch {parameter : TemplateParameter} {type actual : Ty} {template : Option TemplateId}
    (replaced : work.map.argument? parameter.id offset = some (.type actual)) :
    Outcome work depth offset (.node (.templateRef parameter type) template) Expr.problem
  /-- An element of a function parameter pack is the parameter that many positions after it. -/
  | selected {position place : Nat} {type : Ty} {isPack : Bool} {template : Option TemplateId}
    (selected : work.element? offset type isPack = some place) :
    Outcome work depth offset (.node (.parameterRef position type isPack) template)
      ((Expr.node (.parameterRef position type isPack) template).derive
        (.parameterRef (position + place) (type.instantiate work.map offset) false))
  /-- The size of a pack becomes a literal. -/
  | measured {operand : Expr} {size : Nat} {template : Option TemplateId}
    (sized : operand.packSize work.map = .count size) :
    Outcome work depth offset (.node (.unary .sizeofPack operand) template)
      ((Expr.node (.unary .sizeofPack operand) template).derive
        (.fixed (.fundamental .sizeType) (.integral size) .prvalue))
  /-- The size of no pack, or of packs that do not agree, is invalid. -/
  | unmeasured {operand : Expr} {template : Option TemplateId}
    (unsized : operand.packSize work.map = .failed ∨ operand.packSize work.map = .absent) :
    Outcome work depth offset (.node (.unary .sizeofPack operand) template) Expr.problem
  /-- The overload set of a call with a part that changes is reduced. -/
  | call {callee : Expr} {arguments : List Expr} {template : Option TemplateId} :
    Outcome work depth offset (.node (.call callee arguments) template)
      ((Expr.node (.call callee arguments) template).derive
        (.call (work.narrow (callee.instantiate work depth offset)
          (arguments.flatMap (work.listed depth offset)))
          (arguments.flatMap (work.listed depth offset))))

section Nodes

variable {work : Instantiation} {depth : Nat} {offset : Option Nat} {expr : Expr}
  {template : Option TemplateId}

/-- A form whose type alone can change is derived where it does. -/
theorem reformed_of_type {form form' : Form Expr} {before after : Ty}
    (kept : after = before → form = form') :
    (Expr.node form template).Reformed form'
      (((Expr.node form template).deriveIf (after != before) form').getD (.node form template)) :=
  .deriveIf fun same => kept (bne_eq_false_iff_eq.mp same)

/-- A form with one part is derived where the part changes. -/
theorem reformed_of_part {α : Type} {form : Form Expr} {part : α} {change : Option α}
    {rebuild : α → Form Expr} (kept : form = rebuild part) :
    (Expr.node form template).Reformed (rebuild (change.getD part))
      ((change.map fun part => (Expr.node form template).derive (rebuild part)).getD
        (.node form template)) := by
  cases change with
  | none => exact .inr ⟨rfl, kept⟩
  | some part' => exact .inl rfl

/-- A call stays exactly when its callee and its arguments do. -/
theorem substituteCall_eq_none_iff {expr callee : Expr} {arguments : List Expr} :
    substituteCall work (work.substitute depth) offset expr callee arguments = none ↔
      work.substitute depth offset callee = none ∧
        substituteList work (work.substitute depth) offset arguments = none := by
  unfold substituteCall
  cases work.substitute depth offset callee <;>
    cases substituteList work (work.substitute depth) offset arguments <;> simp

/-- A call with a part that changes is derived from what becomes of its parts. -/
theorem substituteCall_eq_some {expr callee : Expr} {arguments : List Expr}
    (changed : substituteCall work (work.substitute depth) offset expr callee arguments ≠ none) :
    substituteCall work (work.substitute depth) offset expr callee arguments =
      some (expr.derive (.call (work.narrow (callee.instantiate work depth offset)
        (arguments.flatMap (work.listed depth offset)))
        (arguments.flatMap (work.listed depth offset)))) := by
  rw [← substituteList_getD, Expr.instantiate]
  unfold substituteCall at changed ⊢
  cases calleeKept : work.substitute depth offset callee with
  | some => rfl
  | none =>
    cases argumentsKept : substituteList work (work.substitute depth) offset arguments with
    | some => rfl
    | none =>
      rw [calleeKept, argumentsKept] at changed
      contradiction

/-- A node that something can happen to has the outcome of its form, unless it is an overload set
that names members of the specialization. -/
theorem outcome_of_entered (work : Instantiation) (depth : Nat) (offset : Option Nat)
    (entered : work.spares expr = false)
    (general : expr.overloadSet? ≠ none → work.specializing expr = none) :
    Outcome work depth offset expr (expr.instantiate work (depth + 1) offset) := by
  rw [instantiate_of_entered entered]
  obtain ⟨form, template⟩ := expr
  cases form with
  | fixed type value category =>
    exact .stable trivial (reformed_of_type fun same =>
      congrArg (Form.fixed · value category) same.symm)
  | variableRef id type =>
    exact .stable trivial (reformed_of_type fun same => congrArg (Form.variableRef id) same.symm)
  | typeTrait operator type =>
    exact .stable trivial (reformed_of_type fun same =>
      congrArg (Form.typeTrait operator) same.symm)
  | templateRef parameter type =>
    change Outcome _ _ _ _ ((work.substituteTemplateRef offset _ parameter type).getD _)
    rw [substituteTemplateRef]
    cases replaced : work.map.argument? parameter.id offset with
    | none =>
      exact .stable replaced (reformed_of_type fun same =>
        congrArg (Form.templateRef parameter) same.symm)
    | some argument =>
      cases argument with
      | type actual => exact .mismatch replaced
      | nonType value actual => exact .value replaced
  | parameterRef position type isPack =>
    change Outcome _ _ _ _ ((work.substituteParameterRef offset _ position type isPack).getD _)
    rw [substituteParameterRef]
    cases selected : work.element? offset type isPack with
    | none =>
      exact .stable selected (reformed_of_type fun same =>
        congrArg (Form.parameterRef position · isPack) same.symm)
    | some place => exact .selected selected
  | overloads set =>
    change Outcome _ _ _ _ ((work.substituteOverloads offset _ set).getD _)
    rw [substituteOverloads, general (Option.some_ne_none set)]
    exact .stable trivial (.deriveIf fun same =>
      congrArg Form.overloads (bne_eq_false_iff_eq.mp same).symm)
  | unary operator operand =>
    by_cases sized : operator = .sizeofPack
    · subst sized
      change Outcome _ _ _ _
        ((substituteSizeofPack work (work.substitute depth) offset _ operand).getD _)
      rw [substituteSizeofPack]
      cases found : operand.packSize work.map with
      | count size => exact .measured found
      | deferred => exact .stable found (reformed_of_part rfl)
      | failed => exact .unmeasured (.inl found)
      | absent => exact .unmeasured (.inr found)
    · cases operator with
      | sizeofPack => contradiction
      | _ => exact .stable trivial (reformed_of_part rfl)
  | binary operator left right =>
    refine .stable trivial (.deriveIf fun kept => ?_)
    rw [Bool.or_eq_false_iff, Option.isSome_eq_false_iff, Option.isSome_eq_false_iff,
      Option.isNone_iff_eq_none, Option.isNone_iff_eq_none] at kept
    rw [Form.instantiated, instantiate_of_kept kept.1, instantiate_of_kept kept.2, Expr.form]
  | conditional condition positive negative =>
    refine .stable trivial (.deriveIf fun kept => ?_)
    rw [Bool.or_eq_false_iff, Bool.or_eq_false_iff, Option.isSome_eq_false_iff,
      Option.isSome_eq_false_iff, Option.isSome_eq_false_iff, Option.isNone_iff_eq_none,
      Option.isNone_iff_eq_none, Option.isNone_iff_eq_none] at kept
    rw [Form.instantiated, instantiate_of_kept kept.1.1, instantiate_of_kept kept.1.2,
      instantiate_of_kept kept.2, Expr.form]
  | comma operands =>
    refine .stable trivial ?_
    rw [Form.instantiated, ← substituteList_getD]
    exact reformed_of_part rfl
  | braced clauses =>
    refine .stable trivial ?_
    rw [Form.instantiated, ← substituteList_getD]
    exact reformed_of_part rfl
  | construct type arguments =>
    refine .stable trivial ?_
    rw [Form.instantiated, ← substituteList_getD]
    refine .deriveIf fun kept => ?_
    rw [Bool.or_eq_false_iff, Option.isSome_eq_false_iff, Option.isNone_iff_eq_none] at kept
    have same : type.instantiate work.map offset = type := bne_eq_false_iff_eq.mp kept.1
    rw [same, kept.2, Option.getD_none, Expr.form]
  | expansion pattern => exact .stable trivial (reformed_of_part rfl)
  | call callee arguments =>
    change Outcome _ _ _ _
      ((substituteCall work (work.substitute depth) offset _ callee arguments).getD _)
    by_cases kept : substituteCall work (work.substitute depth) offset
        (.node (.call callee arguments) template) callee arguments = none
    · obtain ⟨calleeKept, argumentsKept⟩ := substituteCall_eq_none_iff.mp kept
      rw [kept]
      refine .stable trivial (.inr ⟨rfl, ?_⟩)
      rw [Form.instantiated, ← substituteList_getD, argumentsKept, instantiate_of_kept calleeKept,
        Option.getD_none, Expr.form]
    · rw [substituteCall_eq_some kept]
      exact .call

/-- Outside of a specialization a node that mentions a template parameter has the outcome of its
form. -/
theorem outcome (work : Instantiation) (depth : Nat) (offset : Option Nat)
    (unspecialized : work.within = none) (mentions : expr.mentionsParameter = true) :
    Outcome work depth offset expr (expr.instantiate work (depth + 1) offset) := by
  refine outcome_of_entered work depth offset (spares_of_mentions unspecialized mentions)
    fun _ => ?_
  rw [specializing, unspecialized]
  rfl

/-- An overload set becomes one of as many candidates. -/
theorem exists_overloads_instantiate (work : Instantiation) (depth : Nat) (offset : Option Nat)
    (set : OverloadSet) (template : Option TemplateId) :
    ∃ set', ((Expr.node (.overloads set) template).instantiate work depth offset).form =
      .overloads set' ∧ set'.candidates.length = set.candidates.length := by
  cases depth with
  | zero => exact ⟨set, rfl, rfl⟩
  | succ depth =>
    cases entered : work.spares (.node (.overloads set) template) with
    | true => exact ⟨set, by rw [instantiate_of_kept (substitute_of_spares entered)]; rfl, rfl⟩
    | false =>
      rw [instantiate_of_entered entered]
      change ∃ set', ((work.substituteOverloads offset _ set).getD _).form = _ ∧ _
      rw [substituteOverloads]
      refine ⟨_, Expr.Reformed.form_eq (.deriveIf fun same => ?_), ?_⟩
      · exact congrArg Form.overloads (bne_eq_false_iff_eq.mp same).symm
      · dsimp only
        split
        · exact List.length_map _
        · rfl

/-- An expansion becomes an expansion, and nothing else does. -/
theorem isExpansion_instantiate (work : Instantiation) (depth : Nat) (offset : Option Nat)
    (expr : Expr) : (expr.instantiate work depth offset).isExpansion = expr.isExpansion := by
  cases depth with
  | zero => rfl
  | succ depth =>
    cases entered : work.spares expr with
    | true => rw [instantiate_of_kept (substitute_of_spares entered)]
    | false =>
      obtain ⟨form, template⟩ := expr
      cases named : (Expr.node form template).overloadSet? with
      | some set =>
        obtain ⟨rfl⟩ : form = .overloads set := by
          cases form <;> cases named
          rfl
        obtain ⟨set', same, -⟩ := exists_overloads_instantiate work (depth + 1) offset set template
        rw [Expr.isExpansion, same]
        rfl
      | none =>
        have outcome := outcome_of_entered work depth offset entered fun absurd' =>
          absurd named absurd'
        generalize (Expr.node form template).instantiate work (depth + 1) offset = result at outcome
        cases outcome with
        | stable _ reformed =>
          rw [Expr.isExpansion, reformed.form_eq]
          cases form <;> rfl
        | _ => rfl

/-- An expansion among the trees in the place of an element is what becomes of the element, which is
a deferred expansion. -/
theorem of_expansion_listed {element result : Expr}
    (inPlace : result ∈ work.listed depth offset element) (expansion : result.isExpansion = true) :
    element.isExpansion = true ∧ element.packSize work.map = .deferred ∧
      result = element.instantiate work depth offset := by
  have spec := work.listed_spec depth offset element
  generalize work.listed depth offset element = results at spec inPlace
  cases spec with
  | plain plain =>
    obtain rfl := List.mem_singleton.mp inPlace
    rw [isExpansion_instantiate, plain] at expansion
    contradiction
  | expanded sized =>
    obtain ⟨place, -, rfl⟩ := List.mem_map.mp inPlace
    rw [isExpansion_instantiate, Expr.plain_of_count sized] at expansion
    contradiction
  | deferred deferred => exact ⟨rfl, deferred, List.mem_singleton.mp inPlace⟩
  | invalid =>
    obtain rfl := List.mem_singleton.mp inPlace
    contradiction

end Nodes

end Instantiation

end ConstExpr
