import ConstExpr.Proofs.Instantiate.Kept

/-!
# Exact results of an instantiation

In a tree that is put together node by node an instantiation keeps the template definition of every
node that it derives, so what becomes of a node is known exactly: a form of which nothing is
selected is instantiated in its place (`Instantiation.instantiate_stable`), and the forms that are
selected from have an equation each.
-/
namespace ConstExpr

namespace Instantiation

section Nodes

variable {work : Instantiation} {depth : Nat} {offset : Option Nat} {form : Form Expr}
  {template : Option TemplateId}

/-- A list stays whose elements are kept and whose expansions are deferred. -/
theorem flatMap_listed_of_kept {exprs : List Expr}
    (deferred : ∀ element ∈ exprs, element.isExpansion = true →
      element.packSize work.map = .deferred)
    (kept : ∀ element ∈ exprs, work.substitute depth offset element = none) :
    exprs.flatMap (work.listed depth offset) = exprs := by
  rw [← substituteList_getD, substituteList_eq_none_iff.mpr ⟨deferred, kept⟩, Option.getD_none]

/-- A form whose parts stay is the one that is instantiated. -/
theorem instantiated_of_kept (types : form.KeepsTypes work offset)
    (operands : ∀ child ∈ form.operands, child.instantiate work depth offset = child)
    (elements : form.elements.flatMap (work.listed depth offset) = form.elements) :
    form.instantiated work depth offset = form := by
  cases form with
  | templateRef parameter type => exact congrArg (Form.templateRef parameter) types
  | overloads set => exact congrArg Form.overloads types
  | _ =>
    simp only [Form.KeepsTypes, Form.types, Form.operands, Form.elements,
      List.forall_mem_cons] at types operands elements
    simp only [Form.instantiated, types, operands, elements]

/-- The types of a form without template parameters stay. -/
theorem keepsTypes_of_silent (silent : form.mentionsParameter = false) :
    form.KeepsTypes work offset := by
  have types : ∀ type ∈ form.types, type.instantiate work.map offset = type := by
    intro type carried
    rw [Form.mentionsParameter_eq] at silent
    exact Ty.instantiate_of_silent
      (Bool.eq_false_iff.mpr (List.any_eq_false.mp silent type carried))
  cases form with
  | templateRef => contradiction
  | overloads set => exact OverloadSet.expanded_of_silent silent
  | _ => exact types

/-- A node without parameters has no expansions among its elements, if those would mention some. -/
theorem plain_of_spread (silent : (Expr.node form template).mentionsParameter = false)
    (spread : (Expr.node form template).mentionsParameter = true ∨
      ∀ element ∈ form.elements, element.isExpansion = true → element.mentionsParameter = true) :
    ∀ element ∈ form.elements, element.isExpansion = false := by
  intro element member
  refine Bool.eq_false_iff.mpr fun expansion => ?_
  rcases spread with mentions | spread
  · rw [silent] at mentions
    contradiction
  · have mentions := spread element member expansion
    rw [(silent_children silent).2 element (Form.mem_children.mpr (.inr member))] at mentions
    contradiction

/-- A type whose packs have a number of elements mentions a parameter. -/
theorem mentionsParameter_of_element? {type : Ty} {isPack : Bool} {place : Nat}
    (selected : work.element? offset type isPack = some place) : type.mentionsParameter = true := by
  obtain ⟨-, -, size, sized, -⟩ := element?_eq_some.mp selected
  obtain ⟨pack, shown⟩ := Ty.exists_shown sized
  cases silent : type.mentionsParameter with
  | true => rfl
  | false =>
    rw [Ty.packs_of_silent silent] at shown
    contradiction

variable (unspecialized : work.within = none)

include unspecialized

/-- A form without template parameters stays when it is instantiated, unless it has elements that
are expansions. -/
theorem instantiated_of_silent (silent : (Expr.node form template).mentionsParameter = false)
    (plain : ∀ element ∈ form.elements, element.isExpansion = false) :
    form.instantiated work depth offset = form := by
  obtain ⟨own, below⟩ := silent_children silent
  refine instantiated_of_kept ?_ (fun child member => ?_) (flatMap_listed_of_kept
    (fun element member expansion => ?_) fun element member => ?_)
  · exact keepsTypes_of_silent own
  · exact instantiate_of_silent unspecialized (below child (Form.mem_children.mpr (.inl member)))
  · rw [plain element member] at expansion
    contradiction
  · refine substitute_of_spares ?_
    rw [spares_eq unspecialized, below element (Form.mem_children.mpr (.inr member))]
    rfl

/-- A tree that changes mentions a template parameter. -/
theorem mentionsParameter_of_changed {expr : Expr}
    (changed : work.substitute depth offset expr ≠ none) : expr.mentionsParameter = true := by
  cases mentions : expr.mentionsParameter with
  | true => rfl
  | false =>
    refine absurd (substitute_of_spares ?_) changed
    rw [spares_eq unspecialized, mentions]
    rfl

/-- The form of a node that is kept stays when it is instantiated, unless the node mentions no
parameter and has elements that are expansions. -/
theorem instantiated_of_substitute
    (kept : work.substitute (depth + 1) offset (.node form template) = none)
    (spread : (Expr.node form template).mentionsParameter = true ∨
      ∀ element ∈ form.elements, element.isExpansion = true → element.mentionsParameter = true) :
    form.instantiated work depth offset = form := by
  cases mentions : (Expr.node form template).mentionsParameter with
  | true =>
    obtain ⟨keeps, children⟩ := (substitute_eq_none_iff unspecialized mentions).mp kept
    refine instantiated_of_kept keeps.types (fun child member => instantiate_of_kept ?_)
      (flatMap_listed_of_kept keeps.deferred fun element member => ?_)
    · exact children child (Form.mem_children.mpr (.inl member))
    · exact children element (Form.mem_children.mpr (.inr member))
  | false => exact instantiated_of_silent unspecialized mentions (plain_of_spread mentions spread)

/-- A node whose form stays is the one of the instantiated form, when its children take it into no
template definition. -/
theorem instantiate_stable (stable : form.IsStable work offset)
    (ordinary : ∀ callee arguments, form ≠ .call callee arguments)
    (spread : (Expr.node form template).mentionsParameter = true ∨
      ∀ element ∈ form.elements, element.isExpansion = true → element.mentionsParameter = true)
    (coherent : template = none →
      ∀ child ∈ (form.instantiated work depth offset).children, child.template = none) :
    (Expr.node form template).instantiate work (depth + 1) offset =
      .node (form.instantiated work depth offset) template := by
  cases mentions : (Expr.node form template).mentionsParameter with
  | true =>
    have outcome := work.outcome depth offset unspecialized mentions
    generalize (Expr.node form template).instantiate work (depth + 1) offset = result at outcome ⊢
    cases outcome with
    | stable _ reformed => exact reformed.exact coherent
    | value replaced | mismatch replaced =>
      rw [Form.IsStable, replaced] at stable
      contradiction
    | selected selected =>
      rw [Form.IsStable, selected] at stable
      contradiction
    | measured sized =>
      rw [Form.IsStable, sized] at stable
      contradiction
    | unmeasured unsized =>
      rw [Form.IsStable] at stable
      rcases unsized with unsized | unsized <;> rw [unsized] at stable <;> contradiction
    | call => exact absurd rfl (ordinary _ _)
  | false =>
    rw [instantiate_of_silent unspecialized mentions,
      instantiated_of_silent unspecialized mentions (plain_of_spread mentions spread)]

/-- A mention of a non-type parameter becomes the literal of the value that the parameter is bound
to, or else stays with its type instantiated. -/
theorem instantiate_templateRef (parameter : TemplateParameter) (type : Ty) :
    (Expr.node (.templateRef parameter type) template).instantiate work (depth + 1) offset =
      match work.map.argument? parameter.id offset with
      | some (.nonType value actual) => .node (.fixed actual value .prvalue) template
      | some (.type _) => Expr.problem
      | none => .node (.templateRef parameter (type.instantiate work.map offset)) template := by
  have outcome := work.outcome depth offset unspecialized
    (rfl : (Expr.node (.templateRef parameter type) template).mentionsParameter = true)
  generalize (Expr.node (.templateRef parameter type) template).instantiate work (depth + 1)
    offset = result at outcome ⊢
  cases outcome with
  | stable stable reformed =>
    rw [Form.IsStable] at stable
    rw [stable]
    exact reformed.exact fun _ => List.forall_mem_nil _
  | value replaced =>
    rw [replaced]
    exact Expr.derive_leaf rfl
  | mismatch replaced => rw [replaced]

/-- The element of a function parameter pack that is selected is the parameter that many positions
after it; other mentions of parameters stay with their types instantiated. -/
theorem instantiate_parameterRef (position : Nat) (type : Ty) (isPack : Bool) :
    (Expr.node (.parameterRef position type isPack) template).instantiate work (depth + 1) offset =
      match work.element? offset type isPack with
      | some place => .node
        (.parameterRef (position + place) (type.instantiate work.map offset) false) template
      | none => .node (.parameterRef position (type.instantiate work.map offset) isPack)
        template := by
  cases selected : work.element? offset type isPack with
  | none =>
    have stable : (Form.parameterRef position type isPack : Form Expr).IsStable work offset :=
      selected
    exact instantiate_stable unspecialized stable nofun (.inr nofun) fun _ => nofun
  | some place =>
    have mentions : (Expr.node (.parameterRef position type isPack) template).mentionsParameter =
        true := by
      rw [Expr.mentionsParameter, Expr.anyForm_eq, Form.mentionsParameter,
        mentionsParameter_of_element? selected, Bool.true_or]
    have outcome := work.outcome depth offset unspecialized mentions
    generalize (Expr.node (.parameterRef position type isPack) template).instantiate work
      (depth + 1) offset = result at outcome ⊢
    cases outcome with
    | stable stable =>
      rw [Form.IsStable, selected] at stable
      contradiction
    | @selected _ found _ _ _ again =>
      obtain rfl : found = place := Option.some.inj (again.symm.trans selected)
      exact Expr.derive_leaf rfl

/-- The size of packs becomes a literal, is deferred with its operand instantiated, or is
invalid. -/
theorem instantiate_sizeofPack (operand : Expr)
    (mentions : (Expr.node (.unary .sizeofPack operand) template).mentionsParameter = true)
    (coherent : operand.packSize work.map = .deferred → template = none →
      (operand.instantiate work depth offset).template = none) :
    (Expr.node (.unary .sizeofPack operand) template).instantiate work (depth + 1) offset =
      match operand.packSize work.map with
      | .count size => .node (.fixed (.fundamental .sizeType) (.integral size) .prvalue) template
      | .deferred => .node (.unary .sizeofPack (operand.instantiate work depth offset)) template
      | .failed | .absent => Expr.problem := by
  have outcome := work.outcome depth offset unspecialized mentions
  generalize (Expr.node (.unary .sizeofPack operand) template).instantiate work (depth + 1) offset =
    result at outcome ⊢
  cases outcome with
  | stable stable reformed =>
    rw [Form.IsStable] at stable
    rw [stable]
    exact reformed.exact fun absent => List.forall_mem_singleton.mpr (coherent stable absent)
  | measured sized =>
    rw [sized]
    exact Expr.derive_leaf rfl
  | unmeasured unsized => rcases unsized with unsized | unsized <;> rw [unsized]

/-- A call with a part that changes has its overload set reduced. -/
theorem instantiate_call {callee : Expr} {arguments : List Expr}
    (changed : work.substitute (depth + 1) offset (.node (.call callee arguments) template) ≠ none)
    (coherent : template = none → ∀ child ∈
      ((Form.call callee arguments).instantiated work depth offset).children,
        child.template = none) :
    (Expr.node (.call callee arguments) template).instantiate work (depth + 1) offset =
      .node (.call (work.narrow (callee.instantiate work depth offset)
        (arguments.flatMap (work.listed depth offset)))
        (arguments.flatMap (work.listed depth offset))) template := by
  have entered : work.spares (.node (.call callee arguments) template) = false := by
    rw [spares_eq unspecialized, mentionsParameter_of_changed unspecialized changed]
    rfl
  rw [Expr.instantiate]
  rw [substitute, entered, if_neg Bool.false_ne_true] at changed ⊢
  change (substituteCall work (work.substitute depth) offset _ callee arguments).getD _ = _
  rw [substituteCall_eq_some changed]
  exact Expr.derive_eq fun absent => List.forall_mem_cons.mpr
    ⟨(work.template_narrow _ _).trans (coherent absent _ List.mem_cons_self),
      fun child member => coherent absent child (List.mem_cons_of_mem _ member)⟩

/-- An overload set has its template arguments expanded. -/
theorem instantiate_overloads (set : OverloadSet) :
    (Expr.node (.overloads set) template).instantiate work (depth + 1) offset =
      .node (.overloads (set.expanded work.map offset)) template :=
  instantiate_stable unspecialized trivial nofun (.inr nofun) fun _ => nofun

end Nodes

/-- What an overload set is reduced to depends on the point of instantiation alone. -/
theorem narrow_congr {early late : Instantiation} (same : early.scope = late.scope) :
    early.narrow = late.narrow := by
  funext callee arguments
  unfold narrow
  rw [same]

namespace Narrowed

variable {work : Instantiation} {callee reduced : Expr} {arguments : List Expr}

/-- An overload set that is reduced stays in its template definition. -/
theorem template_eq (narrowed : Narrowed work arguments callee reduced) :
    reduced.template = callee.template := by
  cases narrowed <;> rfl

/-- An overload set is reduced to the same function after it was reduced. -/
theorem narrow_eq (narrowed : Narrowed work arguments callee reduced) :
    work.narrow reduced arguments = work.narrow callee arguments := by
  cases narrowed with
  | kept => rfl
  | @reduced set function template several plain resolved =>
    have derived : (Expr.node (.overloads set) template).derive
        (.overloads { set with candidates := [function] }) =
          .node (.overloads { set with candidates := [function] }) template := Expr.derive_leaf rfl
    simp [narrow, Expr.overloadSet?, Expr.form, several, plain, resolved, derived]

/-- What an overload set is reduced to becomes what the overload set that it becomes is reduced
to. -/
theorem instantiate {late : Instantiation} (unspecialized : late.within = none)
    (sameScope : work.scope = late.scope) (narrowed : Narrowed work arguments callee reduced)
    (depth : Nat) (offset : Option Nat) :
    Narrowed late (arguments.flatMap (late.listed depth offset))
      (callee.instantiate late depth offset) (reduced.instantiate late depth offset) := by
  cases narrowed with
  | kept => exact .kept _
  | @reduced set function template several plain resolved =>
    have each : ∀ argument ∈ arguments, argument.isExpansion = false := fun argument member =>
      Bool.eq_false_iff.mpr (List.any_eq_false.mp plain argument member)
    rw [flatMap_listed_of_plain each]
    have plainLate : (arguments.map (Expr.instantiate late depth offset)).any Expr.isExpansion =
        false := by
      rw [List.any_map, List.any_eq_false]
      intro argument member
      exact Bool.eq_false_iff.mp ((isExpansion_instantiate ..).trans (each argument member))
    have resolvedLate : late.scope.resolve set
        (arguments.map (Expr.instantiate late depth offset)).length = some function := by
      rwa [List.length_map, ← sameScope]
    cases depth with
    | zero => exact .reduced several plainLate resolvedLate
    | succ depth =>
      rw [instantiate_overloads unspecialized, instantiate_overloads unspecialized]
      exact .reduced several plainLate resolvedLate

end Narrowed

end Instantiation

end ConstExpr
