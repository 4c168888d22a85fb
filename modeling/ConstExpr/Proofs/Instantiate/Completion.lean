import ConstExpr.Proofs.Instantiate.Forms

/-!
# Complete instantiations

When every parameter that a tree mentions is bound, and every mention of a pack stands where it is
expanded, nothing dependent is left of the tree. The packs that a subtree shows are then those of
the expansion around it, whose offset selects an argument of each (`Expr.Ready`).
-/
namespace ConstExpr

namespace Ty

/-- Some part of the type is that of a dependent expression. -/
def hasDependentExpression : Ty → Bool
  | dependentExpression _ => true
  | pointer inner | const inner | reference _ inner | packExpansion inner =>
    inner.hasDependentExpression
  | _ => false

/-- The type depends on the template parameters that it names and on nothing else. -/
def IsSimple (type : Ty) : Prop := type.hasExpansion = false ∧ type.hasDependentExpression = false

/-- The type can be the pattern of an expansion. -/
def IsPattern (type : Ty) : Prop := type.IsSimple ∧ type.packs ≠ []

variable {map : Substitution} {offset : Option Nat} {type : Ty}

/-- A simple type without template parameters is not dependent. -/
theorem independent_of_silent (simple : type.IsSimple) (silent : type.mentionsParameter = false) :
    type.isDependent = false := by
  induction type with
  | pointer _ ih | const _ ih | reference _ _ ih => exact ih simple silent
  | packExpansion => exact absurd simple.1 Bool.noConfusion
  | parameter | dependentExpression => contradiction
  | _ => rfl

/-- A simple type is not dependent once all its parameters are replaced by arguments that are
not. -/
theorem independent_instantiate (simple : type.IsSimple)
    (replaced : ∀ parameter ∈ type.parameters, ∃ argument,
      map.argument? parameter.id offset = some argument ∧ argument.isDependent = false) :
    (type.instantiate map offset).isDependent = false := by
  induction type with
  | parameter given =>
    obtain ⟨argument, found, independent⟩ := replaced given (List.mem_singleton_self given)
    rw [instantiate, found]
    cases argument with
    | type => exact independent
    | nonType => rfl
  | pointer _ ih | const _ ih | reference _ _ ih => exact ih simple replaced
  | packExpansion => exact absurd simple.1 Bool.noConfusion
  | dependentExpression => exact absurd simple.2 Bool.noConfusion
  | _ => rfl

end Ty

/-- Some part of the argument's value is not known before the parameters are bound. -/
def TemplateArgument.hasDependentValue : TemplateArgument → Bool
  | .type _ => false
  | .nonType value _ => value.isDependent

/-- The type that is carried by the argument is simple, or the expansion of a pattern. -/
def TemplateArgument.ExpandsOutermost (argument : TemplateArgument) : Prop :=
  argument.hasDependentValue = false ∧
    (argument.carried.IsSimple ∨
      ∃ pattern, argument.carried = .packExpansion pattern ∧ pattern.IsPattern)

/-- The type that is carried by the argument is simple, or the argument is the expansion of a
pattern. -/
def TemplateArgument.ExpandsType (argument : TemplateArgument) : Prop :=
  argument.hasDependentValue = false ∧
    (argument.carried.IsSimple ∨
      ∃ pattern, argument = .type (.packExpansion pattern) ∧ pattern.IsPattern)

/-- An argument that expands in full is not dependent when it mentions no template parameter. -/
theorem TemplateArgument.ExpandsType.independent_of_silent {argument : TemplateArgument}
    (expands : argument.ExpandsType) (silent : argument.mentionsParameter = false) :
    argument.isDependent = false := by
  obtain ⟨known, simple | ⟨pattern, rfl, shows_⟩⟩ := expands
  · cases argument with
    | type given => exact Ty.independent_of_silent simple silent
    | nonType value given =>
      exact Bool.or_eq_false_iff.mpr ⟨known, Ty.independent_of_silent simple silent⟩
  · have none : pattern.packs = [] := Ty.packs_of_silent silent
    exact absurd none shows_.2

namespace Form

/-- Every parameter that the form mentions is bound, packs to packs. -/
def IsBound (map : Substitution) (form : Form Expr) : Prop :=
  ∀ parameter ∈ form.parameters, ∃ bound,
    map.binding? parameter.id = some bound ∧ bound.Fits parameter

/-- The types and values of the form depend on the parameters that it mentions only. Expansions are
elements of lists, or template arguments as far as allowed, and each of them shows a pack. -/
def IsExpandable (allowed : TemplateArgument → Prop) (form : Form Expr) : Prop :=
  (∀ operand ∈ form.operands, operand.isExpansion = false) ∧
    match form with
    | .overloads set => ∀ argument ∈ set.arguments, allowed argument
    | .fixed type value _ => type.IsSimple ∧ value.isDependent = false
    | .parameterRef _ type isPack => type.IsSimple ∧ (isPack = true → type.packs ≠ [])
    | .expansion pattern => ∃ pack, pattern.Shows pack
    | form => ∀ type ∈ form.types, type.IsSimple

end Form

namespace Expr

/-- The tree can be instantiated completely: all that it mentions is bound to arguments that are
not dependent, and every pack that it mentions is expanded or only measured. -/
structure Completes (allowed : TemplateArgument → Prop) (map : Substitution) (expr : Expr) :
    Prop where
  /-- No argument is dependent. -/
  independent : ∀ parameter, ∀ argument ∈ map.arguments parameter, argument.isDependent = false
  /-- Everything is bound. -/
  bound : expr.Every (Form.IsBound map)
  /-- Expansions stand in lists. -/
  expandable : expr.Every (Form.IsExpandable allowed)
  /-- The root is no element of a list. -/
  plain : expr.isExpansion = false
  /-- Mentions of packs stand in the patterns of expansions and in operands of pack sizes. -/
  hidden : ∀ pack, ¬ expr.Shows pack

/-- The tree is one of the given number of elements that an expansion has, if it shows packs: these
have that many arguments, of which the offset selects one. -/
structure Ready (map : Substitution) (offset : Option Nat) (count : Nat) (expr : Expr) : Prop where
  /-- Everything is bound. -/
  bound : expr.Every (Form.IsBound map)
  /-- Expansions stand in lists. -/
  expandable : expr.Every (Form.IsExpandable TemplateArgument.ExpandsType)
  /-- The offset selects an argument of each pack. -/
  shown : ∀ pack, expr.Shows pack →
    map.packSize pack = .count count ∧ ∃ place, offset = some place ∧ place < count

/-- A node is not value-dependent when its form is not by itself, nor are its children. -/
theorem valueIndependent_node {form : Form Expr} {template : Option TemplateId} :
    (node form template).isValueDependent = false ↔
      (form.isTypeDependent = false ∧ form.isValueDependent = false) ∧
        ∀ child ∈ form.children, child.isValueDependent = false := by
  rw [isValueDependent, anyForm_eq_false, Bool.or_eq_false_iff]
  rfl

/-- A tree is not value-dependent when its form is not by itself, nor are its children. -/
theorem Reformed.valueIndependent {origin result : Expr} {form : Form Expr}
    (reformed : origin.Reformed form result) (typeIndependent : form.isTypeDependent = false)
    (valueIndependent : form.isValueDependent = false)
    (below : ∀ child ∈ form.children, child.isValueDependent = false) :
    result.isValueDependent = false := by
  obtain ⟨actual, template⟩ := result
  obtain rfl : actual = form := reformed.form_eq
  exact valueIndependent_node.mpr ⟨⟨typeIndependent, valueIndependent⟩, below⟩

/-- A tree with expansions in lists only is not value-dependent when it mentions no template
parameter. -/
theorem valueIndependent_of_silent {expr : Expr}
    (expandable : expr.Every (Form.IsExpandable TemplateArgument.ExpandsType))
    (silent : expr.mentionsParameter = false) : expr.isValueDependent = false := by
  induction expr using Expr.induction with
  | step form template ih =>
    obtain ⟨own, below⟩ := Instantiation.silent_children silent
    refine valueIndependent_node.mpr ⟨?_, fun child member =>
      ih child member (expandable.child member) (below child member)⟩
    have simple := expandable.root.2
    cases form with
    | fixed type value category =>
      exact ⟨Ty.independent_of_silent simple.1 own, simple.2⟩
    | templateRef => contradiction
    | parameterRef position type isPack =>
      have notPack : isPack = false := by
        cases isPack with
        | false => rfl
        | true => exact absurd (Ty.packs_of_silent own) (simple.2 rfl)
      subst notPack
      exact ⟨Ty.independent_of_silent simple.1 own, rfl⟩
    | variableRef id type =>
      exact ⟨Ty.independent_of_silent (simple type (List.mem_singleton_self type)) own, rfl⟩
    | construct type arguments =>
      exact ⟨Ty.independent_of_silent (simple type (List.mem_singleton_self type)) own, rfl⟩
    | typeTrait operator type =>
      exact ⟨rfl, Ty.independent_of_silent (simple type (List.mem_singleton_self type)) own⟩
    | overloads set =>
      have independent : set.isDependent = false := List.any_eq_false.mpr fun argument member => by
        rw [(simple argument member).independent_of_silent
          (Bool.eq_false_iff.mpr (List.any_eq_false.mp own argument member))]
        exact Bool.false_ne_true
      exact ⟨independent, independent⟩
    | expansion pattern =>
      obtain ⟨pack, shown⟩ := simple
      have mentions := shown.mentionsParameter
      rw [below pattern (List.mem_singleton_self pattern)] at mentions
      contradiction
    | _ => exact ⟨rfl, rfl⟩

namespace Ready

variable {map : Substitution} {offset : Option Nat} {count : Nat} {form : Form Expr}
  {template : Option TemplateId}

/-- The children of a node that is neither an expansion nor the size of a pack are elements of the
same expansion. -/
theorem child (ready : (node form template).Ready map offset count)
    (open_ : form.hidesPacks = false) {child : Expr} (member : child ∈ form.children) :
    child.Ready map offset count :=
  ⟨ready.bound.child member, ready.expandable.child member, fun pack shown =>
    ready.shown pack (.child open_ member shown)⟩

/-- The pattern of an expansion is ready for each of its elements. -/
theorem pattern (ready : (node form template).Ready map offset count) {pattern : Expr}
    (expansion : form = .expansion pattern) {size place : Nat}
    (sized : pattern.visiblePackSize map = .count size) (below : place < size) :
    pattern.Ready map (some place) size := by
  subst expansion
  have member : pattern ∈ (Form.expansion pattern).children := List.mem_singleton_self pattern
  exact ⟨ready.bound.child member, ready.expandable.child member, fun pack shown =>
    ⟨packSize_of_shows sized shown, place, rfl, below⟩⟩

/-- The packs of a tree in which everything is bound are not deferred. -/
theorem not_deferred {expr : Expr} (bound : expr.Every (Form.IsBound map)) :
    expr.visiblePackSize map ≠ .deferred := by
  intro deferred
  obtain ⟨pack, shown, unbound⟩ := exists_unbound_of_deferred deferred
  obtain ⟨part, inside, mentioned⟩ := shown.exists_part
  obtain ⟨given, found, -⟩ := bound part inside pack mentioned
  rw [unbound] at found
  contradiction

/-- A form that stays hides no packs: it is no element of a list, and sizes of packs are known. -/
theorem open_of_stable {work : Instantiation} (same : work.map = map)
    (ready : (node form template).Ready map offset count)
    (stable : form.IsStable work offset) (plain : (node form template).isExpansion = false) :
    form.hidesPacks = false := by
  subst same
  cases form with
  | expansion => contradiction
  | unary operator operand =>
    cases operator with
    | sizeofPack =>
      have member := List.mem_singleton_self operand
      rw [Form.IsStable, packSize_of_plain (ready.expandable.root.1 operand member)] at stable
      exact absurd stable (not_deferred (ready.bound.child member))
    | _ => rfl
  | _ => rfl

variable (independent : ∀ parameter, ∀ argument ∈ map.arguments parameter,
  argument.isDependent = false)

include independent

/-- The parameters of a simple type are replaced by arguments that are not dependent. -/
theorem replaced (ready : (node form template).Ready map offset count) {type : Ty}
    (carried : type ∈ form.types) (simple : type.IsSimple) :
    ∀ parameter ∈ type.parameters, ∃ argument,
      map.argument? parameter.id offset = some argument ∧ argument.isDependent = false := by
  intro parameter mentioned
  have found : (map.argument? parameter.id offset).isSome = true := by
    cases isPack : parameter.isPack with
    | true =>
      have shown : parameter ∈ form.packs :=
        List.mem_flatMap.mpr ⟨type, carried, Ty.mem_packs simple.1 mentioned isPack⟩
      obtain ⟨sized, place, rfl, below⟩ := ready.shown parameter (.root shown)
      exact Substitution.argument?_of_packSize sized below
    | false =>
      obtain ⟨bound, found, fits⟩ :=
        ready.bound.root parameter (List.mem_flatMap.mpr ⟨type, carried, mentioned⟩)
      exact Substitution.argument?_of_fits found fits isPack offset
  obtain ⟨argument, same⟩ := Option.isSome_iff_exists.mp found
  exact ⟨argument, same, independent _ _ (Substitution.mem_arguments same)⟩

/-- A simple type becomes one that is not dependent. -/
theorem independent_type (ready : (node form template).Ready map offset count) {type : Ty}
    (carried : type ∈ form.types) (simple : type.IsSimple) :
    (type.instantiate map offset).isDependent = false :=
  Ty.independent_instantiate simple (ready.replaced independent carried simple)

/-- The template arguments of an overload set become arguments that are not dependent. -/
theorem independent_expand {set : OverloadSet}
    (ready : (node (.overloads set) template).Ready map offset count) {argument : TemplateArgument}
    (member : argument ∈ set.arguments) :
    ∀ expanded ∈ argument.expand map offset, expanded.isDependent = false := by
  have carried : argument.carried ∈ (Form.overloads set : Form Expr).types :=
    List.mem_map_of_mem member
  obtain ⟨known, simple | ⟨pattern, rfl, simple, nonempty⟩⟩ :=
    ready.expandable.root.2 argument member
  · have becomes := ready.independent_type independent carried simple
    cases argument with
    | nonType value given =>
      exact List.forall_mem_singleton.mpr (Bool.or_eq_false_iff.mpr ⟨known, becomes⟩)
    | type given =>
      cases given with
      | packExpansion => exact absurd simple.1 Bool.noConfusion
      | _ => exact List.forall_mem_singleton.mpr becomes
  · -- The pattern mentions one parameter, a pack: it tells the number of elements, and the number
    -- of each element selects an argument of it.
    obtain ⟨pack, shown⟩ := List.exists_mem_of_ne_nil _ nonempty
    have mentioned : pack ∈ pattern.parameters := Ty.mem_parameters shown
    obtain ⟨bound, found, fits⟩ :=
      ready.bound.root pack (List.mem_flatMap.mpr ⟨_, carried, mentioned⟩)
    obtain ⟨size, sized⟩ :=
      Substitution.packSize_of_fits found fits (Ty.isPack_of_mem_packs shown)
    rw [TemplateArgument.expand, Ty.packSize_of_mem shown, sized, List.forall_mem_map]
    intro place below
    refine Ty.independent_instantiate simple fun parameter mentioned => ?_
    obtain rfl : parameter = pack := Ty.eq_of_mem_packs shown mentioned
    obtain ⟨given, same⟩ := Option.isSome_iff_exists.mp
      (Substitution.argument?_of_packSize sized (List.mem_range.mp below))
    exact ⟨given, same, independent _ _ (Substitution.mem_arguments same)⟩

/-- A form that stays is not dependent by itself once it is instantiated. -/
theorem instantiated_independent {work : Instantiation} (same : work.map = map) {depth : Nat}
    (ready : (node form template).Ready map offset count)
    (stable : form.IsStable work offset) (plain : (node form template).isExpansion = false) :
    (form.instantiated work depth offset).isTypeDependent = false ∧
      (form.instantiated work depth offset).isValueDependent = false := by
  subst same
  have simple := ready.expandable.root.2
  cases form with
  | fixed type value category =>
    exact ⟨ready.independent_type independent (List.mem_singleton_self type) simple.1, simple.2⟩
  | templateRef parameter type =>
    obtain ⟨argument, found, -⟩ := ready.replaced independent List.mem_cons_self
      (simple _ List.mem_cons_self) parameter (List.mem_singleton_self _)
    rw [Form.IsStable, found] at stable
    contradiction
  | parameterRef position type isPack =>
    have typeIndependent := ready.independent_type independent (List.mem_singleton_self type)
      simple.1
    cases isPack with
    | false => exact ⟨typeIndependent, rfl⟩
    | true =>
      -- The type shows a pack, so the offset selects an element.
      obtain ⟨pack, shown⟩ := List.exists_mem_of_ne_nil _ (simple.2 rfl)
      obtain ⟨sized, place, selects, below⟩ := ready.shown pack
        (.root (List.mem_flatMap.mpr ⟨type, List.mem_singleton_self type, shown⟩))
      have selected : work.element? offset type true = some place :=
        Instantiation.element?_eq_some.mpr
          ⟨selects, rfl, count, (Ty.packSize_of_mem shown).trans sized, below⟩
      rw [Form.IsStable, selected] at stable
      contradiction
  | variableRef id type | construct type arguments =>
    have carried := List.mem_singleton_self type
    exact ⟨ready.independent_type independent carried (simple type carried), rfl⟩
  | typeTrait operator type =>
    have carried := List.mem_singleton_self type
    exact ⟨rfl, ready.independent_type independent carried (simple type carried)⟩
  | overloads set =>
    have settled : (set.expanded work.map offset).isDependent = false := by
      refine List.any_eq_false.mpr fun argument member => ?_
      rw [OverloadSet.arguments_expanded] at member
      obtain ⟨origin, inSet, expanded⟩ := List.mem_flatMap.mp member
      rw [ready.independent_expand independent inSet argument expanded]
      exact Bool.false_ne_true
    exact ⟨settled, settled⟩
  | expansion => contradiction
  | _ => exact ⟨rfl, rfl⟩

end Ready

end Expr

namespace Instantiation

variable {work : Instantiation} {depth count : Nat} {offset : Option Nat}

/-- Every tree of the given height that is ready becomes one that is not value-dependent. -/
def Completing (work : Instantiation) (depth : Nat) : Prop :=
  ∀ {offset : Option Nat} {count : Nat} {expr : Expr}, expr.height ≤ depth →
    expr.isExpansion = false → expr.Ready work.map offset count →
      (expr.instantiate work depth offset).isValueDependent = false

/-- What takes the place of an element of a list is not value-dependent. -/
theorem Completing.listed (completing : work.Completing depth) {element : Expr}
    (low : element.height ≤ depth) (ready : element.Ready work.map offset count) :
    ∀ result ∈ work.listed depth offset element, result.isValueDependent = false := by
  have spec := work.listed_spec depth offset element
  generalize work.listed depth offset element = results at spec ⊢
  cases spec with
  | plain plain => exact List.forall_mem_singleton.mpr (completing low plain ready)
  | @expanded pattern template size sized =>
    have member : pattern ∈ (Form.expansion pattern).children := List.mem_singleton_self pattern
    have plain := ready.expandable.root.1 pattern (List.mem_singleton_self pattern)
    have lower : pattern.height ≤ depth := Nat.le_of_succ_le low
    exact List.forall_mem_map.mpr fun place below =>
      completing lower plain (ready.pattern rfl sized (List.mem_range.mp below))
  | @deferred pattern template deferred =>
    exact absurd deferred
      (Expr.Ready.not_deferred (ready.bound.child (List.mem_singleton_self pattern)))
  | invalid => exact List.forall_mem_singleton.mpr rfl

/-- The parts of an instantiated form are not value-dependent. -/
theorem Completing.children (completing : work.Completing depth) {form : Form Expr}
    {template : Option TemplateId} (low : (Expr.node form template).height ≤ depth + 1)
    (ready : (Expr.node form template).Ready work.map offset count)
    (open_ : form.hidesPacks = false) :
    ∀ child ∈ (form.instantiated work depth offset).children, child.isValueDependent = false := by
  have lower := Expr.height_child_le low
  intro result member
  rcases Form.mem_children_instantiated.mp member with ⟨child, among, rfl⟩ | ⟨child, among, inPlace⟩
  · have below := Form.mem_children.mpr (.inl among)
    exact completing (lower child below) (ready.expandable.root.1 child among)
      (ready.child open_ below)
  · have below := Form.mem_children.mpr (.inr among)
    exact completing.listed (lower child below) (ready.child open_ below) result inPlace

/-- An overload set that is reduced is value-dependent only if it was before. -/
theorem valueIndependent_narrow {callee : Expr} {arguments : List Expr}
    (independent : callee.isValueDependent = false) :
    (work.narrow callee arguments).isValueDependent = false := by
  have spec := work.narrow_spec callee arguments
  generalize work.narrow callee arguments = reduced at spec ⊢
  cases spec with
  | kept => exact independent
  | reduced =>
    exact Expr.valueIndependent_node.mpr ⟨(Expr.valueIndependent_node.mp independent).1, nofun⟩

/-- Trees that are ready become trees that are not value-dependent, at each depth. -/
theorem completing (unspecialized : work.within = none)
    (independent : ∀ parameter, ∀ argument ∈ work.map.arguments parameter,
      argument.isDependent = false) (depth : Nat) : work.Completing depth := by
  induction depth with
  | zero => exact fun {_ _ expr} low => absurd low (Nat.not_le_of_lt expr.height_pos)
  | succ depth ih =>
    intro offset count expr low plain ready
    cases mentions : expr.mentionsParameter with
    | false =>
      rw [instantiate_of_silent unspecialized mentions]
      exact Expr.valueIndependent_of_silent ready.expandable mentions
    | true =>
      have outcome := work.outcome depth offset unspecialized mentions
      generalize expr.instantiate work (depth + 1) offset = result at outcome ⊢
      cases outcome with
      | @stable form template result stable reformed =>
        obtain ⟨typeIndependent, valueIndependent⟩ :=
          ready.instantiated_independent independent rfl stable plain
        exact reformed.valueIndependent typeIndependent valueIndependent
          (ih.children low ready (ready.open_of_stable rfl stable plain))
      | value replaced =>
        obtain ⟨valueIndependent, typeIndependent⟩ := Bool.or_eq_false_iff.mp
          (independent _ _ (Substitution.mem_arguments replaced))
        exact Expr.valueIndependent_node.mpr ⟨⟨typeIndependent, valueIndependent⟩, nofun⟩
      | mismatch replaced => rfl
      | @selected position place type isPack template selected =>
        exact Expr.valueIndependent_node.mpr ⟨⟨ready.independent_type independent
          (List.mem_singleton_self type) ready.expandable.root.2.1, rfl⟩, nofun⟩
      | measured sized => rfl
      | unmeasured unsized => rfl
      | @call callee arguments template =>
        obtain ⟨calleeSettled, argumentsSettled⟩ :=
          List.forall_mem_cons.mp (ih.children low ready rfl)
        exact Expr.valueIndependent_node.mpr ⟨⟨rfl, rfl⟩, List.forall_mem_cons.mpr
          ⟨valueIndependent_narrow calleeSettled, argumentsSettled⟩⟩

end Instantiation

/-- Nothing dependent is left of a tree that is instantiated completely, without a specialization
and as deep as the tree is: it is neither type-dependent nor value-dependent, and it mentions no
template parameter. -/
theorem instantiate_removes_dependence (expr : Expr) (work : Instantiation) (depth : Nat)
    (unspecialized : work.within = none)
    (completes : expr.Completes TemplateArgument.ExpandsType work.map)
    (deep : expr.height ≤ depth) :
    (expr.instantiate work depth none).isTypeDependent = false ∧
      (expr.instantiate work depth none).isValueDependent = false ∧
      (expr.instantiate work depth none).mentionsParameter = false := by
  have ready : expr.Ready work.map none 0 :=
    ⟨completes.bound, completes.expandable, fun pack shown => absurd shown (completes.hidden pack)⟩
  have settled := Instantiation.completing unspecialized completes.independent depth deep
    completes.plain ready
  refine ⟨Bool.eq_false_iff.mpr fun dependent => ?_, settled,
    Bool.eq_false_iff.mpr fun mentions => ?_⟩
  · exact Bool.eq_false_iff.mp settled (Expr.isValueDependent_of_isTypeDependent dependent)
  · exact Bool.eq_false_iff.mp settled (Expr.isValueDependent_of_mentionsParameter mentions)

/-- The call `f<Ts*...>(N, xs...)` in a template with the parameters `N` and `Ts`, where `xs` is the
function parameter pack of the types `Ts`. -/
def spreadCall : Expr :=
  .of (.call
    (.of (.overloads ⟨[⟨0⟩], "f",
      some [.type (.packExpansion (.pointer (.parameter ⟨⟨0, 1⟩, true⟩)))]⟩))
    [.of (.templateRef ⟨⟨0, 0⟩, false⟩ (.fundamental .int)),
      .of (.expansion (.of (.parameterRef 0 (.parameter ⟨⟨0, 1⟩, true⟩) true)))])

/-- A value for `N`, and two types for the pack `Ts`. -/
def spreadMap : Substitution :=
  ⟨[(⟨0, 0⟩, .single (.nonType (.integral 7) (.fundamental .int))),
    (⟨0, 1⟩, .pack [.type (.fundamental .int), .type (.fundamental .bool)])]⟩

/-- A call in which packs expand among the template arguments and among the arguments can be
instantiated completely. -/
theorem instantiate_removes_dependence_of_spread :
    spreadCall.Completes TemplateArgument.ExpandsType spreadMap ∧ spreadCall.height ≤ 3 ∧
      (spreadCall.instantiate ⟨spreadMap, none, Table.empty.scope⟩ 3 none).isValueDependent =
        false := by
  have completes : spreadCall.Completes TemplateArgument.ExpandsType spreadMap := by
    have value : ∀ parameter ∈ [TemplateParameter.mk ⟨0, 0⟩ false], ∃ bound,
        spreadMap.binding? parameter.id = some bound ∧ bound.Fits parameter :=
      List.forall_mem_singleton.mpr ⟨_, rfl, rfl⟩
    have types : ∀ parameter ∈ [TemplateParameter.mk ⟨0, 1⟩ true], ∃ bound,
        spreadMap.binding? parameter.id = some bound ∧ bound.Fits parameter :=
      List.forall_mem_singleton.mpr ⟨_, rfl, rfl⟩
    refine ⟨Substitution.forall_arguments (by decide), ?_, ?_, rfl,
      Expr.visiblePackSize_absent_iff.mp (rfl : spreadCall.visiblePackSize spreadMap = .absent)⟩
    · simp only [spreadCall, Expr.of, Expr.build, Expr.every_node, Form.children,
        List.forall_mem_cons, List.not_mem_nil, false_implies, implies_true, and_true]
      exact ⟨List.forall_mem_nil _, types, value, List.forall_mem_nil _, types⟩
    · simp only [spreadCall, Expr.of, Expr.build, Expr.every_node, Form.children,
        List.forall_mem_cons, List.not_mem_nil, false_implies, implies_true, and_true]
      have simple (parameter : TemplateParameter) : (Ty.parameter parameter).IsSimple := ⟨rfl, rfl⟩
      have pattern : (Ty.pointer (.parameter ⟨⟨0, 1⟩, true⟩)).IsPattern :=
        ⟨⟨rfl, rfl⟩, List.cons_ne_nil _ _⟩
      exact ⟨⟨List.forall_mem_singleton.mpr rfl, List.forall_mem_nil _⟩,
        ⟨List.forall_mem_nil _, List.forall_mem_singleton.mpr ⟨rfl, .inr ⟨_, rfl, pattern⟩⟩⟩,
        ⟨List.forall_mem_nil _,
          List.forall_mem_cons.mpr ⟨simple _, List.forall_mem_singleton.mpr ⟨rfl, rfl⟩⟩⟩,
        ⟨List.forall_mem_singleton.mpr rfl, _, .root List.mem_cons_self⟩,
        List.forall_mem_nil _, simple _, fun _ => List.cons_ne_nil _ _⟩
  exact ⟨completes, by decide,
    (instantiate_removes_dependence spreadCall ⟨spreadMap, none, Table.empty.scope⟩ 3 rfl completes
      (by decide)).2.1⟩

/-- Only type arguments are expanded. The type of a value among the template arguments may be an
expansion too; then it is kept, and the overload set stays dependent. -/
theorem value_argument_keeps_expansion :
    let named : Expr := .of (.overloads ⟨[⟨0⟩], "f",
      some [.nonType (.integral 1) (.packExpansion (.parameter ⟨⟨0, 0⟩, true⟩))]⟩)
    let work : Instantiation :=
      ⟨⟨[(⟨0, 0⟩, .pack [.type (.fundamental .int)])]⟩, none, Table.empty.scope⟩
    named.Completes TemplateArgument.ExpandsOutermost work.map ∧ named.height ≤ 16 ∧
      (named.instantiate work 16 none).isTypeDependent = true ∧
      (named.instantiate work 16 none).isValueDependent = true ∧
      (named.instantiate work 16 none).mentionsParameter = true := by
  intro named work
  have bound : ∀ parameter ∈ [TemplateParameter.mk ⟨0, 0⟩ true], ∃ bound,
      work.map.binding? parameter.id = some bound ∧ bound.Fits parameter :=
    List.forall_mem_singleton.mpr ⟨_, rfl, rfl⟩
  have pattern : (Ty.parameter ⟨⟨0, 0⟩, true⟩).IsPattern := ⟨⟨rfl, rfl⟩, nofun⟩
  have expands : ∀ argument ∈
      [TemplateArgument.nonType (.integral 1) (.packExpansion (.parameter ⟨⟨0, 0⟩, true⟩))],
      argument.ExpandsOutermost := List.forall_mem_singleton.mpr ⟨rfl, .inr ⟨_, rfl, pattern⟩⟩
  refine ⟨⟨Substitution.forall_arguments (by decide), ?_, ?_, rfl,
    Expr.visiblePackSize_absent_iff.mp (rfl : named.visiblePackSize work.map = .absent)⟩,
    by decide, rfl, rfl, rfl⟩
  · exact Expr.every_node.mpr ⟨bound, nofun⟩
  · exact Expr.every_node.mpr ⟨⟨nofun, expands⟩, nofun⟩

end ConstExpr
