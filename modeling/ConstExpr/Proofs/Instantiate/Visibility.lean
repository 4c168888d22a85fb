import ConstExpr.Proofs.Instantiate.Forms

/-!
# Packs that an instantiation leaves

An instantiation shows no pack that was not shown before, and none that it replaces
(`shows_instantiate`). Where it replaces no pack that is shown, a search for packs finds the same as
before (`visiblePackSize_instantiate`): what takes the place of the expansions inside shows nothing.
-/
namespace ConstExpr

/-- No argument that is bound mentions a template parameter. -/
def Substitution.IsClosed (map : Substitution) : Prop :=
  ∀ parameter, ∀ argument ∈ map.arguments parameter, argument.mentionsParameter = false

section Types

variable {map : Substitution} {offset : Option Nat} {pack : TemplateParameter}

/-- An argument that replaces a parameter mentions none. -/
theorem Substitution.IsClosed.silent (closed : map.IsClosed) {parameter : ParameterId}
    {argument : TemplateArgument} (replaced : map.argument? parameter offset = some argument) :
    argument.mentionsParameter = false :=
  closed parameter argument (mem_arguments replaced)

namespace Ty

variable {type : Ty}

/-- A type of which no parameter is replaced stays. -/
theorem instantiate_of_unreplaced
    (unreplaced : ∀ parameter ∈ type.parameters, map.argument? parameter.id offset = none) :
    type.instantiate map offset = type := by
  induction type with
  | parameter mentioned =>
    rw [instantiate, unreplaced mentioned (List.mem_singleton_self _)]
  | pointer _ ih | const _ ih | packExpansion _ ih | reference _ _ ih =>
    rw [instantiate, ih unreplaced]
  | _ => rfl

/-- A type either stays, its parameter not being replaced, or its parameter is replaced and none is
left. -/
theorem instantiate_cases (closed : map.IsClosed) (offset : Option Nat) (type : Ty) :
    (type.instantiate map offset = type ∧
      ∀ parameter ∈ type.parameters, map.argument? parameter.id offset = none) ∨
    ((type.instantiate map offset).mentionsParameter = false ∧
      ∃ parameter, type.parameters = [parameter] ∧
        (map.argument? parameter.id offset).isSome = true) := by
  induction type with
  | parameter mentioned =>
    cases replaced : map.argument? mentioned.id offset with
    | none =>
      exact .inl ⟨by rw [instantiate, replaced], List.forall_mem_singleton.mpr replaced⟩
    | some argument =>
      refine .inr ⟨?_, mentioned, rfl, by rw [replaced]; rfl⟩
      rw [instantiate, replaced]
      cases argument with
      | type => exact closed.silent replaced
      | nonType => rfl
  | pointer _ ih | const _ ih | packExpansion _ ih | reference _ _ ih =>
    rcases ih with ⟨same, unreplaced⟩ | ⟨silent, replaced⟩
    · exact .inl ⟨by rw [instantiate, same], unreplaced⟩
    · exact .inr ⟨silent, replaced⟩
  | _ => exact .inl ⟨rfl, List.forall_mem_nil _⟩

/-- An instantiated type shows only packs that the type showed and that are not replaced. -/
theorem shows_instantiate (closed : map.IsClosed)
    (shown : pack ∈ (type.instantiate map offset).packs) :
    pack ∈ type.packs ∧ map.argument? pack.id offset = none := by
  rcases instantiate_cases closed offset type with ⟨same, unreplaced⟩ | ⟨silent, -⟩
  · rw [same] at shown
    exact ⟨shown, unreplaced pack (mem_parameters shown)⟩
  · rw [packs_of_silent silent] at shown
    contradiction

/-- A search finds the same in a type of which no pack that it shows is replaced. -/
theorem packSize_instantiate (closed : map.IsClosed)
    (unreplaced : ∀ pack ∈ type.packs, map.argument? pack.id offset = none) (other : Substitution) :
    (type.instantiate map offset).packSize other = type.packSize other := by
  rcases instantiate_cases closed offset type with ⟨same, -⟩ | ⟨silent, parameter, only, replaced⟩
  · rw [same]
  · have none : type.packs = [] := List.eq_nil_iff_forall_not_mem.mpr fun pack shown => by
      have same : pack = parameter := List.mem_singleton.mp (only ▸ mem_parameters shown)
      rw [← same, unreplaced pack shown] at replaced
      contradiction
    rw [packSize_of_packs_eq_nil none, packSize_of_packs_eq_nil (packs_of_silent silent)]

end Ty

namespace TemplateArgument

variable {argument : TemplateArgument}

/-- The type that an instantiated argument carries. -/
theorem carried_instantiate :
    (argument.instantiate map offset).carried = argument.carried.instantiate map offset := by
  cases argument <;> rfl

/-- The pattern of an expansion mentions no parameter in its elements. -/
theorem silent_of_expanded (closed : map.IsClosed) {pattern : Ty} {size place : Nat}
    (sized : pattern.packSize map = .count size) (below : place < size) :
    (pattern.instantiate map (some place)).mentionsParameter = false := by
  rcases Ty.instantiate_cases closed (some place) pattern with ⟨-, unreplaced⟩ | ⟨silent, -⟩
  · obtain ⟨pack, shown⟩ := Ty.exists_shown sized
    have selected := Substitution.argument?_of_packSize
      ((Ty.packSize_of_mem shown).symm.trans sized) below
    rw [unreplaced pack (Ty.mem_parameters shown)] at selected
    contradiction
  · exact silent

/-- What an argument becomes shows only packs that the argument showed and that are not
replaced. -/
theorem shows_expand (closed : map.IsClosed) {result : TemplateArgument}
    (becomes : result ∈ argument.expand map offset) (shown : pack ∈ result.carried.packs) :
    pack ∈ argument.carried.packs ∧ map.argument? pack.id offset = none := by
  rcases expand_cases map offset argument with same | ⟨pattern, size, rfl, sized, each⟩
  · rw [same, List.mem_singleton] at becomes
    rw [becomes, carried_instantiate] at shown
    exact Ty.shows_instantiate closed shown
  · rw [each] at becomes
    obtain ⟨place, below, rfl⟩ := List.mem_map.mp becomes
    have none : (Ty.instantiate map (some place) pattern).packs = [] :=
      Ty.packs_of_silent (silent_of_expanded closed sized (List.mem_range.mp below))
    rw [carried, none] at shown
    contradiction

/-- A search finds the same in what an argument becomes, when no pack that it shows is replaced. -/
theorem packSize_expand (closed : map.IsClosed)
    (unreplaced : ∀ pack ∈ argument.carried.packs, map.argument? pack.id offset = none)
    (other : Substitution) (found : PackSize) :
    ((argument.expand map offset).map fun result => result.carried.packSize other).foldl
      .combine found = found.combine (argument.carried.packSize other) := by
  rcases expand_cases map offset argument with same | ⟨pattern, size, rfl, sized, each⟩
  · rw [same, List.map_singleton, List.foldl_cons, List.foldl_nil, carried_instantiate,
      Ty.packSize_instantiate closed unreplaced]
  · -- Neither the expansion nor one of its elements shows a pack.
    have absent : ∀ result ∈ ((List.range size).map fun place =>
        TemplateArgument.type (pattern.instantiate map (some place))).map
          fun result => result.carried.packSize other, result = .absent := by
      rw [List.map_map, List.forall_mem_map]
      exact fun place below => Ty.packSize_of_packs_eq_nil
        (Ty.packs_of_silent (silent_of_expanded closed sized (List.mem_range.mp below)))
    rw [each, PackSize.foldl_absent absent]
    exact PackSize.combine_absent.symm

end TemplateArgument

end Types

/-- The types of non-type parameters that the form declares mention no packs. -/
def Form.DeclaresSingly : Form Expr → Prop
  | .templateRef _ type => ∀ parameter ∈ type.parameters, parameter.isPack = false
  | _ => True

namespace Form

variable {work : Instantiation} {depth : Nat} {offset : Option Nat} {form : Form Expr}
  {pack : TemplateParameter}

/-- A form hides packs exactly when it does after it is instantiated. -/
theorem hidesPacks_instantiated (form : Form Expr) :
    (form.instantiated work depth offset).hidesPacks = form.hidesPacks := by
  cases form with
  | unary operator operand => cases operator <;> rfl
  | _ => rfl

/-- A form that stays shows only packs that it showed and that are not replaced. -/
theorem shows_instantiated (closed : work.map.IsClosed) (stable : form.IsStable work offset)
    (shown : pack ∈ (form.instantiated work depth offset).packs) :
    pack ∈ form.packs ∧ work.map.argument? pack.id offset = none := by
  obtain ⟨type', carried', shown⟩ := List.mem_flatMap.mp shown
  -- Each type that is carried has become of one that was.
  suffices ∃ type ∈ form.types, pack ∈ type.packs ∧ work.map.argument? pack.id offset = none by
    obtain ⟨type, carried, shown, kept⟩ := this
    exact ⟨List.mem_flatMap.mpr ⟨type, carried, shown⟩, kept⟩
  cases form with
  | templateRef parameter type =>
    rcases List.mem_cons.mp carried' with rfl | carried'
    · have same : pack = parameter := List.mem_singleton.mp (Ty.mem_parameters shown)
      exact ⟨_, List.mem_cons_self, shown, same ▸ stable⟩
    · obtain rfl := List.mem_singleton.mp carried'
      exact ⟨type, List.mem_cons_of_mem _ (List.mem_singleton_self _),
        Ty.shows_instantiate closed shown⟩
  | overloads set =>
    obtain ⟨result, member, rfl⟩ := List.mem_map.mp carried'
    rw [OverloadSet.arguments_expanded] at member
    obtain ⟨argument, inSet, becomes⟩ := List.mem_flatMap.mp member
    exact ⟨argument.carried, List.mem_map_of_mem inSet,
      TemplateArgument.shows_expand closed becomes shown⟩
  | fixed type | parameterRef position type | variableRef id type | typeTrait operator type
  | construct type =>
    obtain rfl := List.mem_singleton.mp carried'
    exact ⟨type, List.mem_singleton_self _, Ty.shows_instantiate closed shown⟩
  | _ => contradiction

/-- A search finds the same in a form that stays, when no pack that it shows is replaced. -/
theorem packSize_instantiated (closed : work.map.IsClosed) (stable : form.IsStable work offset)
    (unreplaced : ∀ pack ∈ form.packs, work.map.argument? pack.id offset = none)
    (other : Substitution) :
    (form.instantiated work depth offset).packSize other = form.packSize other := by
  have each : ∀ type ∈ form.types,
      (type.instantiate work.map offset).packSize other = type.packSize other :=
    fun type carried => Ty.packSize_instantiate closed
      (fun pack shown => unreplaced pack (List.mem_flatMap.mpr ⟨type, carried, shown⟩)) other
  cases form with
  | templateRef parameter type =>
    rw [instantiated, packSize, packSize, each type (List.mem_cons_of_mem _ List.mem_cons_self)]
  | overloads set =>
    rw [instantiated, packSize_eq, packSize_eq, types, types, OverloadSet.arguments_expanded,
      List.map_map, List.map_map]
    refine PackSize.foldl_flatMap fun argument member found =>
      TemplateArgument.packSize_expand closed (fun pack shown => ?_) other found
    exact unreplaced pack (List.mem_flatMap.mpr ⟨_, List.mem_map_of_mem member, shown⟩)
  | fixed type | parameterRef position type | variableRef id type | typeTrait operator type
  | construct type => exact each type (List.mem_singleton_self type)
  | _ => rfl

end Form

/-- The invalid expression shows no packs. -/
theorem Expr.not_shows_problem {pack : TemplateParameter} : ¬ problem.Shows pack :=
  visiblePackSize_absent_iff.mp (rfl : problem.visiblePackSize .empty = .absent) pack

namespace Instantiation

variable {work : Instantiation} {depth : Nat} {offset : Option Nat} {expr : Expr}

/-- What an instantiation of trees of the given height shows was shown before and is not
replaced. -/
def Showing (work : Instantiation) (depth : Nat) : Prop :=
  ∀ {offset : Option Nat} {expr : Expr} {pack : TemplateParameter}, expr.height ≤ depth →
    (expr.instantiate work depth offset).Shows pack →
      expr.Shows pack ∧ work.map.argument? pack.id offset = none

/-- What takes the place of an element of a list shows only what the element showed. -/
theorem Showing.listed (showing : work.Showing depth) {element result : Expr}
    (low : element.height ≤ depth) (inPlace : result ∈ work.listed depth offset element)
    {pack : TemplateParameter} (shown : result.Shows pack) :
    element.Shows pack ∧ work.map.argument? pack.id offset = none := by
  have spec := work.listed_spec depth offset element
  generalize work.listed depth offset element = results at spec inPlace
  cases spec with
  | plain | deferred =>
    obtain rfl := List.mem_singleton.mp inPlace
    exact showing low shown
  | @expanded pattern template size sized =>
    obtain ⟨place, below, rfl⟩ := List.mem_map.mp inPlace
    obtain ⟨before, unreplaced⟩ := showing (Nat.le_of_succ_le low) shown
    -- The number of the element selects an argument of every pack that the pattern shows.
    have selected := Substitution.argument?_of_packSize (Expr.packSize_of_shows sized before)
      (List.mem_range.mp below)
    rw [unreplaced] at selected
    contradiction
  | invalid =>
    obtain rfl := List.mem_singleton.mp inPlace
    exact absurd shown Expr.not_shows_problem

/-- What an instantiated form shows with what becomes of its children was shown before. -/
theorem Showing.instantiated (showing : work.Showing depth) (closed : work.map.IsClosed)
    {form : Form Expr} {template template' : Option TemplateId} {pack : TemplateParameter}
    (low : (Expr.node form template).height ≤ depth + 1) (stable : form.IsStable work offset)
    (shown : (Expr.node (form.instantiated work depth offset) template').Shows pack) :
    (Expr.node form template).Shows pack ∧ work.map.argument? pack.id offset = none := by
  have lower := Expr.height_child_le low
  cases shown with
  | root member =>
    obtain ⟨before, unreplaced⟩ := Form.shows_instantiated closed stable member
    exact ⟨.root before, unreplaced⟩
  | child open_ member shown =>
    rw [Form.hidesPacks_instantiated] at open_
    rcases Form.mem_children_instantiated.mp member with
      ⟨child, among, rfl⟩ | ⟨child, among, inPlace⟩
    · have below := Form.mem_children.mpr (.inl among)
      obtain ⟨before, unreplaced⟩ := showing (lower child below) shown
      exact ⟨.child open_ below before, unreplaced⟩
    · have below := Form.mem_children.mpr (.inr among)
      obtain ⟨before, unreplaced⟩ := showing.listed (lower child below) inPlace shown
      exact ⟨.child open_ below before, unreplaced⟩

/-- An overload set that is reduced shows what it did before. -/
theorem shows_narrow {callee : Expr} {arguments : List Expr} {pack : TemplateParameter}
    (shown : (work.narrow callee arguments).Shows pack) : callee.Shows pack := by
  have spec := work.narrow_spec callee arguments
  generalize work.narrow callee arguments = reduced at spec shown
  cases spec with
  | kept => exact shown
  | reduced => exact .root (shown.own rfl)

/-- A search finds the same in an overload set that is reduced. -/
theorem visiblePackSize_narrow {callee : Expr} {arguments : List Expr} {other : Substitution} :
    (work.narrow callee arguments).visiblePackSize other = callee.visiblePackSize other := by
  have spec := work.narrow_spec callee arguments
  generalize work.narrow callee arguments = reduced at spec ⊢
  cases spec <;> rfl

/-- A non-type parameter that is replaced shows no pack, when none that it shows is replaced. -/
theorem not_shows_of_replaced {parameter : TemplateParameter} {type : Ty}
    {template : Option TemplateId}
    (declares : (Form.templateRef parameter type).DeclaresSingly)
    (unreplaced : ∀ pack, (Expr.node (.templateRef parameter type) template).Shows pack →
      work.map.argument? pack.id offset = none)
    (replaced : (work.map.argument? parameter.id offset).isSome = true) :
    ∀ pack, ¬ (Expr.node (.templateRef parameter type) template).Shows pack := by
  intro pack shown
  have isPack := shown.isPack
  obtain ⟨carried, member, mentioned⟩ := List.mem_flatMap.mp (shown.own rfl)
  rcases List.mem_cons.mp member with rfl | member
  · obtain rfl : pack = parameter := List.mem_singleton.mp (Ty.mem_parameters mentioned)
    rw [unreplaced pack shown] at replaced
    contradiction
  · obtain rfl := List.mem_singleton.mp member
    rw [declares pack (Ty.mem_parameters mentioned)] at isPack
    contradiction

variable (unspecialized : work.within = none)

include unspecialized

/-- What becomes of an expansion is the expansion of what becomes of its pattern. -/
theorem exists_instantiate_expansion (depth : Nat) (offset : Option Nat) (pattern : Expr)
    (template : Option TemplateId) :
    ∃ template', (Expr.node (.expansion pattern) template).instantiate work (depth + 1) offset =
      .node (.expansion (pattern.instantiate work depth offset)) template' := by
  cases mentions : (Expr.node (.expansion pattern) template).mentionsParameter with
  | false =>
    have silent := (silent_children mentions).2 pattern (List.mem_singleton_self pattern)
    rw [instantiate_of_silent unspecialized mentions, instantiate_of_silent unspecialized silent]
    exact ⟨template, rfl⟩
  | true =>
    have outcome := work.outcome depth offset unspecialized mentions
    generalize (Expr.node (.expansion pattern) template).instantiate work (depth + 1) offset =
      result at outcome ⊢
    cases outcome with
    | stable _ reformed => exact reformed.eq_node

/-- What an instantiation shows was shown before and is not replaced. -/
theorem showing (closed : work.map.IsClosed) (depth : Nat) : work.Showing depth := by
  induction depth with
  | zero => exact fun {_ expr _} low => absurd low (Nat.not_le_of_lt expr.height_pos)
  | succ depth ih =>
    intro offset expr pack low shown
    cases mentions : expr.mentionsParameter with
    | false =>
      rw [instantiate_of_silent unspecialized mentions] at shown
      rw [shown.mentionsParameter] at mentions
      contradiction
    | true =>
      have outcome := work.outcome depth offset unspecialized mentions
      generalize expr.instantiate work (depth + 1) offset = result at outcome shown
      cases outcome with
      | @stable form template result stable reformed =>
        obtain ⟨template', rfl⟩ := reformed.eq_node
        exact ih.instantiated closed low stable shown
      | @value parameter type actual value template replaced =>
        have silent : actual.mentionsParameter = false := closed.silent replaced
        have none : pack ∈ actual.packs := by simpa [Form.packs, Form.types] using shown.own rfl
        rw [Ty.packs_of_silent silent] at none
        contradiction
      | mismatch => exact absurd shown Expr.not_shows_problem
      | @selected position place type isPack template selected =>
        have own : pack ∈ (type.instantiate work.map offset).packs := by
          simpa [Form.packs, Form.types] using shown.own rfl
        obtain ⟨before, unreplaced⟩ := Ty.shows_instantiate closed own
        exact ⟨.root (List.mem_flatMap.mpr ⟨type, List.mem_singleton_self type, before⟩),
          unreplaced⟩
      | measured =>
        have none := shown.own rfl
        contradiction
      | unmeasured => exact absurd shown Expr.not_shows_problem
      | @call callee arguments template =>
        have unreduced : (Expr.node ((Form.call callee arguments).instantiated work depth offset)
            template).Shows pack := by
          cases shown with
          | root member => exact .root member
          | child open_ member shown =>
            rcases List.mem_cons.mp member with rfl | argument
            · exact .child rfl List.mem_cons_self (shows_narrow shown)
            · exact .child rfl (List.mem_cons_of_mem _ argument) shown
        exact ih.instantiated closed low trivial unreduced

/-- What takes the place of an expansion in a list shows no packs. -/
theorem visiblePackSize_listed (closed : work.map.IsClosed) {element result : Expr}
    (low : element.height ≤ depth) (expands : element.isExpansion = true)
    (inPlace : result ∈ work.listed depth offset element) (other : Substitution) :
    result.visiblePackSize other = .absent := by
  refine Expr.visiblePackSize_absent_iff.mpr fun pack shown => ?_
  have before := (Showing.listed (showing unspecialized closed depth) low inPlace shown).1
  obtain ⟨form, template⟩ := element
  cases form with
  | expansion => exact absurd before (Expr.not_shows_of_hides rfl)
  | _ => contradiction

/-- A search finds the same in an instantiated form, when it does in what becomes of its
children. -/
theorem visiblePackSize_instantiated (closed : work.map.IsClosed) {form : Form Expr}
    {template template' : Option TemplateId} {other : Substitution}
    (low : (Expr.node form template).height ≤ depth + 1) (stable : form.IsStable work offset)
    (unreplaced : ∀ pack ∈ form.packs, work.map.argument? pack.id offset = none)
    (below : form.hidesPacks = false → ∀ child ∈ form.children,
      (child.instantiate work depth offset).visiblePackSize other = child.visiblePackSize other) :
    (Expr.node (form.instantiated work depth offset) template').visiblePackSize other =
      (Expr.node form template).visiblePackSize other := by
  have lower := Expr.height_child_le low
  rw [Expr.visiblePackSize_node, Expr.visiblePackSize_node, Form.hidesPacks_instantiated]
  split
  · rfl
  · next visible =>
    have open_ : form.hidesPacks = false := Bool.not_eq_true _ ▸ visible
    rw [Form.packSize_instantiated closed stable unreplaced other, Form.children_eq,
      form.children_eq, Form.operands_instantiated, Form.elements_instantiated, List.map_append,
      List.map_append, List.foldl_append, List.foldl_append, List.map_map]
    have operands : form.operands.map (Expr.visiblePackSize other ∘
        Expr.instantiate work depth offset) = form.operands.map (Expr.visiblePackSize other) :=
      List.map_congr_left fun child among => below open_ child (Form.mem_children.mpr (.inl among))
    rw [operands]
    refine PackSize.foldl_flatMap fun element among found => ?_
    have child := Form.mem_children.mpr (.inr among)
    cases expands : element.isExpansion with
    | false =>
      rw [listed_of_plain expands, List.map_singleton, List.foldl_cons, List.foldl_nil,
        below open_ element child]
    | true =>
      have hidden : element.visiblePackSize other = .absent := by
        obtain ⟨form, template⟩ := element
        cases form with
        | expansion => rfl
        | _ => contradiction
      rw [hidden, PackSize.combine_absent, PackSize.foldl_absent]
      rw [List.forall_mem_map]
      exact fun result inPlace =>
        visiblePackSize_listed unspecialized closed (lower element child) expands inPlace other

/-- A search for packs finds the same in a tree in which no pack that it shows is replaced. -/
theorem visiblePackSize_instantiate (closed : work.map.IsClosed) (low : expr.height ≤ depth)
    (declares : expr.Every Form.DeclaresSingly)
    (unreplaced : ∀ pack, expr.Shows pack → work.map.argument? pack.id offset = none)
    (other : Substitution) :
    (expr.instantiate work depth offset).visiblePackSize other = expr.visiblePackSize other := by
  induction depth generalizing expr with
  | zero => exact absurd low (Nat.not_le_of_lt expr.height_pos)
  | succ depth ih =>
    cases mentions : expr.mentionsParameter with
    | false => rw [instantiate_of_silent unspecialized mentions]
    | true =>
      have outcome := work.outcome depth offset unspecialized mentions
      generalize expr.instantiate work (depth + 1) offset = result at outcome ⊢
      have child {form : Form Expr} {template : Option TemplateId}
          (same : expr = .node form template) (open_ : form.hidesPacks = false) :
          ∀ child ∈ form.children, (child.instantiate work depth offset).visiblePackSize other =
            child.visiblePackSize other := by
        subst same
        exact fun child member => ih (Expr.height_child_le low child member)
          (declares.child member) fun pack shown => unreplaced pack (.child open_ member shown)
      cases outcome with
      | @stable form template result stable reformed =>
        obtain ⟨template', rfl⟩ := reformed.eq_node
        exact visiblePackSize_instantiated unspecialized closed low stable
          (fun pack shown => unreplaced pack (.root shown)) (child rfl)
      | @value parameter type actual value template replaced =>
        rw [Expr.visiblePackSize_absent_iff.mpr
          (not_shows_of_replaced declares.root unreplaced (by rw [replaced]; rfl))]
        exact Ty.packSize_of_packs_eq_nil (Ty.packs_of_silent (closed.silent replaced))
      | mismatch replaced =>
        rw [Expr.visiblePackSize_absent_iff.mpr
          (not_shows_of_replaced declares.root unreplaced (by rw [replaced]; rfl))]
        rfl
      | @selected position place type isPack template selected =>
        obtain ⟨same, -, size, sized, below⟩ := element?_eq_some.mp selected
        obtain ⟨pack, shown⟩ := Ty.exists_shown sized
        have selects := Substitution.argument?_of_packSize
          ((Ty.packSize_of_mem shown).symm.trans sized) below
        rw [← same, unreplaced pack
          (.root (List.mem_flatMap.mpr ⟨type, List.mem_singleton_self type, shown⟩))] at selects
        contradiction
      | measured => rfl
      | unmeasured => rfl
      | @call callee arguments template =>
        have whole : (Expr.node ((Form.call callee arguments).instantiated work depth offset)
            template).visiblePackSize other =
              (Expr.node (.call callee arguments) template).visiblePackSize other :=
          visiblePackSize_instantiated unspecialized closed low trivial nofun (child rfl)
        rw [← whole]
        change Expr.visiblePackSizeFrom other (Expr.visiblePackSize other (work.narrow _ _)) _ =
          Expr.visiblePackSizeFrom other (Expr.visiblePackSize other _) _
        rw [visiblePackSize_narrow]

end Instantiation

end ConstExpr
