import ConstExpr.Proofs.Instantiate.Alignment
import ConstExpr.Proofs.Instantiate.Congruence

/-!
# What a limited depth leaves

An instantiation of a limited depth comes to a part of a tree with no depth left and leaves it as it
is (`Expr.Leaves`), also when the part stands in the pattern of an expansion and an offset is in
force. Where the parts that are left mention no pack of which the offset in force selects an
argument, the expansions that were deferred are still deferred in what the instantiation makes of
the tree (`Instantiation.fades`).
-/
namespace ConstExpr

section Unselected

variable {map : Substitution} {offset : Option Nat}

/-- An argument becomes the same at offsets that replace its parameters in the same way. -/
theorem TemplateArgument.expand_congr {argument : TemplateArgument} {offset' : Option Nat}
    (same : ∀ parameter ∈ argument.carried.parameters,
      map.argument? parameter.id offset = map.argument? parameter.id offset') :
    argument.expand map offset = argument.expand map offset' := by
  have instantiated : argument.instantiate map offset = argument.instantiate map offset' :=
    instantiate_congr same
  unfold expand
  split
  · split
    · rfl
    · rw [instantiated]
  · rw [instantiated]

/-- The offset selects no argument of the packs that the form mentions: its parameters are replaced
as without an offset. -/
def Form.SelectsNone (map : Substitution) (offset : Option Nat) (form : Form Expr) : Prop :=
  ∀ parameter ∈ form.parameters,
    map.argument? parameter.id offset = map.argument? parameter.id none

/-- Without an offset nothing is selected. -/
theorem Expr.selectsNone_none (expr : Expr) : expr.Every (Form.SelectsNone map none) :=
  fun _ _ _ _ => rfl

/-- A pack that is replaced at an offset is not replaced without one. -/
theorem Substitution.argument?_none_of_count {pack : TemplateParameter} {size : Nat}
    (sized : map.packSize pack = .count size) : map.argument? pack.id none = none := by
  obtain ⟨-, arguments, bound, -⟩ := packSize_eq_count.mp sized
  rw [argument?, bound]
  rfl

namespace Instantiation

variable {work : Instantiation} {depth : Nat} {form : Form Expr} {template : Option TemplateId}
  {expr : Expr}

/-- An offset that selects no argument of the packs of a type selects no element of a parameter of
that type. -/
theorem element?_of_selectsNone (position : Nat) {type : Ty} {isPack : Bool}
    (none : (Form.parameterRef position type isPack).SelectsNone work.map offset) :
    work.element? offset type isPack = Option.none := by
  refine Option.eq_none_iff_forall_ne_some.mpr fun place selected => ?_
  obtain ⟨rfl, -, size, sized, below⟩ := element?_eq_some.mp selected
  obtain ⟨pack, shown⟩ := Ty.exists_shown sized
  have packSized := (Ty.packSize_of_mem shown).symm.trans sized
  have replaced := Substitution.argument?_of_packSize packSized below
  rw [none pack (List.mem_flatMap.mpr ⟨type, List.mem_singleton_self type,
    Ty.mem_parameters shown⟩), Substitution.argument?_none_of_count packSized] at replaced
  contradiction

/-- An offset that selects nothing in a form is like no offset. -/
theorem treatedAlike_of_selectsNone (none : form.SelectsNone work.map offset) :
    form.TreatedAlike work work offset Option.none where
  replaced := none
  selected := by
    rintro position type isPack rfl
    have bare : work.element? Option.none type isPack = Option.none :=
      element?_of_selectsNone position fun _ _ => rfl
    rw [element?_of_selectsNone position none, bare]
  expanded := by
    rintro set rfl
    refine OverloadSet.expanded_congr fun argument member => ?_
    exact TemplateArgument.expand_congr fun parameter mentioned => none parameter
      (List.mem_flatMap.mpr ⟨_, List.mem_map_of_mem member, mentioned⟩)
  measured := fun _ _ => rfl
  spread := fun _ _ _ => rfl

/-- An offset that selects nothing in a tree does not count. -/
theorem substitute_of_selectsNone (none : expr.Every (Form.SelectsNone work.map offset)) :
    work.substitute depth offset expr = work.substitute depth Option.none expr := by
  induction depth generalizing expr with
  | zero => rfl
  | succ depth ih =>
    obtain ⟨form, template⟩ := expr
    obtain ⟨own, below⟩ := Expr.every_node.mp none
    rw [substitute, substitute]
    congr 1
    exact substituteNode_congr rfl (treatedAlike_of_selectsNone own) (fun _ _ _ => rfl)
      (fun child member => ih (below child member)) fun _ _ _ _ _ => rfl

end Instantiation

end Unselected

/-- An instantiation at an offset goes on from a node of the form to a child, at the same offset or,
where an expansion is expanded, at that of an element. -/
inductive Form.Visits (map : Substitution) (offset : Option Nat) (form : Form Expr) :
    Option Nat → Expr → Prop where
  /-- A child outside of lists, unless it is the operand of a pack size that is known. -/
  | operand {child : Expr} (member : child ∈ form.operands)
    (deferred : form = .unary .sizeofPack child → child.packSize map = .deferred) :
    Visits map offset form offset child
  /-- An element of a list, which is deferred if it is an expansion. -/
  | element {child : Expr} (member : child ∈ form.elements)
    (deferred : child.isExpansion = true → child.packSize map = .deferred) :
    Visits map offset form offset child
  /-- The pattern of an expansion that is expanded, for each element. -/
  | expanded {pattern : Expr} {template : Option TemplateId} {size place : Nat}
    (member : Expr.node (.expansion pattern) template ∈ form.elements)
    (sized : pattern.visiblePackSize map = .count size) (below : place < size) :
    Visits map offset form (some place) pattern

/-- An instantiation of the given depth at an offset leaves the part as it is, having come to it at
an offset of its own with no depth left. -/
inductive Expr.Leaves (map : Substitution) : Nat → Option Nat → Expr → Option Nat → Expr → Prop
  where
  /-- Without depth the whole tree is left. -/
  | whole (offset : Option Nat) (expr : Expr) : Leaves map 0 offset expr offset expr
  /-- What is left of the children is left of the node. -/
  | child {depth : Nat} {offset offset' last : Option Nat} {form : Form Expr}
    {template : Option TemplateId} {child part : Expr} (visits : form.Visits map offset offset' child)
    (rest : Leaves map depth offset' child last part) :
    Leaves map (depth + 1) offset (.node form template) last part

/-- In the parts that an instantiation leaves, the offset in force selects no argument of a pack. -/
def Expr.LeavesNoneSelected (map : Substitution) (depth : Nat) (offset : Option Nat)
    (expr : Expr) : Prop :=
  ∀ last part, expr.Leaves map depth offset last part → part.Every (Form.SelectsNone map last)

/-- The type that is declared for a bound non-type parameter mentions no pack that is not bound. -/
def Form.DeclaresBound (map : Substitution) : Form Expr → Prop
  | .templateRef parameter type =>
    (map.binding? parameter.id).isSome = true → type.packSize map ≠ .deferred
  | _ => True

namespace PackSize

/-- How the outcome of a search for packs changes when a term is instantiated at an offset: packs of
some size may go, and do where the offset selects an argument of them, and a deferral stays. Nothing
is said of packs that do not agree. -/
def Fades (offset : Option Nat) : PackSize → PackSize → Prop
  | failed, _ => True
  | count size, after =>
    after = absent ∨ after = count size ∧ ∀ place, offset = some place → size ≤ place
  | before, after => after = before

variable {offset : Option Nat} {first first' second second' before after : PackSize}

/-- The packs may go of anything but a deferral. -/
theorem fades_absent (settled : before ≠ .deferred) : before.Fades offset .absent := by
  cases before with
  | deferred => contradiction
  | failed => trivial
  | absent => rfl
  | count => exact .inl rfl

/-- Packs go where the offset selects an argument of them. -/
theorem Fades.absent_of_selected {size place : Nat} (fades : (count size).Fades (some place) after)
    (below : place < size) : after = .absent := by
  rcases fades with absent | ⟨-, beyond⟩
  · exact absent
  · exact absurd (beyond place rfl) (Nat.not_le.mpr below)

/-- Combinations change as their parts do. -/
theorem Fades.combine (left : first.Fades offset first') (right : second.Fades offset second') :
    (first.combine second).Fades offset (first'.combine second') := by
  cases first with
  | deferred =>
    obtain rfl : first' = .deferred := left
    rfl
  | failed => trivial
  | absent =>
    obtain rfl : first' = .absent := left
    exact right
  | count size =>
    cases second with
    | deferred =>
      obtain rfl : second' = .deferred := right
      rcases left with rfl | ⟨rfl, -⟩ <;> rfl
    | failed => trivial
    | absent =>
      obtain rfl : second' = .absent := right
      simpa only [combine_absent] using left
    | count other =>
      rw [PackSize.combine]
      split
      · next same =>
        subst same
        rcases left with rfl | ⟨rfl, beyond⟩
        · exact right
        · rcases right with rfl | ⟨rfl, -⟩
          · exact .inr ⟨rfl, beyond⟩
          · exact .inr ⟨if_pos rfl, beyond⟩
      · trivial

/-- The outcome for a sequence changes as that for each item does. -/
theorem Fades.foldl_map {α : Type} {before after : α → PackSize} {items : List α}
    (fades : first.Fades offset first')
    (each : ∀ item ∈ items, (before item).Fades offset (after item)) :
    ((items.map before).foldl PackSize.combine first).Fades offset
      ((items.map after).foldl PackSize.combine first') := by
  have single : ((items.map before).foldl PackSize.combine first).Fades offset
      (((items.flatMap fun item => [item]).map after).foldl PackSize.combine first') :=
    foldl_flatMap_related fades fun item member _ _ fades => fades.combine (each item member)
  rwa [List.flatMap_singleton'] at single

end PackSize

section Fading

variable {map : Substitution} {offset : Option Nat}

/-- The packs of a type may go when it is instantiated. -/
theorem Ty.fades_instantiate (closed : map.IsClosed) (type : Ty) :
    (type.packSize map).Fades offset ((type.instantiate map offset).packSize map) := by
  rcases instantiate_cases closed offset type with ⟨same, unreplaced⟩ | ⟨silent, parameter, only,
    replaced⟩
  · rw [same]
    cases sized : type.packSize map with
    | count size =>
      refine .inr ⟨rfl, fun place same => Nat.not_lt.mp fun below => ?_⟩
      obtain ⟨pack, shown⟩ := exists_shown sized
      have selected := Substitution.argument?_of_packSize
        ((packSize_of_mem shown).symm.trans sized) below
      rw [← same, unreplaced pack (mem_parameters shown)] at selected
      contradiction
    | failed => trivial
    | _ => rfl
  · rw [packSize_of_packs_eq_nil (packs_of_silent silent)]
    refine PackSize.fades_absent fun deferred => ?_
    obtain ⟨pack, shown, unbound⟩ := exists_unbound deferred
    obtain rfl := List.mem_singleton.mp (only ▸ mem_parameters shown)
    rw [Substitution.argument?, (Substitution.packSize_eq_deferred.mp unbound).2] at replaced
    contradiction

/-- The packs of an argument may go when it is expanded. -/
theorem TemplateArgument.fades_expand (closed : map.IsClosed) (argument : TemplateArgument)
    {first first' : PackSize} (fades : first.Fades offset first') :
    (first.combine (argument.carried.packSize map)).Fades offset
      (((argument.expand map offset).map fun result => result.carried.packSize map).foldl
        .combine first') := by
  rcases expand_cases map offset argument with same | ⟨pattern, size, rfl, sized, each⟩
  · rw [same, List.map_singleton, List.foldl_cons, List.foldl_nil, carried_instantiate]
    exact fades.combine (argument.carried.fades_instantiate closed)
  · have absent : ∀ result ∈ ((List.range size).map fun place =>
        TemplateArgument.type (pattern.instantiate map (some place))).map
          fun result => result.carried.packSize map, result = .absent := by
      rw [List.map_map, List.forall_mem_map]
      exact fun place below => Ty.packSize_of_packs_eq_nil
        (Ty.packs_of_silent (silent_of_expanded closed sized (List.mem_range.mp below)))
    rw [each, PackSize.foldl_absent absent]
    exact PackSize.combine_absent.symm ▸ fades

/-- The packs of a form of which nothing is selected may go when it is instantiated. -/
theorem Form.fades_instantiated {work : Instantiation} {depth : Nat} {form : Form Expr}
    (closed : work.map.IsClosed) (stable : form.IsStable work offset) :
    (form.packSize work.map).Fades offset
      ((form.instantiated work depth offset).packSize work.map) := by
  have absent : (PackSize.absent).Fades offset .absent := rfl
  cases form with
  | templateRef parameter type =>
    have own : ((Ty.parameter parameter).packSize work.map).Fades offset
        (((Ty.parameter parameter).instantiate work.map offset).packSize work.map) :=
      (Ty.parameter parameter).fades_instantiate closed
    rw [Ty.instantiate, show work.map.argument? parameter.id offset = none from stable] at own
    exact own.combine (type.fades_instantiate closed)
  | overloads set =>
    rw [packSize_eq, packSize_eq, instantiated, types, types, OverloadSet.arguments_expanded,
      List.map_map, List.map_map]
    exact PackSize.foldl_flatMap_related absent fun argument _ first first' fades =>
      argument.fades_expand closed fades
  | fixed type | parameterRef _ type | variableRef _ type | typeTrait _ type | construct type =>
    exact type.fades_instantiate closed
  | _ => exact absent

end Fading

section Trees

variable {work : Instantiation} {depth : Nat} {offset : Option Nat} {expr : Expr}
  {form : Form Expr} {template : Option TemplateId}

/-- Nothing is selected in what is left of a child that an instantiation goes on to. -/
theorem Expr.LeavesNoneSelected.child {map : Substitution} {offset' : Option Nat} {child : Expr}
    (clean : (node form template).LeavesNoneSelected map (depth + 1) offset)
    (visits : form.Visits map offset offset' child) :
    child.LeavesNoneSelected map depth offset' :=
  fun last part leaves => clean last part (.child visits leaves)

/-- Nothing is selected in what is left of a node, if nothing is in what is left of the children
that the instantiation goes on to. -/
theorem Expr.leavesNoneSelected_node {map : Substitution}
    (children : ∀ offset' child, form.Visits map offset offset' child →
      child.LeavesNoneSelected map depth offset') :
    (node form template).LeavesNoneSelected map (depth + 1) offset := by
  intro last part leaves
  cases leaves with
  | child visits rest => exact children _ _ visits last part rest

/-- Nothing is left by an instantiation that goes down to the leaves. -/
theorem Expr.leavesNoneSelected_of_low {map : Substitution} (low : expr.height ≤ depth) :
    expr.LeavesNoneSelected map depth offset := by
  induction depth generalizing expr offset with
  | zero => exact absurd low (Nat.not_le_of_lt expr.height_pos)
  | succ depth ih =>
    obtain ⟨form, template⟩ := expr
    refine leavesNoneSelected_node fun offset' child visits => ih ?_
    cases visits with
    | operand member => exact height_child_le low child (Form.mem_children.mpr (.inl member))
    | element member => exact height_child_le low child (Form.mem_children.mpr (.inr member))
    | expanded member =>
      exact Nat.le_of_succ_le (height_child_le low _ (Form.mem_children.mpr (.inr member)))

namespace Instantiation

/-- The packs that an offset selects nothing of have no element at it. -/
theorem fades_of_selectsNone {map : Substitution} (none : expr.Every (Form.SelectsNone map offset)) :
    (expr.visiblePackSize map).Fades offset (expr.visiblePackSize map) := by
  cases sized : expr.visiblePackSize map with
  | count size =>
    refine .inr ⟨rfl, fun place same => Nat.not_lt.mp fun below => ?_⟩
    obtain ⟨pack, shown⟩ := Expr.exists_shown sized
    obtain ⟨part, inside, mentioned⟩ := shown.exists_part
    have packSized := Expr.packSize_of_shows sized shown
    have selected := Substitution.argument?_of_packSize packSized below
    rw [← same, none part inside pack mentioned,
      Substitution.argument?_none_of_count packSized] at selected
    contradiction
  | failed => trivial
  | _ => rfl

/-- The packs of trees may go when these are instantiated. -/
def Fading (work : Instantiation) (depth : Nat) : Prop :=
  ∀ {offset : Option Nat} {expr : Expr}, expr.Every (Form.DeclaresBound work.map) →
    expr.LeavesNoneSelected work.map depth offset →
    (expr.visiblePackSize work.map).Fades offset
      ((expr.instantiate work depth offset).visiblePackSize work.map)

/-- No pack is visible in what becomes of an expansion. -/
theorem visiblePackSize_of_expansion (unspecialized : work.within = none) {pattern : Expr} :
    ((Expr.node (.expansion pattern) template).instantiate work depth offset).visiblePackSize
      work.map = .absent := by
  cases depth with
  | zero => rfl
  | succ depth =>
    obtain ⟨template', same⟩ :=
      exists_instantiate_expansion unspecialized depth offset pattern template
    rw [same]
    rfl

/-- The packs of an element of a list may go from what takes its place. -/
theorem Fading.listed (fading : work.Fading depth) (unspecialized : work.within = none)
    (declares : (Expr.node form template).Every (Form.DeclaresBound work.map))
    (clean : (Expr.node form template).LeavesNoneSelected work.map (depth + 1) offset)
    {element : Expr} (member : element ∈ form.elements) {first first' : PackSize}
    (fades : first.Fades offset first') :
    (first.combine (element.visiblePackSize work.map)).Fades offset
      (((work.listed depth offset element).map (Expr.visiblePackSize work.map)).foldl .combine
        first') := by
  have below := declares.child (Form.mem_children.mpr (.inr member))
  have spec := work.listed_spec depth offset element
  generalize work.listed depth offset element = results at spec ⊢
  cases spec with
  | plain plain =>
    have visits : form.Visits work.map offset offset element :=
      .element member fun expansion => by rw [plain] at expansion; contradiction
    exact fades.combine (fading below (clean.child visits))
  | @expanded pattern template' size sized =>
    have absent : ∀ outcome ∈ ((List.range size).map fun place =>
        pattern.instantiate work depth (some place)).map (Expr.visiblePackSize work.map),
        outcome = .absent := by
      rw [List.map_map, List.forall_mem_map]
      intro place inRange
      have within := List.mem_range.mp inRange
      have each := fading (below.child (List.mem_singleton_self pattern))
        (clean.child (.expanded member sized within))
      rw [sized] at each
      exact each.absent_of_selected within
    rw [PackSize.foldl_absent absent]
    exact PackSize.combine_absent.symm ▸ fades
  | deferred =>
    rw [List.map_singleton, visiblePackSize_of_expansion unspecialized]
    exact fades.combine rfl
  | invalid => exact fades.combine rfl

/-- The packs of a form of which nothing is selected may go with those of its children. -/
theorem Fading.instantiated (fading : work.Fading depth) (unspecialized : work.within = none)
    (closed : work.map.IsClosed) {template' : Option TemplateId}
    (declares : (Expr.node form template).Every (Form.DeclaresBound work.map))
    (clean : (Expr.node form template).LeavesNoneSelected work.map (depth + 1) offset)
    (stable : form.IsStable work offset) :
    ((Expr.node form template).visiblePackSize work.map).Fades offset
      ((Expr.node (form.instantiated work depth offset) template').visiblePackSize work.map) := by
  rw [Expr.visiblePackSize_node, Expr.visiblePackSize_node, Form.hidesPacks_instantiated]
  split
  · rfl
  · next visible =>
    rw [form.children_eq, Form.children_eq, Form.operands_instantiated,
      Form.elements_instantiated, List.map_append, List.map_append, List.foldl_append,
      List.foldl_append, List.map_map]
    refine PackSize.foldl_flatMap_related (PackSize.Fades.foldl_map
      (Form.fades_instantiated closed stable) fun child member => ?_)
      fun element member _ _ => fading.listed unspecialized declares clean member
    have visits : form.Visits work.map offset offset child :=
      .operand member fun measured => by rw [measured] at visible; contradiction
    exact fading (declares.child (Form.mem_children.mpr (.inl member))) (clean.child visits)

/-- No pack that a replaced mention of a non-type parameter shows is deferred. -/
theorem fades_of_replaced {parameter : TemplateParameter} {type : Ty}
    (declares : (Form.templateRef parameter type).DeclaresBound work.map)
    (replaced : (work.map.argument? parameter.id offset).isSome = true) :
    ((Expr.node (.templateRef parameter type) template).visiblePackSize work.map).Fades offset
      .absent := by
  have bound : (work.map.binding? parameter.id).isSome = true := by
    cases found : work.map.binding? parameter.id with
    | some => rfl
    | none => rw [Substitution.argument?, found] at replaced; contradiction
  refine PackSize.fades_absent fun deferred => ?_
  rcases PackSize.deferred_of_combine deferred with own | declared
  · rw [(Substitution.packSize_eq_deferred.mp own).2] at bound
    contradiction
  · exact declares bound declared

/-- The packs of a tree may go when it is instantiated, and deferrals stay, if nothing is selected in
the parts that are left. -/
theorem fading (unspecialized : work.within = none) (closed : work.map.IsClosed) (depth : Nat) :
    work.Fading depth := by
  induction depth with
  | zero => exact fun _ clean => fades_of_selectsNone (clean _ _ (.whole _ _))
  | succ depth ih =>
    intro offset expr declares clean
    cases mentions : expr.mentionsParameter with
    | false =>
      have none : ∀ pack, ¬ expr.Shows pack := fun pack shown => by
        rw [shown.mentionsParameter] at mentions
        contradiction
      rw [instantiate_of_silent unspecialized mentions, Expr.visiblePackSize_absent_iff.mpr none]
      rfl
    | true =>
      have outcome := work.outcome depth offset unspecialized mentions
      generalize expr.instantiate work (depth + 1) offset = result at outcome ⊢
      cases outcome with
      | @stable form template result stable reformed =>
        obtain ⟨template', rfl⟩ := reformed.eq_node
        exact ih.instantiated unspecialized closed declares clean stable
      | @value parameter type actual value template replaced =>
        have gone : (Form.fixed actual value .prvalue : Form Expr).packSize work.map = .absent :=
          Ty.packSize_of_packs_eq_nil (Ty.packs_of_silent (closed.silent replaced))
        have faded : ((Expr.node (.templateRef parameter type) template).visiblePackSize
            work.map).Fades offset .absent :=
          fades_of_replaced declares.root (by rw [replaced]; rfl)
        rwa [← gone] at faded
      | mismatch replaced => exact fades_of_replaced declares.root (by rw [replaced]; rfl)
      | @selected position place type isPack template selected =>
        exact type.fades_instantiate closed
      | measured | unmeasured => rfl
      | @call callee arguments template =>
        have whole : ((Expr.node (.call callee arguments) template).visiblePackSize
            work.map).Fades offset ((Expr.node ((Form.call callee arguments).instantiated work
              depth offset) template).visiblePackSize work.map) :=
          ih.instantiated unspecialized closed declares clean trivial
        change PackSize.Fades _ _ (Expr.visiblePackSizeFrom work.map
          (Expr.visiblePackSize work.map (work.narrow _ _)) _)
        rw [visiblePackSize_narrow]
        exact whole

/-- A pack size that is deferred is so in what becomes of the tree. -/
theorem packSize_deferred_of_clean (unspecialized : work.within = none) (closed : work.map.IsClosed)
    (declares : expr.Every (Form.DeclaresBound work.map))
    (clean : expr.LeavesNoneSelected work.map depth offset)
    (deferred : expr.packSize work.map = .deferred) :
    (expr.instantiate work depth offset).packSize work.map = .deferred := by
  cases expansion : expr.isExpansion with
  | false =>
    have faded := fading unspecialized closed depth declares clean
    rw [Expr.packSize_of_plain expansion] at deferred
    rw [Expr.packSize_of_plain ((isExpansion_instantiate ..).trans expansion)]
    rwa [deferred] at faded
  | true =>
    obtain ⟨form, template⟩ := expr
    cases form with
    | expansion pattern =>
      cases depth with
      | zero => exact deferred
      | succ depth =>
        obtain ⟨template', same⟩ :=
          exists_instantiate_expansion unspecialized depth offset pattern template
        have inPart := List.mem_singleton_self pattern
        have faded := fading unspecialized closed depth (declares.child inPart)
          (clean.child (.operand inPart nofun))
        rw [same]
        rwa [show pattern.visiblePackSize work.map = .deferred from deferred] at faded
    | _ => contradiction

end Instantiation

end Trees

end ConstExpr
