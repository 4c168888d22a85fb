import ConstExpr.Proofs.Instantiate.Nodes
import ConstExpr.Proofs.Instantiate.Kept

/-!
# One instantiation after another

Two instantiations, one after the other, make of a node what a third one makes of it at once
(`Instantiation.Composes`), when they do of its children, its types and the sizes of its packs.
There is one lemma for each way to treat a node.
-/
namespace ConstExpr

namespace Instantiation

/-- Two instantiations make of the tree, one after the other, what the second one makes of it at
once. -/
def Composes (early late : Instantiation) (offsets : Offsets) (earlyDepth lateDepth depth : Nat)
    (expr : Expr) : Prop :=
  (expr.instantiate early earlyDepth offsets.early).instantiate late lateDepth offsets.late =
    expr.instantiate late depth offsets.once

/-- What takes the place of an element of a list after two instantiations is what takes it at
once. -/
def ComposesElement (early late : Instantiation) (offsets : Offsets)
    (earlyDepth lateDepth depth : Nat) (element : Expr) : Prop :=
  (early.listed earlyDepth offsets.early element).flatMap (late.listed lateDepth offsets.late) =
    late.listed depth offsets.once element

section Search

variable {work : Instantiation} {depth : Nat} {offset : Option Nat}

/-- A tree whose packs are deferred mentions a parameter. -/
theorem mentionsParameter_of_deferred {map : Substitution} {expr : Expr}
    (deferred : expr.packSize map = .deferred) : expr.mentionsParameter = true := by
  rw [Expr.packSize_eq] at deferred
  obtain ⟨pack, shown, -⟩ := Expr.exists_unbound_of_deferred deferred
  obtain ⟨form, template⟩ := expr
  cases form with
  | expansion pattern =>
    exact Expr.anyForm_of_child (List.mem_singleton_self pattern) shown.mentionsParameter
  | _ => exact shown.mentionsParameter

/-- The invalid expression stays where it stands in a list. -/
theorem listed_problem (unspecialized : work.within = none) :
    work.listed depth offset Expr.problem = [Expr.problem] := by
  rw [listed_of_plain rfl, instantiate_of_silent unspecialized rfl]

/-- What becomes of an expansion that mentions a parameter is an expansion. -/
theorem instantiate_expansion (unspecialized : work.within = none) {pattern : Expr}
    {template : Option TemplateId}
    (mentions : (Expr.node (.expansion pattern) template).mentionsParameter = true)
    (built : (Expr.node (.expansion pattern) template).Built) :
    (Expr.node (.expansion pattern) template).instantiate work (depth + 1) offset =
      .node (.expansion (pattern.instantiate work depth offset)) template :=
  instantiate_stable unspecialized trivial nofun (.inl mentions)
    (Outside.children (outside depth) built)

/-- The expansions that are left in the lists of an instantiated form mention parameters, if the
expansions that were deferred still are. -/
theorem spread_of_deferred {form : Form Expr}
    (deferring : ∀ element ∈ form.elements, element.isExpansion = true →
      element.packSize work.map = .deferred →
        (element.instantiate work depth offset).packSize work.map = .deferred) :
    ∀ result ∈ (form.instantiated work depth offset).elements, result.isExpansion = true →
      result.mentionsParameter = true := by
  intro result member expansion
  rw [Form.elements_instantiated] at member
  obtain ⟨element, among, inPlace⟩ := List.mem_flatMap.mp member
  obtain ⟨isExpansion, deferred, rfl⟩ := of_expansion_listed inPlace expansion
  exact mentionsParameter_of_deferred (deferring element among isExpansion deferred)

end Search

variable {early late : Instantiation} {offsets : Offsets} {form : Form Expr}
  {template : Option TemplateId} {earlyDepth lateDepth depth : Nat}

/-- The types of a form, its children outside of lists and the elements of its lists become the same
after two instantiations as at once. -/
structure ComposesParts (early late : Instantiation) (offsets : Offsets)
    (earlyDepth lateDepth depth : Nat) (form : Form Expr) : Prop where
  /-- The types become the same, unless they are template arguments. -/
  types : (∀ set, form ≠ .overloads set) → ∀ type ∈ form.types,
    (type.instantiate early.map offsets.early).instantiate late.map offsets.late =
      type.instantiate late.map offsets.once
  /-- The template arguments become the same. -/
  arguments : ∀ set, form = .overloads set →
    (set.expanded early.map offsets.early).expanded late.map offsets.late =
      set.expanded late.map offsets.once
  /-- The children outside of lists become the same, unless their packs are measured. -/
  operands : ∀ child ∈ form.operands, form ≠ .unary .sizeofPack child →
    Composes early late offsets earlyDepth lateDepth depth child
  /-- The elements of lists become the same. -/
  elements : ∀ element ∈ form.elements,
    ComposesElement early late offsets earlyDepth lateDepth depth element

namespace ComposesParts

variable (parts : ComposesParts early late offsets earlyDepth lateDepth depth form)

include parts

/-- The lists become the same. -/
theorem lists : (form.elements.flatMap (early.listed earlyDepth offsets.early)).flatMap
      (late.listed lateDepth offsets.late) =
    form.elements.flatMap (late.listed depth offsets.once) := by
  rw [List.flatMap_assoc]
  exact List.flatMap_congr parts.elements

/-- The form is instantiated as at once. -/
theorem instantiated (unmeasured : ∀ operand, form ≠ .unary .sizeofPack operand) :
    (form.instantiated early earlyDepth offsets.early).instantiated late lateDepth offsets.late =
      form.instantiated late depth offsets.once := by
  have types := parts.types
  have operands (child : Expr) (member : child ∈ form.operands) :=
    parts.operands child member (unmeasured child)
  have elements := parts.lists
  cases form with
  | overloads set => exact congrArg Form.overloads (parts.arguments set rfl)
  | _ =>
    simp only [Form.types, Form.operands, Form.elements, List.forall_mem_cons, Composes]
      at types operands elements
    simp only [Form.instantiated, types (fun _ => by simp), operands, elements]

end ComposesParts

/-- Two instantiations outside of specializations at the same point, of a tree that is put together
node by node. -/
structure Successive (early late : Instantiation) : Prop where
  /-- The first instantiation is outside of a specialization. -/
  earlyUnspecialized : early.within = none
  /-- The second instantiation is outside of a specialization. -/
  lateUnspecialized : late.within = none
  /-- Both instantiations are made at the same point. -/
  scope : early.scope = late.scope

section Nodes

variable (successive : Successive early late) (built : (Expr.node form template).Built)

include successive

omit built in
/-- An expansion that is invalid in both instantiations is so at once. -/
theorem composesElement_of_unsized {pattern : Expr}
    (earlyUnsized : pattern.visiblePackSize early.map = .failed ∨
      pattern.visiblePackSize early.map = .absent)
    (lateUnsized : pattern.visiblePackSize late.map = .failed ∨
      pattern.visiblePackSize late.map = .absent) :
    ComposesElement early late offsets earlyDepth lateDepth depth
      (.node (.expansion pattern) template) := by
  rw [ComposesElement, listed_of_unsized earlyUnsized, List.flatMap_singleton,
    listed_problem successive.lateUnspecialized, listed_of_unsized lateUnsized]

omit successive built in
/-- An element that is no expansion becomes the same in a list as anywhere else. -/
theorem composesElement_of_plain {element : Expr} (plain : element.isExpansion = false)
    (composes : Composes early late offsets earlyDepth lateDepth depth element) :
    ComposesElement early late offsets earlyDepth lateDepth depth element := by
  rw [ComposesElement, listed_of_plain plain, List.flatMap_singleton, listed_of_plain plain,
    listed_of_plain ((isExpansion_instantiate ..).trans plain), composes]

omit successive built in
/-- An expansion that the first instantiation expands has the elements that it has at once, if its
pattern becomes the same for each element. -/
theorem composesElement_of_count {pattern : Expr} {size : Nat}
    (earlySized : pattern.visiblePackSize early.map = .count size)
    (lateSized : pattern.visiblePackSize late.map = .count size)
    (composes : ∀ place < size, Composes early late ⟨some place, offsets.late, some place⟩
      earlyDepth lateDepth depth pattern) :
    ComposesElement early late offsets earlyDepth lateDepth depth
      (.node (.expansion pattern) template) := by
  have plain : ∀ result ∈ (List.range size).map fun place =>
      pattern.instantiate early earlyDepth (some place), result.isExpansion = false :=
    List.forall_mem_map.mpr fun place _ =>
      (isExpansion_instantiate ..).trans (Expr.plain_of_count earlySized)
  rw [ComposesElement, listed_of_count earlySized, listed_of_count lateSized,
    flatMap_listed_of_plain plain, List.map_map]
  exact List.map_congr_left fun place within => composes place (List.mem_range.mp within)

/-- A mention of a non-type parameter becomes the same when the parameter and its type do. -/
theorem composes_templateRef {parameter : TemplateParameter} {type : Ty}
    (closed : early.map.IsClosed) (agree : offsets.Agree early.map late.map parameter.id)
    (types : (type.instantiate early.map offsets.early).instantiate late.map offsets.late =
      type.instantiate late.map offsets.once) :
    Composes early late offsets (earlyDepth + 1) (lateDepth + 1) (depth + 1)
      (.node (.templateRef parameter type) template) := by
  rw [Composes, instantiate_templateRef successive.earlyUnspecialized,
    instantiate_templateRef successive.lateUnspecialized]
  cases replaced : early.map.argument? parameter.id offsets.early with
  | none =>
    dsimp only
    rw [instantiate_templateRef successive.lateUnspecialized, agree.left replaced, types]
  | some argument =>
    have silent := closed.silent replaced
    rw [agree.replaced argument replaced]
    cases argument with
    | type => exact instantiate_of_silent successive.lateUnspecialized rfl
    | nonType value actual =>
      exact instantiate_of_silent successive.lateUnspecialized
        (Expr.anyForm_eq_false.mpr ⟨silent, List.forall_mem_nil _⟩)

/-- A mention of a function parameter becomes the same when its type does and the same element of a
pack is selected. -/
theorem composes_parameterRef {position : Nat} {type : Ty} {isPack : Bool}
    (types : (type.instantiate early.map offsets.early).instantiate late.map offsets.late =
      type.instantiate late.map offsets.once)
    (selected : ∀ place, early.element? offsets.early type isPack = some place →
      late.element? offsets.once type isPack = some place)
    (left : early.element? offsets.early type isPack = none →
      late.element? offsets.late (type.instantiate early.map offsets.early) isPack =
        late.element? offsets.once type isPack) :
    Composes early late offsets (earlyDepth + 1) (lateDepth + 1) (depth + 1)
      (.node (.parameterRef position type isPack) template) := by
  rw [Composes, instantiate_parameterRef successive.earlyUnspecialized,
    instantiate_parameterRef successive.lateUnspecialized]
  cases found : early.element? offsets.early type isPack with
  | some place =>
    dsimp only
    rw [instantiate_parameterRef successive.lateUnspecialized, element?_of_ordinary, types,
      selected place found]
  | none =>
    dsimp only
    rw [instantiate_parameterRef successive.lateUnspecialized, left found, types]

include built

/-- A node of which nothing is selected becomes the same when its parts do. -/
theorem composes_ordinary (mentions : (Expr.node form template).mentionsParameter = true)
    (parts : ComposesParts early late offsets earlyDepth lateDepth depth form)
    (earlyStable : form.IsStable early offsets.early)
    (lateStable : (form.instantiated early earlyDepth offsets.early).IsStable late offsets.late)
    (stable : form.IsStable late offsets.once)
    (uncalled : ∀ callee arguments, form ≠ .call callee arguments)
    (unmeasured : ∀ operand, form ≠ .unary .sizeofPack operand)
    (spread : ∀ element ∈ (form.instantiated early earlyDepth offsets.early).elements,
      element.isExpansion = true → element.mentionsParameter = true) :
    Composes early late offsets (earlyDepth + 1) (lateDepth + 1) (depth + 1)
      (.node form template) := by
  have form_eq := parts.instantiated unmeasured
  have outside (work : Instantiation) (unspecialized : work.within = none) (depth : Nat)
      (offset : Option Nat) : template = none → ∀ child ∈
        (form.instantiated work depth offset).children, child.template = none :=
    Outside.children (outside depth) built
  rw [Composes, instantiate_stable successive.earlyUnspecialized earlyStable uncalled
      (.inl mentions) (outside early successive.earlyUnspecialized _ _),
    instantiate_stable successive.lateUnspecialized stable uncalled (.inl mentions)
      (outside late successive.lateUnspecialized _ _),
    instantiate_stable successive.lateUnspecialized lateStable ?_ (.inr spread)
      (form_eq ▸ outside late successive.lateUnspecialized _ _), form_eq]
  cases form with
  | call => exact absurd rfl (uncalled _ _)
  | _ => exact nofun

omit built in
/-- The size of packs becomes the same when the packs have the same size and the operand of a size
that is deferred becomes the same. -/
theorem composes_sizeofPack {operand : Expr}
    (built : (Expr.node (.unary .sizeofPack operand) template).Built)
    (mentions : (Expr.node (.unary .sizeofPack operand) template).mentionsParameter = true)
    (settled : operand.packSize early.map ≠ .deferred →
      operand.packSize late.map = operand.packSize early.map)
    (left : operand.packSize early.map = .deferred →
      ((operand.instantiate early earlyDepth offsets.early).packSize early.map = .deferred ∧
        (operand.instantiate early earlyDepth offsets.early).packSize late.map =
          operand.packSize late.map))
    (composes : operand.packSize early.map = .deferred → operand.packSize late.map = .deferred →
      Composes early late offsets earlyDepth lateDepth depth operand) :
    Composes early late offsets (earlyDepth + 1) (lateDepth + 1) (depth + 1)
      (.node (.unary .sizeofPack operand) template) := by
  have member := List.mem_singleton_self operand
  obtain ⟨builtChildren, coherent⟩ := Expr.built_node.mp built
  have outside {work : Instantiation} (unspecialized : work.within = none) {depth : Nat}
      {offset : Option Nat} (absent : template = none) :
      (operand.instantiate work depth offset).template = none :=
    Instantiation.outside depth (builtChildren operand member)
      (coherent absent operand member)
  rw [Composes, instantiate_sizeofPack successive.earlyUnspecialized operand mentions
      fun _ => outside successive.earlyUnspecialized,
    instantiate_sizeofPack successive.lateUnspecialized operand mentions
      fun _ => outside successive.lateUnspecialized]
  cases sized : operand.packSize early.map with
  | count | failed | absent =>
    rw [settled (by rw [sized]; nofun), sized]
    exact instantiate_of_silent successive.lateUnspecialized rfl
  | deferred =>
    obtain ⟨stillDeferred, same⟩ := left sized
    have mentionsLeft : (Expr.node (.unary .sizeofPack
        (operand.instantiate early earlyDepth offsets.early)) template).mentionsParameter = true :=
      Expr.anyForm_of_child (List.mem_singleton_self _)
        (mentionsParameter_of_deferred stillDeferred)
    dsimp only
    rw [instantiate_sizeofPack successive.lateUnspecialized _ mentionsLeft, same]
    · cases sizedLate : operand.packSize late.map with
      | deferred =>
        dsimp only
        rw [composes sized sizedLate]
      | _ => rfl
    · intro sizedLate absent
      rw [composes sized (same.symm.trans sizedLate)]
      exact outside successive.lateUnspecialized absent

end Nodes

section Calls

variable {callee : Expr} {arguments : List Expr} (successive : Successive early late)
  (built : (Expr.node (.call callee arguments) template).Built)
  (parts : ComposesParts early late offsets earlyDepth lateDepth depth (.call callee arguments))

include successive built parts

/-- A call that the first instantiation keeps changes in the second one as it does at once. -/
theorem call_of_kept
    (first : early.substitute (earlyDepth + 1) offsets.early
      (.node (.call callee arguments) template) = none)
    (second : late.substitute (lateDepth + 1) offsets.late
      (.node (.call callee arguments) template) ≠ none) :
    (Expr.node (.call callee arguments) template).instantiate late (lateDepth + 1) offsets.late =
      .node (.call (late.narrow (callee.instantiate late depth offsets.once)
        (arguments.flatMap (late.listed depth offsets.once)))
        (arguments.flatMap (late.listed depth offsets.once))) template := by
  have calleeComposes := parts.operands callee (List.mem_singleton_self callee) nofun
  have argumentsCompose := parts.lists
  have mentions := mentionsParameter_of_changed successive.lateUnspecialized second
  have stays : (Form.call callee arguments).instantiated early earlyDepth offsets.early =
      .call callee arguments :=
    instantiated_of_substitute successive.earlyUnspecialized first (.inl mentions)
  obtain ⟨calleeStays, argumentsStay⟩ := Form.call.inj stays
  rw [Composes, calleeStays] at calleeComposes
  rw [Form.elements, argumentsStay] at argumentsCompose
  rw [instantiate_call successive.lateUnspecialized second
      (Outside.children (outside lateDepth) built),
    calleeComposes, argumentsCompose]

/-- A call that the first instantiation has changed becomes in the second one what it becomes at
once. -/
theorem call_of_changed
    (spread : ∀ element ∈ arguments.flatMap (early.listed earlyDepth offsets.early),
      element.isExpansion = true → element.mentionsParameter = true) :
    (Expr.node (.call (early.narrow (callee.instantiate early earlyDepth offsets.early)
        (arguments.flatMap (early.listed earlyDepth offsets.early)))
        (arguments.flatMap (early.listed earlyDepth offsets.early))) template).instantiate late
          (lateDepth + 1) offsets.late =
      .node (.call (late.narrow (callee.instantiate late depth offsets.once)
        (arguments.flatMap (late.listed depth offsets.once)))
        (arguments.flatMap (late.listed depth offsets.once))) template := by
  have calleeComposes := parts.operands callee (List.mem_singleton_self callee) nofun
  have argumentsCompose : (arguments.flatMap (early.listed earlyDepth offsets.early)).flatMap
      (late.listed lateDepth offsets.late) = arguments.flatMap (late.listed depth offsets.once) :=
    parts.lists
  have narrowed := early.narrow_spec (callee.instantiate early earlyDepth offsets.early)
    (arguments.flatMap (early.listed earlyDepth offsets.early))
  generalize reducedEq : early.narrow _ _ = reduced at narrowed ⊢
  have again := narrowed.instantiate successive.lateUnspecialized successive.scope lateDepth
    offsets.late
  rw [calleeComposes, argumentsCompose] at again
  by_cases second : late.substitute (lateDepth + 1) offsets.late (.node (.call reduced
      (arguments.flatMap (early.listed earlyDepth offsets.early))) template) = none
  · -- What the first instantiation reduces the overload set to is what it is reduced to at once.
    have stays := instantiated_of_substitute successive.lateUnspecialized second (.inr spread)
    obtain ⟨reducedStays, argumentsStay⟩ := Form.call.inj stays
    rw [argumentsStay] at argumentsCompose
    have result := again.narrow_eq
    rw [reducedStays, ← argumentsCompose, ← narrow_congr successive.scope, narrowed.narrow_eq,
      reducedEq] at result
    rw [instantiate_of_kept second, ← argumentsCompose, ← narrow_congr successive.scope, ← result]
  · rw [instantiate_call successive.lateUnspecialized second ?_, argumentsCompose, again.narrow_eq]
    intro absent
    obtain ⟨calleeOutside, argumentsOutside⟩ := List.forall_mem_cons.mp
      (Outside.children (outside depth) built absent)
    refine List.forall_mem_cons.mpr ⟨again.template_eq.trans calleeOutside, ?_⟩
    rwa [argumentsCompose]

/-- A call becomes the same when its parts do and it is kept at once exactly when it is kept twice. -/
theorem composes_call
    (spread : ∀ element ∈ arguments.flatMap (early.listed earlyDepth offsets.early),
      element.isExpansion = true → element.mentionsParameter = true)
    (kept : late.substitute (depth + 1) offsets.once (.node (.call callee arguments) template) =
        none ↔
      early.substitute (earlyDepth + 1) offsets.early (.node (.call callee arguments) template) =
          none ∧
        late.substitute (lateDepth + 1) offsets.late (.node (.call callee arguments) template) =
          none) :
    Composes early late offsets (earlyDepth + 1) (lateDepth + 1) (depth + 1)
      (.node (.call callee arguments) template) := by
  by_cases once : late.substitute (depth + 1) offsets.once
      (.node (.call callee arguments) template) = none
  · obtain ⟨first, second⟩ := kept.mp once
    rw [Composes, instantiate_of_kept first, instantiate_of_kept second, instantiate_of_kept once]
  · rw [Composes, instantiate_call successive.lateUnspecialized once
      (Outside.children (outside depth) built)]
    by_cases first : early.substitute (earlyDepth + 1) offsets.early
        (.node (.call callee arguments) template) = none
    · have second := fun second => once (kept.mpr ⟨first, second⟩)
      rw [instantiate_of_kept first]
      exact call_of_kept successive built parts first second
    · rw [instantiate_call successive.earlyUnspecialized first
        (Outside.children (outside earlyDepth) built)]
      exact call_of_changed successive built parts spread

end Calls

end Instantiation

end ConstExpr
