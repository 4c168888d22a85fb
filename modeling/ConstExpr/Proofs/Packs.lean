import ConstExpr.Proofs.Bindings
import ConstExpr.Proofs.Tree
import ConstExpr.Query.PackSize

/-!
# Packs that an expansion expands

A tree shows a pack when it mentions it outside of the pack expansions in it and of the operands of
pack sizes. A search for packs finds a number exactly when some pack is shown and all of them have
that many elements (`agrees_iff`, `visiblePackSize_absent_iff`); it is deferred only for a pack that
is not bound (`exists_unbound_of_deferred`), and what it finds otherwise stays so when more
parameters are bound (`visiblePackSize_extends`).
-/
namespace ConstExpr

namespace Ty

/-- The template parameters that a type mentions. -/
def parameters : Ty → List TemplateParameter
  | .parameter mentioned => [mentioned]
  | pointer inner | const inner | reference _ inner | packExpansion inner => inner.parameters
  | _ => []

/-- The packs that a type mentions outside of the expansions in it. -/
def packs : Ty → List TemplateParameter
  | .parameter mentioned => if mentioned.isPack then [mentioned] else []
  | pointer inner | const inner | reference _ inner => inner.packs
  | _ => []

/-- Some part of the type is a pack expansion. -/
def hasExpansion : Ty → Bool
  | packExpansion _ => true
  | pointer inner | const inner | reference _ inner => inner.hasExpansion
  | _ => false

variable {type : Ty}

/-- A type mentions the packs that it shows. -/
theorem mem_parameters {pack : TemplateParameter} (shown : pack ∈ type.packs) :
    pack ∈ type.parameters := by
  induction type with
  | parameter mentioned =>
    rw [packs] at shown
    split at shown
    · exact shown
    · contradiction
  | pointer _ ih | const _ ih | reference _ _ ih => exact ih shown
  | _ => contradiction

/-- A type without template parameters shows no packs. -/
theorem packs_of_silent (silent : type.mentionsParameter = false) :
    type.packs = [] := by
  induction type with
  | pointer _ ih | const _ ih | reference _ _ ih => exact ih silent
  | parameter => contradiction
  | _ => rfl

/-- A type without expansions shows all the packs that it mentions. -/
theorem mem_packs (plain : type.hasExpansion = false) {parameter : TemplateParameter}
    (mentioned : parameter ∈ type.parameters) (isPack : parameter.isPack = true) :
    parameter ∈ type.packs := by
  induction type with
  | parameter given =>
    obtain rfl : parameter = given := List.mem_singleton.mp mentioned
    rw [packs, if_pos isPack]
    exact mentioned
  | pointer _ ih | const _ ih | reference _ _ ih => exact ih plain mentioned
  | packExpansion => contradiction
  | _ => contradiction

/-- A type mentions one parameter at most. -/
theorem eq_of_mem_packs {pack parameter : TemplateParameter} (shown : pack ∈ type.packs)
    (mentioned : parameter ∈ type.parameters) : parameter = pack := by
  induction type with
  | parameter given =>
    rw [List.mem_singleton.mp mentioned, List.mem_singleton.mp (mem_parameters shown)]
  | pointer _ ih | const _ ih | reference _ _ ih => exact ih shown mentioned
  | _ => contradiction

end Ty

/-- The type that an argument is, or that its value has. -/
def TemplateArgument.carried : TemplateArgument → Ty
  | .type given | .nonType _ given => given

namespace Form

variable {α : Type}

/-- The types that a form carries. The parameter that a form is a mention of counts as a type. -/
def types : Form α → List Ty
  | templateRef parameter type => [.parameter parameter, type]
  | fixed type .. | parameterRef _ type _ | variableRef _ type | typeTrait _ type
  | construct type _ => [type]
  | overloads set => set.arguments.map TemplateArgument.carried
  | _ => []

/-- A form mentions a template parameter exactly when one of its types does. -/
theorem mentionsParameter_eq (form : Form α) :
    form.mentionsParameter = form.types.any Ty.mentionsParameter := by
  cases form with
  | overloads set =>
    rw [types, List.any_map]
    exact congrArg (set.arguments.any ·) (funext fun argument => by cases argument <;> rfl)
  | templateRef => rfl
  | fixed | parameterRef | variableRef | typeTrait | construct =>
    rw [types, List.any_cons, List.any_nil, Bool.or_false, mentionsParameter]
  | _ => rfl

/-- The template parameters that a form mentions by itself. -/
def parameters (form : Form α) : List TemplateParameter := form.types.flatMap Ty.parameters

/-- The packs that a form mentions by itself, outside of the expansions in its types. -/
def packs (form : Form α) : List TemplateParameter := form.types.flatMap Ty.packs

/-- A form mentions the packs that it shows. -/
theorem mem_parameters {form : Form α} {pack : TemplateParameter} (shown : pack ∈ form.packs) :
    pack ∈ form.parameters := by
  obtain ⟨type, carried, shown⟩ := List.mem_flatMap.mp shown
  exact List.mem_flatMap.mpr ⟨type, carried, Ty.mem_parameters shown⟩

/-- The packs below a node of the form are not expanded together with those beside the node: the
form is a pack expansion or the size of a pack. -/
def hidesPacks : Form α → Bool
  | expansion _ | unary .sizeofPack _ => true
  | _ => false

end Form

namespace Expr

/-- The tree mentions a pack outside of the expansions in it and of the operands of pack sizes. -/
inductive Shows (pack : TemplateParameter) : Expr → Prop where
  /-- The root mentions the pack. -/
  | root {form : Form Expr} {template : Option TemplateId} (member : pack ∈ form.packs) :
    Shows pack (node form template)
  /-- A child of the root shows the pack. -/
  | child {form : Form Expr} {template : Option TemplateId} {child : Expr}
    (open_ : form.hidesPacks = false) (member : child ∈ form.children) (shown : Shows pack child) :
    Shows pack (node form template)

end Expr

namespace PackSize

/-- The outcome does not contradict the given number of elements: no pack at all, or packs of as
many elements. -/
def Agrees (count : Nat) (size : PackSize) : Prop := size = .absent ∨ size = .count count

variable {count : Nat} {first second : PackSize}

/-- A combination agrees with a number of elements exactly when both parts do. -/
theorem agrees_combine :
    (first.combine second).Agrees count ↔ first.Agrees count ∧ second.Agrees count := by
  cases first with
  | count size =>
    cases second with
    | count other =>
      by_cases same : size = other
      · subst same
        simp [combine, Agrees]
      · simp [combine, Agrees, same]
        omega
    | _ => simp [combine, Agrees]
  | _ => simp [combine, Agrees]

/-- A sequence of outcomes agrees with a number of elements exactly when each of them does. -/
theorem agrees_foldl {sizes : List PackSize} :
    (sizes.foldl combine first).Agrees count ↔
      first.Agrees count ∧ ∀ size ∈ sizes, size.Agrees count := by
  induction sizes generalizing first with
  | nil => simp
  | cons size sizes ih => rw [List.foldl_cons, ih, agrees_combine, List.forall_mem_cons, and_assoc]

/-- There is no pack exactly when the outcome agrees with different numbers of elements. -/
theorem absent_iff_agrees {size : PackSize} : size = .absent ↔ ∀ count, size.Agrees count := by
  refine ⟨fun absent _ => .inl absent, fun agrees => ?_⟩
  rcases agrees 0 with absent | zero
  · exact absent
  · rcases agrees 1 with absent | one
    · exact absent
    · rw [zero] at one
      contradiction

/-- A combination is deferred only when a part of it is. -/
theorem deferred_of_combine (deferred : first.combine second = .deferred) :
    first = .deferred ∨ second = .deferred := by
  cases first with
  | count size =>
    cases second with
    | count other =>
      simp only [combine] at deferred
      split at deferred <;> contradiction
    | _ => simp_all [combine]
  | _ => simp_all [combine]

/-- A property of outcomes that holds without packs, and of a combination when it holds of both
parts. -/
structure IsJoint (property : PackSize → Prop) : Prop where
  /-- The property holds without packs. -/
  absent : property .absent
  /-- Combining keeps the property. -/
  combine {first second : PackSize} :
    property first → property second → property (first.combine second)

/-- A joint property of each outcome of a sequence is one of the sequence. -/
theorem IsJoint.foldl {property : PackSize → Prop} (joint : IsJoint property)
    {sizes : List PackSize} (own : property first) (each : ∀ size ∈ sizes, property size) :
    property (sizes.foldl .combine first) :=
  List.foldlRecOn sizes _ own fun _ found size member => joint.combine found (each size member)

/-- A combination is deferred only when a part of it is, so it is settled when both parts are. -/
theorem isJoint_settled : IsJoint (· ≠ .deferred) where
  absent := nofun
  combine settled settled' deferred := (deferred_of_combine deferred).elim settled settled'

/-- A part without packs does not count, also as the last one. -/
theorem combine_absent : first.combine .absent = first := by cases first <;> rfl

/-- Parts without packs do not count. -/
theorem foldl_absent {sizes : List PackSize} (absent : ∀ size ∈ sizes, size = .absent) :
    sizes.foldl combine first = first := by
  induction sizes with
  | nil => rfl
  | cons size sizes ih =>
    obtain ⟨none, rest⟩ := List.forall_mem_cons.mp absent
    rw [List.foldl_cons, none, combine_absent, ih rest]

/-- A relation of the outcomes for two sequences holds when what takes the place of each item keeps
it. -/
theorem foldl_flatMap_related {α β : Type} {before : α → PackSize} {after : β → PackSize}
    {change : α → List β} {items : List α} {related : PackSize → PackSize → Prop}
    (start : related first second)
    (keeps : ∀ item ∈ items, ∀ found found', related found found' →
      related (found.combine (before item)) (((change item).map after).foldl combine found')) :
    related ((items.map before).foldl combine first)
      (((items.flatMap change).map after).foldl combine second) := by
  induction items generalizing first second with
  | nil => exact start
  | cons item items ih =>
    obtain ⟨itemKeeps, rest⟩ := List.forall_mem_cons.mp keeps
    rw [List.map_cons, List.foldl_cons, List.flatMap_cons, List.map_append, List.foldl_append]
    exact ih (itemKeeps first second start) rest

/-- The outcome for a sequence stays when that for what takes the place of each item does. -/
theorem foldl_flatMap {α β : Type} {before : α → PackSize} {after : β → PackSize}
    {change : α → List β} {items : List α}
    (same : ∀ item ∈ items, ∀ first,
      ((change item).map after).foldl combine first = first.combine (before item)) :
    ((items.flatMap change).map after).foldl combine first =
      (items.map before).foldl combine first := by
  have kept : (items.map before).foldl combine first =
      ((items.flatMap change).map after).foldl combine first := by
    refine foldl_flatMap_related rfl fun item member found found' started => ?_
    rw [started, same item member]
  exact kept.symm

/-- A combination that is not deferred stays so when its parts do. -/
theorem combine_settled {first' second' : PackSize} (settled : first.combine second ≠ .deferred)
    (firstKept : first ≠ .deferred → first' = first)
    (secondKept : second ≠ .deferred → second' = second) :
    first'.combine second' = first.combine second := by
  cases first with
  | deferred => exact absurd rfl settled
  | failed => rw [firstKept nofun]; rfl
  | absent => rw [firstKept nofun]; exact secondKept settled
  | count size =>
    rw [firstKept nofun]
    cases second with
    | deferred => exact absurd rfl settled
    | _ => rw [secondKept nofun]

/-- A sequence of outcomes that is not deferred stays so when each of them does. -/
theorem foldl_settled {α : Type} {before after : α → PackSize} {items : List α} {first' : PackSize}
    (settled : (items.map before).foldl combine first ≠ .deferred)
    (firstKept : first ≠ .deferred → first' = first)
    (kept : ∀ item ∈ items, before item ≠ .deferred → after item = before item) :
    (items.map after).foldl combine first' = (items.map before).foldl combine first := by
  induction items generalizing first first' with
  | nil => exact firstKept settled
  | cons item items ih =>
    obtain ⟨itemKept, rest⟩ := List.forall_mem_cons.mp kept
    exact ih settled (fun combined => combine_settled combined firstKept itemKept) rest

end PackSize

section Searches

variable {map smaller : Substitution} {count : Nat}

namespace Ty

variable {type : Ty}

/-- What a type mentions agrees with a number of elements exactly when every pack it shows does. -/
theorem agrees_iff : (type.packSize map).Agrees count ↔
    ∀ pack ∈ type.packs, map.packSize pack = .count count := by
  induction type with
  | parameter mentioned =>
    by_cases isPack : mentioned.isPack = true
    · have some : map.packSize mentioned ≠ .absent := by
        unfold Substitution.packSize
        split <;> simp_all
        split <;> simp
      simp [packSize, packs, isPack, PackSize.Agrees, some]
    · simp [packSize, packs, isPack, PackSize.Agrees, Substitution.packSize]
  | pointer _ ih | const _ ih | reference _ _ ih => exact ih
  | _ => simp [packSize, packs, PackSize.Agrees]

/-- The pack that a type shows tells its size. -/
theorem packSize_of_mem {pack : TemplateParameter} (shown : pack ∈ type.packs) :
    type.packSize map = map.packSize pack := by
  induction type with
  | parameter given =>
    rw [packs] at shown
    split at shown
    · rw [List.mem_singleton.mp shown, packSize]
    · contradiction
  | pointer _ ih | const _ ih | reference _ _ ih => exact ih shown
  | _ => contradiction

/-- A type without packs has no size of packs. -/
theorem packSize_of_packs_eq_nil (none : type.packs = []) : type.packSize map = .absent :=
  PackSize.absent_iff_agrees.mpr fun _ => agrees_iff.mpr fun pack shown => by
    rw [none] at shown
    contradiction

/-- A type whose packs have a number of elements shows a pack. -/
theorem exists_shown (sized : type.packSize map = .count count) : ∃ pack, pack ∈ type.packs :=
  List.exists_mem_of_ne_nil _ fun none => by
    rw [packSize_of_packs_eq_nil none] at sized
    contradiction

/-- A joint property of the packs that a type shows is one of their size. -/
theorem packSize_joint {property : PackSize → Prop} (joint : PackSize.IsJoint property)
    (each : ∀ pack ∈ type.packs, property (map.packSize pack)) : property (type.packSize map) := by
  cases shown : type.packs with
  | nil =>
    rw [packSize_of_packs_eq_nil shown]
    exact joint.absent
  | cons pack rest =>
    have member : pack ∈ type.packs := shown ▸ List.mem_cons_self
    rw [packSize_of_mem member]
    exact each pack member

/-- The packs of a type are deferred only for one that is not bound. -/
theorem exists_unbound (deferred : type.packSize map = .deferred) :
    ∃ pack ∈ type.packs, map.packSize pack = .deferred := by
  refine Classical.byContradiction fun none => ?_
  exact packSize_joint PackSize.isJoint_settled
    (fun pack shown unbound => none ⟨pack, shown, unbound⟩) deferred

/-- What the packs of a type give stays so when more parameters are bound. -/
theorem packSize_extends (extends_ : map.Extends smaller)
    (settled : type.packSize smaller ≠ .deferred) : type.packSize map = type.packSize smaller := by
  induction type with
  | parameter mentioned => exact Substitution.packSize_extends extends_ settled
  | pointer _ ih | const _ ih | reference _ _ ih => exact ih settled
  | _ => rfl

/-- Every pack that a type shows is a pack. -/
theorem isPack_of_mem_packs {pack : TemplateParameter} (member : pack ∈ type.packs) :
    pack.isPack = true := by
  induction type with
  | parameter mentioned =>
    by_cases isPack : mentioned.isPack = true
    · rw [packs, if_pos isPack, List.mem_singleton] at member
      rwa [member]
    · rw [packs, if_neg isPack] at member
      contradiction
  | pointer _ ih | const _ ih | reference _ _ ih => exact ih member
  | _ => contradiction

end Ty

namespace Form

variable {α : Type} {form : Form α}

/-- The packs of a form are those of its types, one after the other. -/
theorem packSize_eq (map : Substitution) (form : Form α) :
    form.packSize map = .combineAll (form.types.map (Ty.packSize map)) := by
  cases form with
  | overloads set =>
    have each : TemplateArgument.packSize map = Ty.packSize map ∘ TemplateArgument.carried := by
      funext argument
      cases argument <;> rfl
    rw [packSize, OverloadSet.packSize, types, List.map_map, each]
  | _ => rfl

/-- The packs of a form agree with a number of elements exactly when each of them does. -/
theorem agrees_iff : (form.packSize map).Agrees count ↔
    ∀ pack ∈ form.packs, map.packSize pack = .count count := by
  simp only [packSize_eq, PackSize.combineAll, PackSize.agrees_foldl, List.forall_mem_map,
    Ty.agrees_iff, packs, List.mem_flatMap]
  constructor
  · rintro ⟨-, each⟩ pack ⟨type, carried, shown⟩
    exact each type carried pack shown
  · intro each
    exact ⟨.inl rfl, fun type carried pack shown => each pack ⟨type, carried, shown⟩⟩

/-- A joint property of the packs that a form shows is one of their size. -/
theorem packSize_joint {property : PackSize → Prop} (joint : PackSize.IsJoint property)
    (each : ∀ pack ∈ form.packs, property (map.packSize pack)) : property (form.packSize map) := by
  rw [packSize_eq]
  refine joint.foldl joint.absent (List.forall_mem_map.mpr fun type carried => ?_)
  exact Ty.packSize_joint joint fun pack shown =>
    each pack (List.mem_flatMap.mpr ⟨type, carried, shown⟩)

/-- What the packs of a form give stays so when more parameters are bound. -/
theorem packSize_extends (extends_ : map.Extends smaller)
    (settled : form.packSize smaller ≠ .deferred) :
    form.packSize map = form.packSize smaller := by
  rw [packSize_eq] at settled ⊢
  rw [packSize_eq]
  exact PackSize.foldl_settled settled (fun _ => rfl) fun _ _ => Ty.packSize_extends extends_

/-- Every pack that a form shows is a pack. -/
theorem isPack_of_mem_packs {pack : TemplateParameter} (member : pack ∈ form.packs) :
    pack.isPack = true := by
  obtain ⟨type, _, shown⟩ := List.mem_flatMap.mp member
  exact Ty.isPack_of_mem_packs shown

end Form

namespace Expr

variable {expr : Expr}

/-- The outcomes of a list of trees are combined one after the other. -/
theorem visiblePackSizeFrom_eq (found : PackSize) (exprs : List Expr) :
    visiblePackSizeFrom map found exprs =
      (exprs.map (visiblePackSize map)).foldl .combine found := by
  induction exprs generalizing found with
  | nil => rfl
  | cons expr exprs ih => rw [visiblePackSizeFrom, ih, List.map_cons, List.foldl_cons]

/-- The packs of a node are its own and then those of its children, unless it hides them. -/
theorem visiblePackSize_node (form : Form Expr) (template : Option TemplateId) :
    (node form template).visiblePackSize map =
      if form.hidesPacks then .absent
      else (form.children.map (visiblePackSize map)).foldl .combine (form.packSize map) := by
  rw [visiblePackSize]
  cases form with
  | unary operator operand => cases operator <;> rfl
  | binary | conditional | expansion | fixed | templateRef | parameterRef | variableRef
  | typeTrait | overloads => rfl
  | comma | braced | call | construct => exact visiblePackSizeFrom_eq _ _

/-- A node without children shows the packs of its form. -/
theorem Shows.own {form : Form Expr} {template : Option TemplateId} {pack : TemplateParameter}
    (shown : (node form template).Shows pack) (leaf : form.children = []) : pack ∈ form.packs := by
  cases shown with
  | root member => exact member
  | child _ member => rw [leaf] at member; contradiction

/-- All of a tree is searched for packs, unless it is an expansion. -/
theorem packSize_of_plain (plain : expr.isExpansion = false) :
    expr.packSize map = expr.visiblePackSize map := by
  obtain ⟨form, template⟩ := expr
  cases form with
  | expansion => contradiction
  | _ => rfl

/-- A form that hides packs mentions none itself. -/
theorem not_shows_of_hides {form : Form Expr} {template : Option TemplateId}
    (hides : form.hidesPacks = true) {pack : TemplateParameter} :
    ¬ (node form template).Shows pack := by
  intro shown
  cases shown with
  | root member =>
    cases form with
    | unary | expansion => contradiction
    | _ => contradiction
  | child visible => rw [hides] at visible; contradiction

/-- The packs that a node shows are its own and those that its children show. -/
theorem shows_node {form : Form Expr} {template : Option TemplateId}
    (visible : form.hidesPacks = false) {pack : TemplateParameter} :
    (node form template).Shows pack ↔
      pack ∈ form.packs ∨ ∃ child ∈ form.children, child.Shows pack := by
  constructor
  · intro shown
    cases shown with
    | root member => exact .inl member
    | child _ member shown => exact .inr ⟨_, member, shown⟩
  · rintro (member | ⟨child, member, shown⟩)
    · exact .root member
    · exact .child visible member shown

/-- Some node of a tree that shows a pack mentions it. -/
theorem Shows.exists_part {pack : TemplateParameter} (shown : expr.Shows pack) :
    ∃ part, expr.Contains part ∧ pack ∈ part.form.parameters := by
  induction shown with
  | root member => exact ⟨_, .root _, Form.mem_parameters member⟩
  | child _ member _ ih =>
    obtain ⟨part, inside, mentioned⟩ := ih
    exact ⟨part, .child member inside, mentioned⟩

/-- A tree that shows a pack mentions a template parameter. -/
theorem Shows.mentionsParameter {pack : TemplateParameter} (shown : expr.Shows pack) :
    expr.mentionsParameter = true := by
  induction shown with
  | root member =>
    obtain ⟨type, carried, shown⟩ := List.mem_flatMap.mp member
    have mentions : type.mentionsParameter = true := by
      cases silent : type.mentionsParameter with
      | true => rfl
      | false => rw [Ty.packs_of_silent silent] at shown; contradiction
    rw [Expr.mentionsParameter, anyForm_eq, Form.mentionsParameter_eq,
      List.any_eq_true.mpr ⟨type, carried, mentions⟩, Bool.true_or]
  | child _ member _ ih => exact anyForm_of_child member ih

/-- A tree that shows a pack shows packs only. -/
theorem Shows.isPack {pack : TemplateParameter} (shown : expr.Shows pack) : pack.isPack = true := by
  induction shown with
  | root member => exact Form.isPack_of_mem_packs member
  | child _ _ _ ih => exact ih

/-- A search agrees with a number of elements exactly when every pack shown has as many. -/
theorem agrees_iff : (expr.visiblePackSize map).Agrees count ↔
    ∀ pack, expr.Shows pack → map.packSize pack = .count count := by
  induction expr using Expr.induction with
  | step form template ih =>
    rw [visiblePackSize_node]
    split
    · next hides =>
      exact iff_of_true (.inl rfl) fun _ shown => absurd shown (not_shows_of_hides hides)
    · next visible =>
      simp only [PackSize.agrees_foldl, Form.agrees_iff, List.forall_mem_map,
        shows_node (Bool.not_eq_true _ ▸ visible)]
      constructor
      · rintro ⟨own, below⟩ pack (member | ⟨child, member, shown⟩)
        · exact own pack member
        · exact (ih child member).mp (below child member) pack shown
      · intro each
        exact ⟨fun pack member => each pack (.inl member), fun child member =>
          (ih child member).mpr fun pack shown => each pack (.inr ⟨child, member, shown⟩)⟩

/-- A search finds no pack exactly when none is shown. -/
theorem visiblePackSize_absent_iff :
    expr.visiblePackSize map = .absent ↔ ∀ pack, ¬ expr.Shows pack := by
  simp only [PackSize.absent_iff_agrees, agrees_iff]
  constructor
  · intro sized pack shown
    have same := (sized 0 pack shown).symm.trans (sized 1 pack shown)
    contradiction
  · exact fun none _ pack shown => absurd shown (none pack)

/-- All packs shown have the number of elements that a search finds. -/
theorem packSize_of_shows (sized : expr.visiblePackSize map = .count count)
    {pack : TemplateParameter} (shown : expr.Shows pack) : map.packSize pack = .count count :=
  agrees_iff.mp (.inr sized) pack shown

/-- A tree whose packs have a number of elements shows a pack. -/
theorem exists_shown (sized : expr.visiblePackSize map = .count count) :
    ∃ pack, expr.Shows pack := by
  refine Classical.byContradiction fun none => ?_
  rw [visiblePackSize_absent_iff.mpr (not_exists.mp none)] at sized
  contradiction

/-- A joint property of the packs that a tree shows is one of what a search finds. -/
theorem visiblePackSize_joint {property : PackSize → Prop} (joint : PackSize.IsJoint property)
    (each : ∀ pack, expr.Shows pack → property (map.packSize pack)) :
    property (expr.visiblePackSize map) := by
  induction expr using Expr.induction with
  | step form template ih =>
    rw [visiblePackSize_node]
    split
    · exact joint.absent
    · next visible =>
      have own : property (form.packSize map) :=
        Form.packSize_joint joint fun pack member => each pack (.root member)
      refine joint.foldl own (List.forall_mem_map.mpr fun child member => ih child member ?_)
      exact fun pack shown => each pack (.child (Bool.not_eq_true _ ▸ visible) member shown)

/-- A search is deferred only for a pack that is not bound. -/
theorem exists_unbound_of_deferred (deferred : expr.visiblePackSize map = .deferred) :
    ∃ pack, expr.Shows pack ∧ map.binding? pack.id = none := by
  refine Classical.byContradiction fun none => ?_
  refine visiblePackSize_joint PackSize.isJoint_settled (fun pack shown unbound => ?_) deferred
  exact none ⟨pack, shown, (Substitution.packSize_eq_deferred.mp unbound).2⟩

/-- What a search finds stays so when more parameters are bound, unless it was deferred. -/
theorem visiblePackSize_extends (extends_ : map.Extends smaller)
    (settled : expr.visiblePackSize smaller ≠ .deferred) :
    expr.visiblePackSize map = expr.visiblePackSize smaller := by
  induction expr using Expr.induction with
  | step form template ih =>
    rw [visiblePackSize_node] at settled ⊢
    rw [visiblePackSize_node]
    split
    · rfl
    · next visible =>
      rw [if_neg visible] at settled
      exact PackSize.foldl_settled settled (Form.packSize_extends extends_) ih

/-- The tree that is searched for packs, which of an expansion is the pattern. -/
def measured (expr : Expr) : Expr :=
  match expr.form with
  | .expansion pattern => pattern
  | _ => expr

/-- The size of a tree is that of the packs that are shown in what is searched. -/
theorem packSize_eq (map : Substitution) (expr : Expr) :
    expr.packSize map = expr.measured.visiblePackSize map := by
  obtain ⟨form, template⟩ := expr
  cases form <;> rfl

/-- All of a tree is searched, unless it is an expansion. -/
theorem measured_of_plain {expr : Expr} (plain : expr.isExpansion = false) :
    expr.measured = expr := by
  obtain ⟨form, template⟩ := expr
  cases form with
  | expansion => contradiction
  | _ => rfl

end Expr

end Searches

end ConstExpr
