import ConstExpr.Proofs.PackSizing

/-!
# The order in which packs are found

The packs that a tree shows stand in one order (`Expr.shownPacks`), while a search for them combines
the outcomes of the parts of each node, grouped as the tree is. Grouping outcomes in another way can
only put a failure off (`PackSize.combine_regrouped`): a part that is deferred is kept as it is, and
the numbers in it are not compared with those found before. So a search finds what the packs give
one after the other, or defers their failure, and it is deferred exactly when a pack that is not
bound stands where each node on the way to it has found one number at most (`Expr.Defers`).
-/
namespace ConstExpr

namespace PackSize

/-- The outcome is the other one, or it puts it off: it is deferred, and the other one fails. -/
def Postpones (size other : PackSize) : Prop := size = other ∨ size = .deferred ∧ other = .failed

variable {first first' second second' third : PackSize} {sizes : List PackSize}

/-- What puts off an outcome that puts off a third one puts off the third one. -/
theorem Postpones.trans (former : first.Postpones second) (latter : second.Postpones third) :
    first.Postpones third := by
  rcases former with rfl | ⟨rfl, rfl⟩
  · exact latter
  · rcases latter with rfl | ⟨deferred, -⟩
    · exact .inr ⟨rfl, rfl⟩
    · contradiction

/-- A combination puts off another one when its parts do. -/
theorem Postpones.combine (former : first.Postpones first') (latter : second.Postpones second') :
    (first.combine second).Postpones (first'.combine second') := by
  rcases former with rfl | ⟨rfl, rfl⟩
  · rcases latter with rfl | ⟨rfl, rfl⟩
    · exact .inl rfl
    · cases first with
      | deferred | failed => exact .inl rfl
      | absent | count => exact .inr ⟨rfl, rfl⟩
  · exact .inr ⟨rfl, rfl⟩

/-- Numbers that differ fail. -/
theorem combine_count_of_ne {size other : Nat} (differ : size ≠ other) :
    (count size).combine (count other) = failed := if_neg differ

/-- A number that is found again does not change. -/
theorem combine_count_self {size : Nat} : (count size).combine (count size) = count size :=
  if_pos rfl

/-- An outcome that is found again does not count. -/
theorem combine_again : first.combine (first.combine second) = first.combine second := by
  cases first with
  | deferred | failed | absent => rfl
  | count size =>
    cases second with
    | deferred | failed => rfl
    | absent => exact combine_count_self
    | count other =>
      by_cases same : size = other
      · rw [← same, combine_count_self, combine_count_self]
      · rw [combine_count_of_ne same]
        rfl

/-- Combining the later parts with each other first can only put a failure off. -/
theorem combine_regrouped :
    (first.combine (second.combine third)).Postpones ((first.combine second).combine third) := by
  cases first with
  | deferred | failed | absent => exact .inl rfl
  | count size =>
    cases second with
    | deferred | failed | absent => exact .inl rfl
    | count other =>
      by_cases same : size = other
      · rw [← same, combine_again, combine_count_self]
        exact .inl rfl
      · -- The two numbers fail, which is not noticed when the second one is lost in a deferral.
        rw [combine_count_of_ne same]
        cases third with
        | deferred => exact .inr ⟨rfl, rfl⟩
        | failed => exact .inl rfl
        | absent => exact .inl (combine_count_of_ne same)
        | count last =>
          by_cases again : other = last
          · rw [← again, combine_count_self]
            exact .inl (combine_count_of_ne same)
          · rw [combine_count_of_ne again]
            exact .inl rfl

/-- What a sequence of outcomes gives is put off when it starts with what puts off its start. -/
theorem Postpones.foldl (postpones : first.Postpones first') :
    (sizes.foldl .combine first).Postpones (sizes.foldl .combine first') := by
  induction sizes generalizing first first' with
  | nil => exact postpones
  | cons size sizes ih => exact ih (postpones.combine (.inl rfl))

/-- Combining a sequence of outcomes before it is combined with what stands in front of it can only
put a failure off. -/
theorem foldl_regrouped :
    (first.combine (sizes.foldl combine second)).Postpones
      (sizes.foldl combine (first.combine second)) := by
  induction sizes generalizing second with
  | nil => exact .inl rfl
  | cons size sizes ih => exact ih.trans combine_regrouped.foldl

/-- The outcome of a part as a whole puts off those of the part one after the other. -/
theorem combineAll_regrouped :
    (first.combine (combineAll sizes)).Postpones (sizes.foldl combine first) := by
  have regrouped : (first.combine (sizes.foldl combine absent)).Postpones
      (sizes.foldl combine (first.combine absent)) := foldl_regrouped
  rwa [combine_absent] at regrouped

/-- Outcomes that put off what stands in their place put off all of it. -/
theorem foldl_flatMap_regrouped {α β : Type} {before : α → PackSize} {after : β → PackSize}
    {change : α → List β} {items : List α} (start : first.Postpones first')
    (each : ∀ item ∈ items, (before item).Postpones (combineAll ((change item).map after))) :
    ((items.map before).foldl combine first).Postpones
      (((items.flatMap change).map after).foldl combine first') := by
  refine foldl_flatMap_related start fun item member found found' postpones => ?_
  have whole := postpones.combine (each item member)
  exact whole.trans combineAll_regrouped

/-- A combination is deferred exactly when the first part is, or the second one behind a first one
that leaves a number open. -/
theorem combine_eq_deferred : first.combine second = .deferred ↔
    first = .deferred ∨ second = .deferred ∧ ∃ count, first.Agrees count := by
  constructor
  · intro deferred
    cases first with
    | deferred => exact .inl rfl
    | failed => contradiction
    | absent => exact .inr ⟨deferred, 0, .inl rfl⟩
    | count size =>
      have last : second = .deferred := (deferred_of_combine deferred).resolve_left nofun
      exact .inr ⟨last, size, .inr rfl⟩
  · rintro (rfl | ⟨rfl, count, rfl | rfl⟩) <;> rfl

/-- The outcomes of items in order are deferred exactly when they start so, or when that of an item
is and all before it agree with one number. -/
theorem foldl_eq_deferred {α : Type} {outcome : α → PackSize} {items : List α} :
    (items.map outcome).foldl combine first = .deferred ↔
      first = .deferred ∨ ∃ before item after count, items = before ++ item :: after ∧
        outcome item = .deferred ∧ first.Agrees count ∧
          ∀ other ∈ before, (outcome other).Agrees count := by
  induction items generalizing first with
  | nil => simp
  | cons item items ih =>
    rw [List.map_cons, List.foldl_cons, ih, combine_eq_deferred]
    constructor
    · rintro ((deferred | ⟨deferred, count, agrees⟩) |
        ⟨before, next, after, count, rfl, deferred, agrees, each⟩)
      · exact .inl deferred
      · exact .inr ⟨[], item, items, count, rfl, deferred, agrees, List.forall_mem_nil _⟩
      · obtain ⟨start, own⟩ := agrees_combine.mp agrees
        exact .inr ⟨item :: before, next, after, count, rfl, deferred, start,
          List.forall_mem_cons.mpr ⟨own, each⟩⟩
    · rintro (deferred | ⟨before, next, after, count, split, deferred, agrees, each⟩)
      · exact .inl (.inl deferred)
      · cases before with
        | nil =>
          obtain ⟨rfl, rfl⟩ := List.cons.inj split
          exact .inl (.inr ⟨deferred, count, agrees⟩)
        | cons head before =>
          obtain ⟨rfl, rfl⟩ := List.cons.inj split
          obtain ⟨own, rest⟩ := List.forall_mem_cons.mp each
          exact .inr ⟨before, next, after, count, rfl, deferred,
            agrees_combine.mpr ⟨agrees, own⟩, rest⟩

end PackSize

section Packs

variable {map : Substitution}

/-- A type has the size of the packs that it shows. -/
theorem Ty.packSize_eq_combineAll (type : Ty) (first : PackSize) :
    (type.packs.map map.packSize).foldl .combine first = first.combine (type.packSize map) := by
  induction type with
  | parameter mentioned =>
    by_cases isPack : mentioned.isPack = true
    · rw [packs, if_pos isPack]
      rfl
    · have none : map.packSize mentioned = .absent := if_neg isPack
      rw [packs, if_neg isPack, packSize, none, PackSize.combine_absent]
      rfl
  | pointer _ ih | const _ ih | reference _ _ ih => exact ih
  | _ => exact PackSize.combine_absent.symm

/-- A form has the size of the packs that it shows, one after the other. -/
theorem Form.packSize_eq_combineAll {α : Type} (form : Form α) :
    form.packSize map = .combineAll (form.packs.map map.packSize) := by
  rw [packSize_eq, packs, PackSize.combineAll, PackSize.combineAll]
  exact (PackSize.foldl_flatMap fun type _ first => type.packSize_eq_combineAll first).symm

/-- The size of a pack agrees with a number exactly when the pack is bound to as many arguments. -/
theorem Substitution.agrees_iff_bindsPack {pack : TemplateParameter} (isPack : pack.isPack = true)
    {size : Nat} : (map.packSize pack).Agrees size ↔ map.BindsPack pack size := by
  have some : map.packSize pack ≠ .absent := by
    unfold Substitution.packSize
    rw [if_pos isPack]
    split <;> exact nofun
  rw [PackSize.Agrees, or_iff_right some, packSize_eq_count_of_isPack isPack]

/-- The packs of a form agree with a number exactly when each is bound to as many arguments. -/
theorem Form.agrees_iff_bindsPack {α : Type} {form : Form α} {size : Nat} :
    (form.packSize map).Agrees size ↔ ∀ pack ∈ form.packs, map.BindsPack pack size := by
  rw [agrees_iff]
  exact forall₂_congr fun pack member =>
    Substitution.packSize_eq_count_of_isPack (isPack_of_mem_packs member)

/-- The packs of a form are deferred exactly when one is not bound and those before it are bound to
packs of one size. -/
theorem Form.packSize_eq_deferred {α : Type} {form : Form α} : form.packSize map = .deferred ↔
    ∃ before pack after size, form.packs = before ++ pack :: after ∧
      map.binding? pack.id = none ∧ ∀ other ∈ before, map.BindsPack other size := by
  have isPack {pack : TemplateParameter} (member : pack ∈ form.packs) : pack.isPack = true :=
    isPack_of_mem_packs member
  rw [packSize_eq_combineAll, PackSize.combineAll, PackSize.foldl_eq_deferred]
  constructor
  · rintro (start | ⟨before, pack, after, size, split, deferred, -, agree⟩)
    · contradiction
    · have unbound := (Substitution.packSize_eq_deferred.mp deferred).2
      refine ⟨before, pack, after, size, split, unbound, fun other member => ?_⟩
      have listed : other ∈ form.packs := split ▸ List.mem_append_left _ member
      exact (Substitution.agrees_iff_bindsPack (isPack listed)).mp (agree other member)
  · rintro ⟨before, pack, after, size, split, unbound, agree⟩
    have listed : pack ∈ form.packs := split ▸ List.mem_append_cons_self
    have deferred := Substitution.packSize_eq_deferred.mpr ⟨isPack listed, unbound⟩
    refine .inr ⟨before, pack, after, size, split, deferred, .inl rfl, fun other member => ?_⟩
    have listed : other ∈ form.packs := split ▸ List.mem_append_left _ member
    exact (Substitution.agrees_iff_bindsPack (isPack listed)).mpr (agree other member)

end Packs

namespace Expr

mutual

/-- The packs that a tree shows, one for each mention, in the order of the source. -/
def shownPacks : Expr → List TemplateParameter
  | node form _ => shownPacksOfForm form

/-- The packs that a form shows with all below it. -/
def shownPacksOfForm : Form Expr → List TemplateParameter
  | .expansion _ | .unary .sizeofPack _ => []
  | .unary _ operand => shownPacks operand
  | .binary _ left right => shownPacks left ++ shownPacks right
  | .conditional condition positive negative =>
    shownPacks condition ++ (shownPacks positive ++ shownPacks negative)
  | .comma operands => shownPacksOfAll operands
  | .call callee arguments => shownPacks callee ++ shownPacksOfAll arguments
  | .braced clauses => shownPacksOfAll clauses
  | .construct type arguments => type.packs ++ shownPacksOfAll arguments
  | form => form.packs

/-- The packs that the trees of a list show. -/
def shownPacksOfAll : List Expr → List TemplateParameter
  | [] => []
  | expr :: exprs => shownPacks expr ++ shownPacksOfAll exprs

end

/-- The packs of a list of trees are those of each tree, one after the other. -/
theorem shownPacksOfAll_eq (exprs : List Expr) :
    shownPacksOfAll exprs = exprs.flatMap shownPacks := by
  induction exprs with
  | nil => rfl
  | cons expr exprs ih => rw [shownPacksOfAll, ih, List.flatMap_cons]

/-- The packs of a node are its own and then those of its children, unless it hides them. -/
theorem shownPacks_node (form : Form Expr) (template : Option TemplateId) :
    (node form template).shownPacks =
      if form.hidesPacks then [] else form.packs ++ form.children.flatMap shownPacks := by
  rw [shownPacks]
  cases form with
  | unary operator operand =>
    cases operator <;> simp [shownPacksOfForm, Form.hidesPacks, Form.packs, Form.types,
      Form.children]
  | _ => simp [shownPacksOfForm, shownPacksOfAll_eq, Form.hidesPacks, Form.packs, Form.types,
      Form.children]

variable {map : Substitution} {expr : Expr}

/-- A tree shows exactly the packs that stand in their order. -/
theorem mem_shownPacks {pack : TemplateParameter} : pack ∈ expr.shownPacks ↔ expr.Shows pack := by
  induction expr using Expr.induction with
  | step form template ih =>
    rw [shownPacks_node]
    split
    · next hides => exact iff_of_false List.not_mem_nil (not_shows_of_hides hides)
    · next visible =>
      rw [shows_node (Bool.not_eq_true _ ▸ visible), List.mem_append, List.mem_flatMap]
      exact or_congr_right (exists_congr fun child => and_congr_right fun member => ih child member)

/-- A search finds what the packs shown give one after the other, or puts their failure off. -/
theorem visiblePackSize_postpones :
    (expr.visiblePackSize map).Postpones (.combineAll (expr.shownPacks.map map.packSize)) := by
  induction expr using Expr.induction with
  | step form template ih =>
    rw [visiblePackSize_node, shownPacks_node]
    split
    · exact .inl rfl
    · rw [PackSize.combineAll, List.map_append, List.foldl_append]
      exact PackSize.foldl_flatMap_regrouped (.inl form.packSize_eq_combineAll) ih

/-- Some pack that the tree shows is not bound, and at each node on the way to it, all packs that
the node has shown before are bound to as many arguments: those of the node itself and those of the
children before the way. Packs at different nodes may differ in their numbers. -/
inductive Defers (map : Substitution) : Expr → Prop where
  /-- The root mentions the pack. -/
  | root {form : Form Expr} {template : Option TemplateId} {pack : TemplateParameter}
    {before after : List TemplateParameter} {size : Nat}
    (split : form.packs = before ++ pack :: after) (unbound : map.binding? pack.id = none)
    (agree : ∀ other ∈ before, map.BindsPack other size) : Defers map (node form template)
  /-- A child of the root shows the pack. -/
  | child {form : Form Expr} {template : Option TemplateId} {child : Expr}
    {before after : List Expr} {size : Nat} (open_ : form.hidesPacks = false)
    (split : form.children = before ++ child :: after)
    (own : ∀ other ∈ form.packs, map.BindsPack other size)
    (agree : ∀ sibling ∈ before, ∀ other, sibling.Shows other → map.BindsPack other size)
    (defers : Defers map child) : Defers map (node form template)

/-- A search is deferred exactly when a pack that is not bound stands behind packs that agree, at
each node on the way to it. -/
theorem visiblePackSize_deferred_iff : expr.visiblePackSize map = .deferred ↔ expr.Defers map := by
  induction expr using Expr.induction with
  | step form template ih =>
    rw [visiblePackSize_node]
    split
    · next hides =>
      refine iff_of_false nofun fun defers => ?_
      cases defers with
      | root split =>
        have shown : (node form template).Shows _ := .root (split ▸ List.mem_append_cons_self)
        exact not_shows_of_hides hides shown
      | child visible => rw [hides] at visible; contradiction
    · next visible =>
      rw [PackSize.foldl_eq_deferred, Form.packSize_eq_deferred]
      constructor
      · rintro (⟨before, pack, after, size, split, unbound, agree⟩ |
          ⟨before, child, after, size, split, deferred, own, agree⟩)
        · exact .root split unbound agree
        · have member : child ∈ form.children := split ▸ List.mem_append_cons_self
          refine .child (Bool.not_eq_true _ ▸ visible) split (Form.agrees_iff_bindsPack.mp own) ?_
            ((ih child member).mp deferred)
          exact fun sibling before => agrees_iff_bindsPack.mp (agree sibling before)
      · intro defers
        cases defers with
        | root split unbound agree => exact .inl ⟨_, _, _, _, split, unbound, agree⟩
        | child _ split own agree defers =>
          have member := split ▸ List.mem_append_cons_self
          refine .inr ⟨_, _, _, _, split, (ih _ member).mpr defers,
            Form.agrees_iff_bindsPack.mpr own, ?_⟩
          exact fun sibling before => agrees_iff_bindsPack.mpr (agree sibling before)

/-- What the size of the packs of a tree is, in terms of the order in which the packs stand in what
is searched: the tree, or the pattern of an expansion. -/
structure CombinesInOrder (map : Substitution) (expr : Expr) : Prop where
  /-- The packs that stand in order are those that are shown. -/
  shown (pack : TemplateParameter) : pack ∈ expr.measured.shownPacks ↔ expr.measured.Shows pack
  /-- The size is what the packs give from left to right, but for a failure that is deferred. -/
  ordered : expr.packSize map = .combineAll (expr.measured.shownPacks.map map.packSize) ∨
    expr.packSize map = .deferred ∧
      PackSize.combineAll (expr.measured.shownPacks.map map.packSize) = .failed
  /-- The size is deferred exactly for a pack that is not bound, behind packs that agree at each
  node on the way to it. -/
  deferred : expr.packSize map = .deferred ↔ expr.measured.Defers map

end Expr

/-- The size of the packs of a tree is what the packs give in the order of the source, whatever the
tree is grouped like, unless a failure is deferred; when this is so is told exactly. -/
theorem packSize_in_order (map : Substitution) (expr : Expr) : expr.CombinesInOrder map := by
  refine ⟨fun pack => Expr.mem_shownPacks, ?_, ?_⟩
  · rw [Expr.packSize_eq]
    exact Expr.visiblePackSize_postpones
  · rw [Expr.packSize_eq]
    exact Expr.visiblePackSize_deferred_iff

/-- A mention of one of the packs of the outermost template. -/
def numberedPack (index : Nat) : Expr :=
  .of (.templateRef ⟨⟨0, index⟩, true⟩ (.fundamental .int))

/-- A sum. -/
def sumOf (left right : Expr) : Expr := .of (.binary (.arithmetic .add) left right)

/-- The first of three packs has one element and the second has two; the third is not bound. -/
def oneAndTwo : Substitution :=
  ⟨[(⟨0, 0⟩, .pack [.type (.fundamental .int)]),
    (⟨0, 1⟩, .pack [.type (.fundamental .int), .type (.fundamental .int)])]⟩

/-- The sum of three packs, grouped to the left. -/
def leftSum : Expr :=
  sumOf (sumOf (numberedPack 0) (numberedPack 1)) (numberedPack 2)

/-- The sum of three packs, grouped to the right. -/
def rightSum : Expr :=
  sumOf (numberedPack 0) (sumOf (numberedPack 1) (numberedPack 2))

/-- How sums are grouped makes a difference to the size of their packs: the numbers of the first two
packs, which differ, are not compared when the second one is grouped with one that is not bound. -/
theorem grouping_defers_conflict :
    rightSum.measured.shownPacks = leftSum.measured.shownPacks ∧
      leftSum.packSize oneAndTwo = .failed ∧ rightSum.packSize oneAndTwo = .deferred ∧
      rightSum.packSize oneAndTwo ≠
        .combineAll (rightSum.measured.shownPacks.map oneAndTwo.packSize) := by
  decide

end ConstExpr
