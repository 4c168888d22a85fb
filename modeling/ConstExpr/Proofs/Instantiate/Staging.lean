import ConstExpr.Proofs.Instantiate.Composition

/-!
# Instantiation in two stages

A tree that is instantiated with some of its parameters bound, and then with all of them, becomes
what it becomes at once (`instantiate_in_stages`).
-/
namespace ConstExpr

namespace Expr

/-- The tree has at most the given number of levels, and two instantiations of the given depths and
the one at once go down to its leaves. -/
structure Reached (height earlyDepth lateDepth depth : Nat) (expr : Expr) : Prop where
  /-- The number of levels is bounded. -/
  low : expr.height ≤ height
  /-- The first instantiation goes down to the leaves. -/
  early : expr.height ≤ earlyDepth
  /-- The second instantiation goes down to the leaves. -/
  late : expr.height ≤ lateDepth
  /-- The instantiation at once goes down to the leaves. -/
  once : expr.height ≤ depth

variable {height earlyDepth lateDepth depth : Nat} {form : Form Expr}
  {template : Option TemplateId}

/-- The children of a node are reached from one level below. -/
theorem Reached.child
    (reached : (node form template).Reached (height + 1) (earlyDepth + 1) (lateDepth + 1)
      (depth + 1))
    {child : Expr} (member : child ∈ form.children) :
    child.Reached height earlyDepth lateDepth depth :=
  ⟨height_child_le reached.low child member, height_child_le reached.early child member,
    height_child_le reached.late child member, height_child_le reached.once child member⟩

/-- The pattern of an expansion is reached from where the expansion is. -/
theorem Reached.pattern {pattern : Expr}
    (reached : (node (.expansion pattern) template).Reached height earlyDepth lateDepth depth) :
    pattern.Reached height earlyDepth lateDepth depth :=
  ⟨Nat.le_of_succ_le reached.low, Nat.le_of_succ_le reached.early, Nat.le_of_succ_le reached.late,
    Nat.le_of_succ_le reached.once⟩

end Expr

namespace Instantiation

/-- The second of two instantiations keeps the bindings of the first one and binds parameters to
arguments that mention none. -/
structure Precedes (early late : Instantiation) : Prop extends Successive early late where
  /-- The second instantiation keeps the bindings of the first one. -/
  extends_ : late.map.Extends early.map
  /-- The arguments mention no template parameter. -/
  closed : late.map.IsClosed

/-- Trees of up to the given height become the same in two stages as at once, when each of the
instantiations goes down to their leaves. -/
def Staged (early late : Instantiation) (height : Nat) : Prop :=
  ∀ {expr : Expr} {offsets : Offsets} {earlyDepth lateDepth depth : Nat},
    expr.Reached height earlyDepth lateDepth depth → expr.Stageable early.map late.map →
    expr.Aligned offsets early.map late.map →
    Composes early late offsets earlyDepth lateDepth depth expr

section

variable {work : Instantiation} {depth : Nat} {offset : Option Nat}

/-- A search finds the same in what is searched of a tree, when no pack that it shows is
replaced. -/
theorem packSize_instantiate (unspecialized : work.within = none) (closed : work.map.IsClosed)
    {expr : Expr} (low : expr.height ≤ depth) (declares : expr.Every Form.DeclaresSingly)
    (unreplaced : ∀ pack, expr.measured.Shows pack → work.map.argument? pack.id offset = none)
    (other : Substitution) :
    (expr.instantiate work depth offset).packSize other = expr.packSize other := by
  cases expansion : expr.isExpansion with
  | false =>
    rw [Expr.measured_of_plain expansion] at unreplaced
    rw [Expr.packSize_of_plain expansion,
      Expr.packSize_of_plain ((isExpansion_instantiate ..).trans expansion),
      visiblePackSize_instantiate unspecialized closed low declares unreplaced]
  | true =>
    obtain ⟨form, template⟩ := expr
    cases form with
    | expansion pattern =>
      cases depth with
      | zero => exact absurd low (Nat.not_le_of_lt (Expr.height_pos _))
      | succ depth =>
        obtain ⟨template', same⟩ :=
          exists_instantiate_expansion unspecialized depth offset pattern template
        rw [same]
        exact visiblePackSize_instantiate unspecialized closed (Nat.le_of_succ_le_succ low)
          (declares.child (List.mem_singleton_self _)) unreplaced other
    | _ => contradiction

end

variable {early late : Instantiation} {offsets : Offsets} {form : Form Expr}
  {template : Option TemplateId} {height earlyDepth lateDepth depth : Nat}
  (stages : early.Precedes late)

namespace Staged

variable (staged : early.Staged late height)
  (stageable : (Expr.node form template).Stageable early.map late.map)
  (aligned : (Expr.node form template).Aligned offsets early.map late.map)

include stages staged stageable aligned

/-- An expansion that the first stage defers has the elements in the second stage that it has at
once, unless that defers it, too. -/
theorem element_of_deferred {pattern : Expr} {template' : Option TemplateId}
    (member : Expr.node (.expansion pattern) template' ∈ form.elements)
    (reached : (Expr.node (.expansion pattern) template').Reached height earlyDepth lateDepth depth)
    (deferred : pattern.visiblePackSize early.map = .deferred) :
    ComposesElement early late offsets earlyDepth lateDepth depth
      (.node (.expansion pattern) template') := by
  have below := Form.mem_children.mpr (.inr member)
  have part := stageable.child below
  have inPart := List.mem_singleton_self pattern
  cases earlyDepth with
  | zero => exact absurd reached.early (Nat.not_le_of_lt (Expr.height_pos _))
  | succ earlyDepth =>
    have patternLow : pattern.height ≤ earlyDepth := Nat.le_of_succ_le_succ reached.early
    have expansion : (Expr.node (.expansion pattern) template').instantiate early (earlyDepth + 1)
        offsets.early =
          .node (.expansion (pattern.instantiate early earlyDepth offsets.early)) template' :=
      instantiate_expansion stages.earlyUnspecialized (mentionsParameter_of_deferred deferred)
        part.built
    -- The second stage finds the packs in the pattern that were there from the start.
    have same := visiblePackSize_instantiate stages.earlyUnspecialized
      (stages.closed.of_extends stages.extends_) patternLow (part.child inPart).declares
      (aligned.unreplaced stages.extends_ stageable below (.inl rfl) deferred) late.map
    rw [ComposesElement, listed_of_deferred deferred, List.flatMap_singleton]
    cases sized : pattern.visiblePackSize late.map with
    | count size =>
      rw [expansion, listed_of_count (same.trans sized), listed_of_count sized]
      exact List.map_congr_left fun place _ =>
        staged { reached.pattern with early := patternLow } (part.child inPart)
          (aligned.expandedLate stages.extends_ stageable below (.inl rfl) rfl deferred place)
    | deferred =>
      rw [listed_of_deferred sized, ← staged reached part
        (aligned.deferred stages.extends_ stageable below (.inl rfl) deferred sized), expansion,
        listed_of_deferred (same.trans sized)]
    | failed =>
      rw [expansion, listed_of_unsized (.inl (same.trans sized)), listed_of_unsized (.inl sized)]
    | absent =>
      rw [expansion, listed_of_unsized (.inr (same.trans sized)), listed_of_unsized (.inr sized)]

/-- What takes the place of an element of a list in two stages is what does at once. -/
theorem element {element : Expr} (member : element ∈ form.elements)
    (reached : element.Reached height earlyDepth lateDepth depth) :
    ComposesElement early late offsets earlyDepth lateDepth depth element := by
  have below := Form.mem_children.mpr (.inr member)
  cases expansion : element.isExpansion with
  | false =>
    exact composesElement_of_plain expansion
      (staged reached (stageable.child below) (aligned.element member expansion))
  | true =>
    obtain ⟨own, template'⟩ := element
    cases own with
    | expansion pattern =>
      have extended (settled : pattern.visiblePackSize early.map ≠ .deferred) :=
        Expr.visiblePackSize_extends stages.extends_ settled
      cases sized : pattern.visiblePackSize early.map with
      | count size =>
        refine composesElement_of_count sized
          ((extended (by rw [sized]; nofun)).trans sized) fun place within => ?_
        exact staged reached.pattern ((stageable.child below).child (List.mem_singleton_self _))
          (aligned.expanded stageable below rfl sized within)
      | deferred => exact staged.element_of_deferred stages stageable aligned member reached sized
      | failed =>
        exact composesElement_of_unsized stages.toSuccessive (.inl sized)
          (.inl ((extended (by rw [sized]; nofun)).trans sized))
      | absent =>
        exact composesElement_of_unsized stages.toSuccessive (.inr sized)
          (.inr ((extended (by rw [sized]; nofun)).trans sized))
    | _ => contradiction

variable (reached : (Expr.node form template).Reached (height + 1) (earlyDepth + 1) (lateDepth + 1)
  (depth + 1))

include reached

/-- The parts of a form become the same in two stages as at once. -/
theorem parts : ComposesParts early late offsets earlyDepth lateDepth depth form where
  types named type carried := Ty.instantiate_staged stages.extends_ stages.closed
    (aligned.agree stages.extends_ stageable carried fun orderly =>
      orderly.plain named type carried)
  arguments set same := by
    subst same
    exact OverloadSet.expanded_staged stages.extends_ stages.closed
      (aligned.agrees stages.extends_ stageable rfl) stageable.fits_arguments
  operands child member unmeasured := by
    have below := Form.mem_children.mpr (.inl member)
    exact staged (reached.child below) (stageable.child below) (aligned.operand member unmeasured)
  elements _ member := staged.element stages stageable aligned member
    (reached.child (Form.mem_children.mpr (.inr member)))

omit staged in
/-- The expansions that the first stage leaves in a list mention parameters. -/
theorem spread : ∀ result ∈ (form.instantiated early earlyDepth offsets.early).elements,
    result.isExpansion = true → result.mentionsParameter = true := by
  refine spread_of_deferred fun element member expansion deferred => ?_
  have below := Form.mem_children.mpr (.inr member)
  exact (packSize_instantiate stages.earlyUnspecialized (stages.closed.of_extends stages.extends_)
    (reached.child below).early (stageable.child below).declares
    (aligned.unreplaced stages.extends_ stageable below (.inl expansion) deferred)
    early.map).trans deferred

/-- A node of which nothing is selected, in neither stage nor at once, becomes the same. -/
theorem ordinary (mentions : (Expr.node form template).mentionsParameter = true)
    (earlyStable : form.IsStable early offsets.early)
    (lateStable : (form.instantiated early earlyDepth offsets.early).IsStable late offsets.late)
    (stable : form.IsStable late offsets.once)
    (uncalled : ∀ callee arguments, form ≠ .call callee arguments)
    (unmeasured : ∀ operand, form ≠ .unary .sizeofPack operand) :
    Composes early late offsets (earlyDepth + 1) (lateDepth + 1) (depth + 1)
      (.node form template) :=
  composes_ordinary stages.toSuccessive stageable.built mentions
    (staged.parts stages stageable aligned reached) earlyStable lateStable stable uncalled
    unmeasured (spread stages stageable aligned reached)

end Staged

section Selected

include stages

/-- A mention of a non-type parameter becomes the same in two stages as at once. -/
theorem templateRef_staged {parameter : TemplateParameter} {type : Ty}
    (stageable : (Expr.node (.templateRef parameter type) template).Stageable early.map late.map)
    (aligned : (Expr.node (.templateRef parameter type) template).Aligned offsets early.map
      late.map) :
    Composes early late offsets (earlyDepth + 1) (lateDepth + 1) (depth + 1)
      (.node (.templateRef parameter type) template) := by
  have carried := List.mem_cons_of_mem (Ty.parameter parameter) (List.mem_singleton_self type)
  have agree := aligned.agree stages.extends_ stageable List.mem_cons_self (fun _ => rfl) parameter
    (List.mem_singleton_self _)
  exact composes_templateRef stages.toSuccessive (stages.closed.of_extends stages.extends_) agree
    (Ty.instantiate_staged stages.extends_ stages.closed
      (aligned.agree stages.extends_ stageable carried fun orderly =>
        orderly.plain nofun type carried))

/-- A mention of a function parameter becomes the same in two stages as at once. -/
theorem parameterRef_staged {position : Nat} {type : Ty} {isPack : Bool}
    (stageable : (Expr.node (.parameterRef position type isPack) template).Stageable early.map
      late.map)
    (aligned : (Expr.node (.parameterRef position type isPack) template).Aligned offsets early.map
      late.map) :
    Composes early late offsets (earlyDepth + 1) (lateDepth + 1) (depth + 1)
      (.node (.parameterRef position type isPack) template) := by
  have carried := List.mem_singleton_self type
  have plain (orderly : (Form.parameterRef position type isPack).IsOrderly early.map late.map) :=
    orderly.plain nofun type carried
  have shown : ∀ pack ∈ type.packs, offsets.Suit early.map late.map pack.id := fun pack shown =>
    aligned.suit stages.extends_ stageable carried plain pack (Ty.mem_parameters shown)
  have fits : ∀ pack ∈ type.packs, ∀ bound, late.map.binding? pack.id = some bound →
      bound.Fits pack := fun pack shown => stageable.fits.root pack
    (List.mem_flatMap.mpr ⟨type, carried, Ty.mem_parameters shown⟩)
  refine composes_parameterRef stages.toSuccessive
    (Ty.instantiate_staged stages.extends_ stages.closed
      (aligned.agree stages.extends_ stageable carried plain))
    (fun _ => element?_of_some stages.extends_ shown) fun left => ?_
  rw [← element?_of_none stages.extends_ shown fits left]
  cases isPack with
  | false => rw [element?_of_ordinary, element?_of_ordinary]
  | true =>
    have sized := Ty.packSize_instantiate (stages.closed.of_extends stages.extends_)
      (unreplaced_of_element? stages.extends_ fits left) late.map
    simp only [element?, sized]

/-- The size of packs becomes the same in two stages as at once. -/
theorem Staged.sizeofPack (staged : early.Staged late height) {operand : Expr}
    (stageable : (Expr.node (.unary .sizeofPack operand) template).Stageable early.map late.map)
    (aligned : (Expr.node (.unary .sizeofPack operand) template).Aligned offsets early.map late.map)
    (mentions : (Expr.node (.unary .sizeofPack operand) template).mentionsParameter = true)
    (reached : operand.Reached height earlyDepth lateDepth depth) :
    Composes early late offsets (earlyDepth + 1) (lateDepth + 1) (depth + 1)
      (.node (.unary .sizeofPack operand) template) := by
  have member := List.mem_singleton_self operand
  have part := stageable.child member
  refine composes_sizeofPack stages.toSuccessive stageable.built mentions (fun settled => ?_)
    (fun sized => ?_) fun sized sizedLate => ?_
  · rw [Expr.packSize_eq] at settled ⊢
    rw [Expr.packSize_eq, Expr.visiblePackSize_extends stages.extends_ settled]
  · -- The second stage finds the packs in the operand that were there from the start.
    have same (other : Substitution) := packSize_instantiate stages.earlyUnspecialized
      (stages.closed.of_extends stages.extends_) reached.early part.declares
      (aligned.unreplaced stages.extends_ stageable member (.inr rfl) sized) other
    exact ⟨(same early.map).trans sized, same late.map⟩
  · exact staged reached part
      (aligned.deferred stages.extends_ stageable member (.inr rfl) sized sizedLate)

/-- A call becomes the same in two stages as at once. -/
theorem Staged.call (staged : early.Staged late height) {callee : Expr} {arguments : List Expr}
    (stageable : (Expr.node (.call callee arguments) template).Stageable early.map late.map)
    (aligned : (Expr.node (.call callee arguments) template).Aligned offsets early.map late.map)
    (reached : (Expr.node (.call callee arguments) template).Reached (height + 1) (earlyDepth + 1)
      (lateDepth + 1) (depth + 1)) :
    Composes early late offsets (earlyDepth + 1) (lateDepth + 1) (depth + 1)
      (.node (.call callee arguments) template) :=
  composes_call stages.toSuccessive stageable.built
    (staged.parts stages stageable aligned reached)
    (spread stages stageable aligned reached)
    (kept_staged stages.earlyUnspecialized stages.lateUnspecialized stages.extends_ stages.closed
      reached.early reached.late reached.once stageable aligned)

/-- Trees of every height become the same in two stages as at once. -/
theorem staged (height : Nat) : early.Staged late height := by
  induction height with
  | zero =>
    exact fun {expr _ _ _ _} reached => absurd reached.low (Nat.not_le_of_lt expr.height_pos)
  | succ height ih =>
    intro expr offsets earlyDepth lateDepth depth reached stageable aligned
    cases mentions : expr.mentionsParameter with
    | false =>
      rw [Composes, instantiate_of_silent stages.earlyUnspecialized mentions,
        instantiate_of_silent stages.lateUnspecialized mentions,
        instantiate_of_silent stages.lateUnspecialized mentions]
    | true =>
      have deep {depth : Nat} (low : expr.height ≤ depth) : ∃ below, depth = below + 1 :=
        Nat.exists_eq_add_one.mpr (Nat.lt_of_lt_of_le expr.height_pos low)
      obtain ⟨earlyDepth, rfl⟩ := deep reached.early
      obtain ⟨lateDepth, rfl⟩ := deep reached.late
      obtain ⟨depth, rfl⟩ := deep reached.once
      obtain ⟨form, template⟩ := expr
      cases form with
      | templateRef => exact templateRef_staged stages stageable aligned
      | parameterRef => exact parameterRef_staged stages stageable aligned
      | call => exact ih.call stages stageable aligned reached
      | unary operator operand =>
        cases operator with
        | sizeofPack =>
          exact ih.sizeofPack stages stageable aligned mentions
            (reached.child (List.mem_singleton_self operand))
        | _ =>
          exact ih.ordinary stages stageable aligned reached mentions trivial trivial trivial
            (by rintro _ _ ⟨⟩) (by rintro _ ⟨⟩)
      | _ =>
        exact ih.ordinary stages stageable aligned reached mentions trivial trivial trivial
          (by rintro _ _ ⟨⟩) (by rintro _ ⟨⟩)

end Selected

end Instantiation

/-- A tree that is instantiated with some parameters bound, and then with more of them, becomes what
it becomes at once, as long as the packs in what the first stage expands are orderly: an expansion
or a pack size inside of it shows packs that both substitutions bind together. -/
theorem instantiate_in_stages (expr : Expr) (first second : Substitution) (scope : Scope)
    (earlyDepth lateDepth depth : Nat) (extends_ : second.Extends first) (closed : second.IsClosed)
    (bindable : expr.Bindable second) (orderly : expr.Every (Form.ExpandsOrderly first second))
    (earlyLow : expr.height ≤ earlyDepth) (lateLow : expr.height ≤ lateDepth)
    (low : expr.height ≤ depth) :
    (expr.instantiate ⟨first, none, scope⟩ earlyDepth none).instantiate ⟨second, none, scope⟩
        lateDepth none =
      expr.instantiate ⟨second, none, scope⟩ depth none := by
  have stages : Instantiation.Precedes ⟨first, none, scope⟩ ⟨second, none, scope⟩ :=
    ⟨⟨rfl, rfl, rfl⟩, extends_, closed⟩
  have aligned : expr.Aligned ⟨none, none, none⟩ first second := .inl ⟨rfl, rfl⟩
  exact Instantiation.staged stages expr.height ⟨Nat.le_refl _, earlyLow, lateLow, low⟩
    ⟨bindable, orderly⟩ aligned

/-- The mention of one of two template parameter packs of values. -/
def packValue (index : Nat) : Expr := .of (.templateRef ⟨⟨0, index⟩, true⟩ (.fundamental .int))

/-- The sums of the elements of two packs that are expanded together, `(Ns + Ms)...`. -/
def packSums : Expr :=
  .of (.expansion (.of (.binary (.arithmetic .add) (packValue 0) (packValue 1))))

/-- The values 1 and 2 for the first pack. -/
def firstPack : Substitution :=
  ⟨[(⟨0, 0⟩, .pack [.nonType (.integral 1) (.fundamental .int),
    .nonType (.integral 2) (.fundamental .int)])]⟩

/-- The values 1 and 2 for the first pack, and 10 and 20 for the second one. -/
def bothPacks : Substitution :=
  ⟨firstPack.entries ++ [(⟨0, 1⟩, .pack [.nonType (.integral 10) (.fundamental .int),
    .nonType (.integral 20) (.fundamental .int)])]⟩

/-- The substitutions bind the packs to packs of values, one after the other. -/
theorem bothPacks_extends : bothPacks.Extends firstPack ∧ bothPacks.IsClosed :=
  ⟨Substitution.extends_of_entries (by decide), Substitution.forall_arguments (by decide)⟩

/-- The substitution fits the mention of a pack that it binds to a pack. -/
theorem packValue_bindable {index : Nat} (spreads : bothPacks.Expands ⟨0, index⟩) :
    (packValue index).Bindable bothPacks := by
  obtain ⟨arguments, same⟩ := spreads
  refine .of (List.forall_mem_singleton.mpr fun bound found => ?_) nofun (List.forall_mem_nil _)
  obtain rfl := Option.some.inj (same.symm.trans found)
  rfl

/-- The substitution of both packs fits the sums. -/
theorem packSums_bindable : packSums.Bindable bothPacks := by
  have values : ∀ child ∈ [packValue 0, packValue 1], child.Bindable bothPacks :=
    List.forall_mem_cons.mpr ⟨packValue_bindable ⟨_, rfl⟩,
      List.forall_mem_singleton.mpr (packValue_bindable ⟨_, rfl⟩)⟩
  exact .of (List.forall_mem_nil _) trivial (List.forall_mem_singleton.mpr
    (.of (List.forall_mem_nil _) trivial values))

/-- The elements of the first pack and then the sums, `Ns..., (Ns + Ms)...`. -/
def valuesAndSums : Expr := .of (.comma [.of (.expansion (packValue 0)), packSums])

/-- Sums that the first stage defers are those of the elements in the second stage. -/
theorem instantiate_in_stages_of_sums :
    packSums.packSize firstPack = .deferred ∧
      (valuesAndSums.instantiate ⟨firstPack, none, Table.empty.scope⟩ 4 none).instantiate
          ⟨bothPacks, none, Table.empty.scope⟩ 4 none =
        valuesAndSums.instantiate ⟨bothPacks, none, Table.empty.scope⟩ 4 none := by
  have spread : (Expr.of (.expansion (packValue 0))).Bindable bothPacks :=
    .of (List.forall_mem_nil _) trivial
      (List.forall_mem_singleton.mpr (packValue_bindable ⟨_, rfl⟩))
  have bindable : valuesAndSums.Bindable bothPacks :=
    .of (List.forall_mem_nil _) trivial (List.forall_mem_cons.mpr
      ⟨spread, List.forall_mem_singleton.mpr packSums_bindable⟩)
  have values : (packValue 0).Every (Form.IsOrderly firstPack bothPacks) :=
    Expr.every_node.mpr ⟨⟨List.forall_mem_nil _, List.forall_mem_cons.mpr
      ⟨rfl, List.forall_mem_singleton.mpr rfl⟩⟩, List.forall_mem_nil _⟩
  have orderly : valuesAndSums.Every (Form.ExpandsOrderly firstPack bothPacks) := by
    simp only [valuesAndSums, packSums, Expr.of, Expr.build, Expr.every_node, Form.children,
      List.forall_mem_cons, List.not_mem_nil, false_implies, implies_true, and_true]
    have within (index : Nat) : (packValue index).Every (Form.ExpandsOrderly firstPack bothPacks) :=
      Expr.every_node.mpr ⟨trivial, List.forall_mem_nil _⟩
    have deferred : packSums.packSize firstPack = .deferred := rfl
    refine ⟨trivial, ⟨fun _ => values, within 0⟩, fun expands => ?_, trivial, within 0, within 1⟩
    obtain ⟨size, sized⟩ := expands
    cases deferred.symm.trans sized
  exact ⟨rfl, instantiate_in_stages valuesAndSums firstPack bothPacks Table.empty.scope 4 4 4
    bothPacks_extends.1 bothPacks_extends.2 bindable orderly (by decide) (by decide) (by decide)⟩

/-- Each element of the first pack with the sums of the elements of both packs,
`(Ns, (Ns + Ms)...)...`. -/
def valuesWithSums : Expr := .of (.comma [.of (.expansion (.of (.comma [packValue 0, packSums])))])

/-- In an expansion that the first stage expands, another one that mixes in packs that are not bound
yet is not left to the second stage as it is. It is deferred, but the element of the outer expansion
is selected in it: each `Ns` in the sums has become the value of the outer element. -/
theorem inner_expansion_keeps_outer_element :
    bothPacks.Extends firstPack ∧ bothPacks.IsClosed ∧ valuesWithSums.Bindable bothPacks ∧
      valuesWithSums.height ≤ 16 ∧
      (valuesWithSums.instantiate ⟨firstPack, none, Table.empty.scope⟩ 16 none).instantiate
          ⟨bothPacks, none, Table.empty.scope⟩ 16 none ≠
        valuesWithSums.instantiate ⟨bothPacks, none, Table.empty.scope⟩ 16 none := by
  have bindable : valuesWithSums.Bindable bothPacks := by
    refine .of (List.forall_mem_nil _) trivial (List.forall_mem_singleton.mpr ?_)
    refine .of (List.forall_mem_nil _) trivial (List.forall_mem_singleton.mpr ?_)
    exact .of (List.forall_mem_nil _) trivial
      (List.forall_mem_cons.mpr ⟨packValue_bindable ⟨_, rfl⟩,
        List.forall_mem_singleton.mpr packSums_bindable⟩)
  refine ⟨bothPacks_extends.1, bothPacks_extends.2, bindable, by decide, fun same => ?_⟩
  -- The trees are told apart by the comparison of trees.
  have told := congrArg
    (· == valuesWithSums.instantiate ⟨bothPacks, none, Table.empty.scope⟩ 16 none) same
  have apart : false = true := told
  contradiction

end ConstExpr
