import ConstExpr.Proofs.Instantiate.Composition
import ConstExpr.Proofs.Instantiate.Cutoff

/-!
# Instantiations that are resumed

An instantiation that runs out of depth leaves parts of the tree as they are. A second one with the
same substitution, deep enough for the whole tree, completes it to what it becomes at once
(`instantiate_resumed`), unless a part was left in an expansion that was expanded: the part has lost
the offset of its element.
-/
namespace ConstExpr

/-- The tree is put together node by node, the parameters that it mentions are bound in the way they
are mentioned, and bound non-type parameters declare types without packs that are not bound. -/
structure Expr.Resumable (map : Substitution) (expr : Expr) : Prop where
  /-- The tree is put together node by node. -/
  built : expr.Built
  /-- Packs are bound to packs. -/
  fits : expr.Every (Form.FitsBindings map)
  /-- The types of bound non-type parameters mention no pack that is not bound. -/
  declares : expr.Every (Form.DeclaresBound map)

/-- The children of a tree that can be resumed can be, too. -/
theorem Expr.Resumable.child {map : Substitution} {form : Form Expr} {template : Option TemplateId}
    {part : Expr} (resumable : (node form template).Resumable map) (member : part ∈ form.children) :
    part.Resumable map :=
  ⟨(built_node.mp resumable.built).1 part member, resumable.fits.child member,
    resumable.declares.child member⟩

/-- The offsets of an instantiation at an offset and of a second one without. -/
def Offsets.resumed (offset : Option Nat) : Offsets := ⟨offset, none, offset⟩

/-- A parameter that is not replaced at an offset is not replaced without one. -/
theorem Substitution.argument?_none {map : Substitution} {parameter : ParameterId}
    {offset : Option Nat} (left : map.argument? parameter offset = none) :
    map.argument? parameter none = none := by
  unfold argument? at left ⊢
  split <;> simp_all

/-- Every parameter becomes the same in an instantiation that is resumed. -/
theorem Offsets.resumed_agree (map : Substitution) (offset : Option Nat)
    (parameter : ParameterId) : (Offsets.resumed offset).Agree map map parameter :=
  ⟨fun _ => id, fun left => (Substitution.argument?_none left).trans left.symm⟩

namespace Instantiation

variable {work : Instantiation} {depth cut : Nat} {offset : Option Nat} {form : Form Expr}
  {template : Option TemplateId}

/-- Without an offset no element is selected. -/
theorem element?_none {type : Ty} {isPack : Bool} : work.element? none type isPack = none :=
  element?_of_selectsNone 0 fun _ _ => rfl

section Parts

variable (closed : work.map.IsClosed) (resumable : (Expr.node form template).Resumable work.map)

include closed

/-- A type becomes the same when it is instantiated again. -/
theorem type_resumed (type : Ty) :
    (type.instantiate work.map offset).instantiate work.map none =
      type.instantiate work.map offset :=
  Ty.instantiate_staged (fun _ _ => id) closed fun parameter _ =>
    Offsets.resumed_agree work.map offset parameter.id

/-- An overload set becomes the same when it is instantiated again. -/
theorem overloads_resumed {set : OverloadSet} (fits : form.FitsBindings work.map)
    (overloads : form = .overloads set) :
    (set.expanded work.map offset).expanded work.map none = set.expanded work.map offset := by
  subst overloads
  have agrees : ∀ argument ∈ set.arguments, argument.Agrees (.resumed offset) work.map work.map :=
    fun _ _ _ _ => .inl (Offsets.resumed_agree _ _ _)
  exact OverloadSet.expanded_staged (fun _ _ => id) closed agrees fun argument member parameter
    mentioned => fits parameter (List.mem_flatMap.mpr ⟨_, List.mem_map_of_mem member, mentioned⟩)

include resumable

/-- What a form keeps by itself at an offset it keeps without one. -/
theorem keeps_none (keeps : form.Keeps work offset) : form.Keeps work none := by
  refine ⟨?_, ?_, keeps.deferred⟩
  · have stable := keeps.stable
    cases form with
    | templateRef => exact Substitution.argument?_none stable
    | parameterRef => exact element?_none
    | unary operator operand => cases operator <;> exact stable
    | _ => trivial
  · have types := keeps.types
    have kept (type : Ty) (same : type.instantiate work.map offset = type) :
        type.instantiate work.map none = type := by
      have again : (type.instantiate work.map offset).instantiate work.map none =
          type.instantiate work.map offset := type_resumed closed type
      rwa [same] at again
    cases form with
    | templateRef parameter type => exact kept type types
    | overloads set =>
      have again : (set.expanded work.map offset).expanded work.map none =
          set.expanded work.map offset := overloads_resumed closed resumable.fits.root rfl
      rwa [show set.expanded work.map offset = set from types] at again
    | _ => exact fun type carried => kept type (types type carried)

omit closed resumable in
/-- An instantiation goes on to the children of a form that it keeps at the same offset. -/
theorem visits_of_keeps (keeps : form.Keeps work offset) :
    ∀ child ∈ form.children, form.Visits work.map offset offset child := by
  intro child member
  rcases Form.mem_children.mp member with operand | element
  · refine .operand operand fun measured => ?_
    have stable := keeps.stable
    rw [measured] at stable
    exact stable
  · exact .element element (keeps.deferred child element)

end Parts

variable (unspecialized : work.within = none) (closed : work.map.IsClosed)

include unspecialized closed

/-- A tree is kept at once exactly when an instantiation of less depth and then one without an
offset keep it. -/
theorem kept_resumed {expr : Expr} (low : expr.height ≤ depth) (resumable : expr.Resumable work.map)
    (clean : expr.LeavesNoneSelected work.map cut offset) :
    work.substitute depth offset expr = none ↔
      work.substitute cut offset expr = none ∧ work.substitute depth none expr = none := by
  induction cut generalizing expr depth with
  | zero =>
    rw [substitute_of_selectsNone (clean _ _ (.whole _ _))]
    exact (and_iff_right rfl).symm
  | succ cut ih =>
    obtain ⟨form, template⟩ := expr
    cases depth with
    | zero => exact absurd low (Nat.not_le_of_lt (Expr.height_pos _))
    | succ depth =>
    cases mentions : (Expr.node form template).mentionsParameter with
    | false =>
      have spared : work.spares (.node form template) = true := by
        rw [spares_eq unspecialized, mentions]
        rfl
      simp only [substitute_of_spares spared, and_self]
    | true =>
      have below (keeps : form.Keeps work offset) (child : Expr) (member : child ∈ form.children) :=
        ih (Expr.height_child_le low child member) (resumable.child member)
          (clean.child (visits_of_keeps keeps child member))
      rw [substitute_eq_none_iff unspecialized mentions,
        substitute_eq_none_iff unspecialized mentions,
        substitute_eq_none_iff unspecialized mentions]
      constructor
      · rintro ⟨keeps, kept⟩
        have both := fun child member => (below keeps child member).mp (kept child member)
        exact ⟨⟨keeps, fun child member => (both child member).1⟩,
          keeps_none closed resumable keeps, fun child member => (both child member).2⟩
      · rintro ⟨⟨keeps, first⟩, -, second⟩
        exact ⟨keeps, fun child member =>
          (below keeps child member).mpr ⟨first child member, second child member⟩⟩

omit unspecialized closed in
/-- Instantiations of the given depth are completed by a second one without an offset. -/
def Resumes (work : Instantiation) (cut : Nat) : Prop :=
  ∀ {depth : Nat} {offset : Option Nat} {expr : Expr}, expr.height ≤ depth →
    expr.Resumable work.map → expr.LeavesNoneSelected work.map cut offset →
      Composes work work (.resumed offset) cut depth depth expr

section Nodes

variable (resumes : work.Resumes cut) (resumable : (Expr.node form template).Resumable work.map)
  (low : (Expr.node form template).height ≤ depth + 1)
  (clean : (Expr.node form template).LeavesNoneSelected work.map (cut + 1) offset)

include resumes resumable low clean

/-- What takes the place of an element of a list is completed by a second instantiation. -/
theorem Resumes.element {element : Expr} (member : element ∈ form.elements) :
    ComposesElement work work (.resumed offset) cut depth depth element := by
  have successive : Successive work work := ⟨unspecialized, unspecialized, rfl⟩
  have below := Form.mem_children.mpr (.inr member)
  have part := resumable.child below
  have lower := Expr.height_child_le low element below
  cases expansion : element.isExpansion with
  | false =>
    have visits : form.Visits work.map offset offset element :=
      .element member fun given => by rw [expansion] at given; contradiction
    exact composesElement_of_plain expansion (resumes lower part (clean.child visits))
  | true =>
    obtain ⟨own, template'⟩ := element
    cases own with
    | expansion pattern =>
      cases sized : pattern.visiblePackSize work.map with
      | count size =>
        refine composesElement_of_count sized sized fun place within => ?_
        exact resumes (Nat.le_of_succ_le lower) (part.child (List.mem_singleton_self pattern))
          (clean.child (.expanded member sized within))
      | deferred =>
        have visits : form.Visits work.map offset offset (.node (.expansion pattern) template') :=
          .element member fun _ => sized
        have composes := resumes lower part (clean.child visits)
        have still := packSize_deferred_of_clean unspecialized closed part.declares
          (clean.child visits) sized
        rw [ComposesElement, listed_of_deferred sized, listed_of_deferred sized,
          List.flatMap_singleton, ← composes]
        exact listed_of_deferring fun _ => still
      | failed => exact composesElement_of_unsized successive (.inl sized) (.inl sized)
      | absent => exact composesElement_of_unsized successive (.inr sized) (.inr sized)
    | _ => contradiction

/-- The parts of a form are completed by a second instantiation. -/
theorem Resumes.parts : ComposesParts work work (.resumed offset) cut depth depth form where
  types _ type _ := type_resumed closed type
  arguments _ overloads := overloads_resumed closed resumable.fits.root overloads
  operands child member unmeasured := by
    have below := Form.mem_children.mpr (.inl member)
    exact resumes (Expr.height_child_le low child below) (resumable.child below)
      (clean.child (.operand member fun measured => absurd measured unmeasured))
  elements _ member := resumes.element unspecialized closed resumable low clean member

omit resumes low in
/-- The expansions that the first instantiation leaves in a list mention parameters. -/
theorem spread_resumed : ∀ result ∈ (form.instantiated work cut offset).elements,
    result.isExpansion = true → result.mentionsParameter = true :=
  spread_of_deferred fun _ member _ deferred =>
    packSize_deferred_of_clean unspecialized closed
      (resumable.child (Form.mem_children.mpr (.inr member))).declares
      (clean.child (.element member fun _ => deferred)) deferred

/-- A node of which nothing is selected is completed by a second instantiation. -/
theorem Resumes.ordinary (mentions : (Expr.node form template).mentionsParameter = true)
    (stable : ∀ offset, form.IsStable work offset)
    (stableAgain : (form.instantiated work cut offset).IsStable work none)
    (uncalled : ∀ callee arguments, form ≠ .call callee arguments)
    (unmeasured : ∀ operand, form ≠ .unary .sizeofPack operand) :
    Composes work work (.resumed offset) (cut + 1) (depth + 1) (depth + 1) (.node form template) :=
  composes_ordinary ⟨unspecialized, unspecialized, rfl⟩ resumable.built mentions
    (resumes.parts unspecialized closed resumable low clean) (stable _) stableAgain (stable _)
    uncalled unmeasured (spread_resumed unspecialized closed resumable clean)

end Nodes

/-- The size of packs is completed by a second instantiation. -/
theorem Resumes.sizeofPack (resumes : work.Resumes cut) {operand : Expr}
    (resumable : (Expr.node (.unary .sizeofPack operand) template).Resumable work.map)
    (low : (Expr.node (.unary .sizeofPack operand) template).height ≤ depth + 1)
    (clean : (Expr.node (.unary .sizeofPack operand) template).LeavesNoneSelected work.map
      (cut + 1) offset)
    (mentions : (Expr.node (.unary .sizeofPack operand) template).mentionsParameter = true) :
    Composes work work (.resumed offset) (cut + 1) (depth + 1) (depth + 1)
      (.node (.unary .sizeofPack operand) template) := by
  have member := List.mem_singleton_self operand
  have part := resumable.child member
  have below (deferred : operand.packSize work.map = .deferred) :=
    clean.child (.operand member fun _ => deferred)
  refine composes_sizeofPack ⟨unspecialized, unspecialized, rfl⟩ resumable.built mentions
    (fun _ => rfl) (fun sized => ?_) fun sized _ => ?_
  · have still := packSize_deferred_of_clean unspecialized closed part.declares (below sized) sized
    exact ⟨still, still.trans sized.symm⟩
  · exact resumes (Expr.height_child_le low operand member) part (below sized)

/-- Instantiations of every depth are completed by a second one. -/
theorem resumes (cut : Nat) : work.Resumes cut := by
  induction cut with
  | zero =>
    intro depth offset expr _ _ clean
    have same : work.substitute depth offset expr = work.substitute depth none expr :=
      substitute_of_selectsNone (clean _ _ (.whole _ _))
    rw [Composes, Expr.instantiate, Expr.instantiate, Expr.instantiate]
    exact congrArg (Option.getD · expr) same.symm
  | succ cut ih =>
    intro depth offset expr low resumable clean
    cases mentions : expr.mentionsParameter with
    | false =>
      rw [Composes, instantiate_of_silent unspecialized mentions,
        instantiate_of_silent unspecialized mentions, instantiate_of_silent unspecialized mentions]
    | true =>
      obtain ⟨depth, rfl⟩ : ∃ below, depth = below + 1 :=
        Nat.exists_eq_add_one.mpr (Nat.lt_of_lt_of_le expr.height_pos low)
      have successive : Successive work work := ⟨unspecialized, unspecialized, rfl⟩
      obtain ⟨form, template⟩ := expr
      cases form with
      | templateRef parameter type =>
        exact composes_templateRef successive closed (Offsets.resumed_agree _ _ _)
          (type_resumed closed type)
      | parameterRef position type isPack =>
        refine composes_parameterRef successive (type_resumed closed type) (fun _ => id)
          fun left => ?_
        rw [show (Offsets.resumed offset).late = none from rfl, element?_none]
        exact left.symm
      | call callee arguments =>
        exact composes_call successive resumable.built
          (ih.parts unspecialized closed resumable low clean)
          (spread_resumed unspecialized closed resumable clean)
          (kept_resumed unspecialized closed low resumable clean)
      | unary operator operand =>
        cases operator with
        | sizeofPack => exact ih.sizeofPack unspecialized closed resumable low clean mentions
        | _ =>
          exact ih.ordinary unspecialized closed resumable low clean mentions (fun _ => trivial)
            trivial (by rintro _ _ ⟨⟩) (by rintro _ ⟨⟩)
      | _ =>
        exact ih.ordinary unspecialized closed resumable low clean mentions (fun _ => trivial)
          trivial (by rintro _ _ ⟨⟩) (by rintro _ ⟨⟩)

end Instantiation

/-- An instantiation that ran out of depth is completed by a second one with the same substitution,
which goes down to the leaves, if in the parts that were left the offset in force selects no argument
of a pack. -/
theorem instantiate_resumed (expr : Expr) (map : Substitution) (scope : Scope) (cut depth : Nat)
    (closed : map.IsClosed) (resumable : expr.Resumable map)
    (clean : expr.LeavesNoneSelected map cut none) (low : expr.height ≤ depth) :
    (expr.instantiate ⟨map, none, scope⟩ cut none).instantiate ⟨map, none, scope⟩ depth none =
      expr.instantiate ⟨map, none, scope⟩ depth none := by
  have resumes : Instantiation.Resumes ⟨map, none, scope⟩ cut :=
    Instantiation.resumes rfl closed cut
  exact resumes low resumable clean

/-- The mention of a template parameter pack of values. -/
def packMention : Expr := .of (.templateRef ⟨⟨0, 0⟩, true⟩ (.fundamental .int))

/-- Two values for the pack. -/
def packOfTwo : Substitution :=
  ⟨[(⟨0, 0⟩, .pack [.nonType (.integral 1) (.fundamental .int),
    .nonType (.integral 2) (.fundamental .int)])]⟩

/-- The arguments of the pack mention no parameter. -/
theorem packOfTwo_closed : packOfTwo.IsClosed := Substitution.forall_arguments (by decide)

/-- A node that mentions no parameter by itself can be resumed when its children can be. -/
theorem Expr.Resumable.of {map : Substitution} {form : Form Expr}
    (fits : form.FitsBindings map) (declares : form.DeclaresBound map)
    (children : ∀ child ∈ form.children, child.Resumable map) : (Expr.of form).Resumable map :=
  ⟨.build fun child member => (children child member).built,
    every_node.mpr ⟨fits, fun child member => (children child member).fits⟩,
    every_node.mpr ⟨declares, fun child member => (children child member).declares⟩⟩

/-- The mention of the pack can be resumed. -/
theorem packMention_resumable : packMention.Resumable packOfTwo := by
  refine .of (List.forall_mem_singleton.mpr fun bound found => ?_) nofun (List.forall_mem_nil _)
  obtain rfl := Option.some.inj found
  rfl

/-- The elements of the pack, and then their number with the sign changed twice,
`Ns..., -(-sizeof...(Ns))`. -/
def elementsAndSize : Expr :=
  .of (.comma [.of (.expansion packMention),
    .of (.unary .minus (.of (.unary .minus (.of (.unary .sizeofPack packMention)))))])

/-- The first instantiation selects the elements and leaves what is negated, and the second one
completes it. -/
theorem instantiate_resumed_of_elements :
    elementsAndSize.Resumable packOfTwo ∧ elementsAndSize.LeavesNoneSelected packOfTwo 2 none ∧
      elementsAndSize.height ≤ 5 ∧
      (elementsAndSize.instantiate ⟨packOfTwo, none, Table.empty.scope⟩ 2 none).instantiate
          ⟨packOfTwo, none, Table.empty.scope⟩ 5 none =
        elementsAndSize.instantiate ⟨packOfTwo, none, Table.empty.scope⟩ 5 none := by
  have resumable : elementsAndSize.Resumable packOfTwo := by
    have mention : ∀ child ∈ [packMention], child.Resumable packOfTwo :=
      List.forall_mem_singleton.mpr packMention_resumable
    have negated : ∀ child ∈ [Expr.of (.unary .sizeofPack packMention)],
        child.Resumable packOfTwo :=
      List.forall_mem_singleton.mpr (.of (List.forall_mem_nil _) trivial mention)
    exact .of (List.forall_mem_nil _) trivial (List.forall_mem_cons.mpr
      ⟨.of (List.forall_mem_nil _) trivial mention, List.forall_mem_singleton.mpr
        (.of (List.forall_mem_nil _) trivial (List.forall_mem_singleton.mpr
          (.of (List.forall_mem_nil _) trivial negated)))⟩)
  have clean : elementsAndSize.LeavesNoneSelected packOfTwo 2 none := by
    refine Expr.leavesNoneSelected_node fun offset' child visits => ?_
    cases visits with
    | operand member => contradiction
    | element member deferred =>
      rcases List.mem_cons.mp member with rfl | member
      · cases deferred rfl
      · obtain rfl := List.mem_singleton.mp member
        refine Expr.leavesNoneSelected_node fun offset' child visits => ?_
        cases visits with
        | operand =>
          -- What is left is outside of the expansion.
          rintro last part ⟨⟩
          exact child.selectsNone_none
        | _ => contradiction
    | expanded member =>
      rcases List.mem_cons.mp member with same | member
      · cases same
        exact Expr.leavesNoneSelected_of_low (by decide)
      · cases List.mem_singleton.mp member
  exact ⟨resumable, clean, by decide, instantiate_resumed elementsAndSize packOfTwo
    Table.empty.scope 2 5 packOfTwo_closed resumable clean (by decide)⟩

/-- The elements of the pack, `Ns...`. -/
def elementsAlone : Expr := .of (.comma [.of (.expansion packMention)])

/-- An expansion is replaced by its elements before the depth is spent on them. The mention of the
pack is left as it is in each element, where nothing tells which element it is, so the second
instantiation does not complete it. -/
theorem elements_lose_place :
    packOfTwo.IsClosed ∧ elementsAlone.Resumable packOfTwo ∧ elementsAlone.height ≤ 16 ∧
      (elementsAlone.instantiate ⟨packOfTwo, none, Table.empty.scope⟩ 1 none).instantiate
          ⟨packOfTwo, none, Table.empty.scope⟩ 16 none ≠
        elementsAlone.instantiate ⟨packOfTwo, none, Table.empty.scope⟩ 16 none := by
  have mention : ∀ child ∈ [packMention], child.Resumable packOfTwo :=
    List.forall_mem_singleton.mpr packMention_resumable
  have resumable : elementsAlone.Resumable packOfTwo :=
    .of (List.forall_mem_nil _) trivial (List.forall_mem_singleton.mpr
      (.of (List.forall_mem_nil _) trivial mention))
  refine ⟨packOfTwo_closed, resumable, by decide, fun same => ?_⟩
  -- The trees are told apart by the comparison of trees.
  have told := congrArg
    (· == elementsAlone.instantiate ⟨packOfTwo, none, Table.empty.scope⟩ 16 none) same
  have apart : false = true := told
  contradiction

end ConstExpr
