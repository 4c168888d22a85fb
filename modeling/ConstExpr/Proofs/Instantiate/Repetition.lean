import ConstExpr.Proofs.Instantiate.Resumption

/-!
# Instantiations that are repeated

Nothing is left to do in what an instantiation makes of a tree: a second one with the same
substitution, which has no offset, keeps the result as it is (`instantiate_repeated`). What was
replaced mentions no parameter any more. What was left is left again, since an expansion that was
deferred still shows a pack that is not bound, also where the offset of the first instantiation has
selected elements of other packs in it.
-/
namespace ConstExpr

namespace Instantiation

/-- An instantiation without an offset keeps the tree as it is, whatever its depth. -/
def Settles (work : Instantiation) (expr : Expr) : Prop :=
  ∀ depth, work.substitute depth none expr = none

section Settles

variable {work : Instantiation} {form : Form Expr} {template : Option TemplateId} {expr : Expr}
  (unspecialized : work.within = none)

include unspecialized

/-- A tree that mentions no parameter is kept. -/
theorem settles_of_silent (silent : expr.mentionsParameter = false) : work.Settles expr := by
  have spared : work.spares expr = true := by rw [spares_eq unspecialized, silent]; rfl
  exact fun _ => substitute_of_spares spared

/-- A node is kept when its form keeps all by itself and its children are kept. -/
theorem settles_node (keeps : form.Keeps work none)
    (children : ∀ child ∈ form.children, work.Settles child) :
    work.Settles (.node form template) := by
  cases mentions : (Expr.node form template).mentionsParameter with
  | false => exact settles_of_silent unspecialized mentions
  | true =>
    intro depth
    cases depth with
    | zero => rfl
    | succ depth =>
      exact (substitute_eq_none_iff unspecialized mentions).mpr
        ⟨keeps, fun child member => children child member depth⟩

/-- The template arguments of an overload set that is kept stay. -/
theorem Settles.expanded_eq {set : OverloadSet}
    (settles : work.Settles (.node (.overloads set) template)) :
    set.expanded work.map none = set := by
  cases mentions : (Expr.node (.overloads set) template).mentionsParameter with
  | false => exact OverloadSet.expanded_of_silent (silent_children mentions).1
  | true => exact ((substitute_eq_none_iff unspecialized mentions).mp (settles 1)).1.types

/-- An overload set that is kept is kept when it is reduced. -/
theorem Settles.narrow {callee : Expr} {arguments : List Expr} (settles : work.Settles callee)
    (first : Instantiation) : work.Settles (first.narrow callee arguments) := by
  have spec := first.narrow_spec callee arguments
  generalize first.narrow callee arguments = reduced at spec ⊢
  cases spec with
  | kept => exact settles
  | @reduced set function template =>
    refine settles_node unspecialized ⟨trivial, ?_, List.forall_mem_nil _⟩ (List.forall_mem_nil _)
    have same := settles.expanded_eq unspecialized
    exact congrArg (fun set : OverloadSet => { set with candidates := [function] }) same

end Settles

variable {work : Instantiation} {depth : Nat} {offset : Option Nat} {form : Form Expr}
  {template : Option TemplateId} (unspecialized : work.within = none)
  (closed : work.map.IsClosed)

include unspecialized closed

section Node

variable (low : (Expr.node form template).height ≤ depth + 1)
  (fits : (Expr.node form template).Every (Form.FitsBindings work.map))
  (declares : (Expr.node form template).Every (Form.DeclaresBound work.map))

include low declares

/-- The packs of a child that are deferred are so in what becomes of it. -/
theorem packSize_deferred_instantiate {child : Expr} (member : child ∈ form.children)
    (deferred : child.packSize work.map = .deferred) :
    (child.instantiate work depth offset).packSize work.map = .deferred :=
  packSize_deferred_of_clean unspecialized closed (declares.child member)
    (Expr.leavesNoneSelected_of_low (Expr.height_child_le low child member)) deferred

/-- An expansion among what takes the place of an element is deferred. -/
theorem deferred_listed {element result : Expr} (member : element ∈ form.elements)
    (inPlace : result ∈ work.listed depth offset element) (expansion : result.isExpansion = true) :
    result.packSize work.map = .deferred := by
  have child := Form.mem_children.mpr (.inr member)
  obtain ⟨-, deferred, rfl⟩ := of_expansion_listed inPlace expansion
  exact packSize_deferred_instantiate unspecialized closed low declares child deferred

include fits

/-- A form of which nothing was selected keeps all by itself. -/
theorem keeps_instantiated (stable : form.IsStable work offset) :
    (form.instantiated work depth offset).Keeps work none := by
  refine ⟨?_, ?_, fun result member expansion => ?_⟩
  · cases form with
    | templateRef => exact Substitution.argument?_none stable
    | parameterRef => exact element?_none
    | unary operator operand =>
      cases operator with
      | sizeofPack =>
        exact packSize_deferred_instantiate unspecialized closed low declares
          (List.mem_singleton_self operand) stable
      | _ => trivial
    | _ => trivial
  · have again (type : Ty) : (type.instantiate work.map offset).instantiate work.map none =
        type.instantiate work.map offset := type_resumed closed type
    cases form with
    | templateRef parameter type => exact again type
    | overloads set => exact overloads_resumed closed fits.root rfl
    | fixed type | parameterRef _ type | variableRef _ type | typeTrait _ type
    | construct type => exact List.forall_mem_singleton.mpr (again type)
    | _ => exact List.forall_mem_nil _
  · rw [Form.elements_instantiated] at member
    obtain ⟨element, inForm, inPlace⟩ := List.mem_flatMap.mp member
    exact deferred_listed unspecialized closed low declares inForm inPlace expansion

end Node

omit unspecialized closed in
/-- What instantiations make of trees of the given height is kept by a second one. -/
def Settling (work : Instantiation) (depth : Nat) : Prop :=
  ∀ {offset : Option Nat} {expr : Expr}, expr.height ≤ depth →
    expr.Every (Form.FitsBindings work.map) → expr.Every (Form.DeclaresBound work.map) →
      work.Settles (expr.instantiate work depth offset)

section Node

variable (settling : work.Settling depth)
  (low : (Expr.node form template).height ≤ depth + 1)
  (fits : (Expr.node form template).Every (Form.FitsBindings work.map))
  (declares : (Expr.node form template).Every (Form.DeclaresBound work.map))

include settling low fits declares

omit closed in
/-- What takes the place of an element of a list is kept. -/
theorem Settling.listed {element result : Expr} (member : element ∈ form.elements)
    (inPlace : result ∈ work.listed depth offset element) : work.Settles result := by
  have child := Form.mem_children.mpr (.inr member)
  have lower := Expr.height_child_le low element child
  have partFits := fits.child child
  have partDeclares := declares.child child
  have spec := work.listed_spec depth offset element
  generalize work.listed depth offset element = results at spec inPlace
  cases spec with
  | plain | deferred =>
    obtain rfl := List.mem_singleton.mp inPlace
    exact settling lower partFits partDeclares
  | @expanded pattern template size sized =>
    have inPart := List.mem_singleton_self pattern
    obtain ⟨place, -, rfl⟩ := List.mem_map.mp inPlace
    exact settling (Nat.le_of_succ_le lower) (partFits.child inPart) (partDeclares.child inPart)
  | invalid =>
    obtain rfl := List.mem_singleton.mp inPlace
    exact settles_of_silent unspecialized rfl

omit closed in
/-- The children of an instantiated form are kept. -/
theorem Settling.children : ∀ child ∈ (form.instantiated work depth offset).children,
    work.Settles child := by
  intro child member
  rcases Form.mem_children_instantiated.mp member with
    ⟨operand, among, rfl⟩ | ⟨element, among, inPlace⟩
  · have below := Form.mem_children.mpr (.inl among)
    exact settling (Expr.height_child_le low operand below) (fits.child below)
      (declares.child below)
  · exact settling.listed unspecialized low fits declares among inPlace

/-- A form of which nothing was selected is kept with what is below it. -/
theorem Settling.instantiated (stable : form.IsStable work offset)
    {template' : Option TemplateId} :
    work.Settles (.node (form.instantiated work depth offset) template') :=
  settles_node unspecialized (keeps_instantiated unspecialized closed low fits declares stable)
    (settling.children unspecialized low fits declares)

end Node

/-- What an instantiation makes of a tree is kept by a second one without an offset. -/
theorem settling (depth : Nat) : work.Settling depth := by
  induction depth with
  | zero => exact fun {_ expr} low => absurd low (Nat.not_le_of_lt expr.height_pos)
  | succ depth ih =>
    intro offset expr low fits declares
    cases mentions : expr.mentionsParameter with
    | false =>
      rw [instantiate_of_silent unspecialized mentions]
      exact settles_of_silent unspecialized mentions
    | true =>
      have outcome := work.outcome depth offset unspecialized mentions
      generalize expr.instantiate work (depth + 1) offset = result at outcome ⊢
      cases outcome with
      | @stable form template result stable reformed =>
        obtain ⟨template', rfl⟩ := reformed.eq_node
        exact ih.instantiated unspecialized closed low fits declares stable
      | @value parameter type actual value template replaced =>
        have silent : actual.mentionsParameter = false := closed.silent replaced
        refine settles_of_silent unspecialized ?_
        rw [Expr.derive_leaf rfl, Expr.mentionsParameter, Expr.anyForm_eq_false]
        exact ⟨silent, List.forall_mem_nil _⟩
      | @selected position place type isPack template selected =>
        rw [Expr.derive_leaf rfl]
        refine settles_node unspecialized ⟨element?_none, ?_, List.forall_mem_nil _⟩
          (List.forall_mem_nil _)
        exact List.forall_mem_singleton.mpr (type_resumed closed type)
      | mismatch | measured | unmeasured => exact settles_of_silent unspecialized rfl
      | @call callee arguments template =>
        have keeps :
            ((Form.call callee arguments).instantiated work depth offset).Keeps work none :=
          keeps_instantiated unspecialized closed low fits declares trivial
        have children : ∀ child ∈ ((Form.call callee arguments).instantiated work depth
            offset).children, work.Settles child := ih.children unspecialized low fits declares
        obtain ⟨calleeSettles, argumentsSettle⟩ := List.forall_mem_cons.mp children
        exact settles_node unspecialized ⟨trivial, List.forall_mem_nil _, keeps.deferred⟩
          (List.forall_mem_cons.mpr ⟨calleeSettles.narrow unspecialized work, argumentsSettle⟩)

end Instantiation

/-- A type that mentions no packs mentions none that is not bound. -/
theorem Form.DeclaresSingly.bound {map : Substitution} {form : Form Expr}
    (declares : form.DeclaresSingly) : form.DeclaresBound map := by
  cases form with
  | templateRef parameter type =>
    intro _ deferred
    obtain ⟨pack, shown, unbound⟩ := Ty.exists_unbound deferred
    have isPack := (Substitution.packSize_eq_deferred.mp unbound).1
    rw [declares pack (Ty.mem_parameters shown)] at isPack
    contradiction
  | _ => trivial

/-- What an instantiation that goes down to the leaves makes of a tree, at any offset, is kept as it
is by a second one with the same substitution and no offset. -/
theorem instantiate_repeated (expr : Expr) (map : Substitution) (scope : Scope)
    (depth again : Nat) (offset : Option Nat) (closed : map.IsClosed)
    (fits : expr.Every (Form.FitsBindings map)) (declares : expr.Every Form.DeclaresSingly)
    (low : expr.height ≤ depth) :
    (⟨map, none, scope⟩ : Instantiation).substitute again none
      (expr.instantiate ⟨map, none, scope⟩ depth offset) = none := by
  have settling : Instantiation.Settling ⟨map, none, scope⟩ depth :=
    Instantiation.settling rfl closed depth
  exact settling low fits (fun part inside => (declares part inside).bound) again

/-- The mention of a template parameter pack that is not bound. -/
def unboundMention : Expr := .of (.templateRef ⟨⟨0, 1⟩, true⟩ (.fundamental .int))

/-- The sums of the elements of two packs, and the number of elements of the second one,
`(Ns + Ms)..., sizeof...(Ms)`. -/
def sumsAndSize : Expr :=
  .of (.comma [.of (.expansion (.of (.binary (.arithmetic .add) packMention unboundMention))),
    .of (.unary .sizeofPack unboundMention)])

/-- The second element of the pack that is bound takes its place in the sums, whose number depends
on the other pack still, and the second instantiation leaves both as they are. -/
theorem instantiate_repeated_of_sums :
    packOfTwo.IsClosed ∧ sumsAndSize.Every (Form.FitsBindings packOfTwo) ∧
      sumsAndSize.Every Form.DeclaresSingly ∧ sumsAndSize.height ≤ 4 ∧
      (sumsAndSize.instantiate ⟨packOfTwo, none, Table.empty.scope⟩ 4 (some 1) ==
        .of (.comma [.of (.expansion (.of (.binary (.arithmetic .add) (.int 2) unboundMention))),
          .of (.unary .sizeofPack unboundMention)])) = true ∧
      (⟨packOfTwo, none, Table.empty.scope⟩ : Instantiation).substitute 16 none
        (sumsAndSize.instantiate ⟨packOfTwo, none, Table.empty.scope⟩ 4 (some 1)) = none := by
  have sums {property : Form Expr → Prop}
      (first : property packMention.form) (second : property unboundMention.form)
      (other : ∀ form, form.types = [] → property form) : sumsAndSize.Every property := by
    have firstEvery : packMention.Every property :=
      Expr.every_node.mpr ⟨first, List.forall_mem_nil _⟩
    have secondEvery : unboundMention.Every property :=
      Expr.every_node.mpr ⟨second, List.forall_mem_nil _⟩
    refine Expr.every_node.mpr ⟨other _ rfl, List.forall_mem_cons.mpr ⟨?_, ?_⟩⟩
    · refine Expr.every_node.mpr ⟨other _ rfl, List.forall_mem_singleton.mpr ?_⟩
      exact Expr.every_node.mpr ⟨other _ rfl, List.forall_mem_cons.mpr
        ⟨firstEvery, List.forall_mem_singleton.mpr secondEvery⟩⟩
    · exact List.forall_mem_singleton.mpr (Expr.every_node.mpr
        ⟨other _ rfl, List.forall_mem_singleton.mpr secondEvery⟩)
  have fits : sumsAndSize.Every (Form.FitsBindings packOfTwo) := by
    refine sums packMention_resumable.fits.root ?_ fun form silent => ?_
    · refine List.forall_mem_singleton.mpr fun bound found => ?_
      cases found
    · rw [Form.FitsBindings, Form.parameters, silent]
      exact List.forall_mem_nil _
  have declares : sumsAndSize.Every Form.DeclaresSingly := by
    refine sums (List.forall_mem_nil _) (List.forall_mem_nil _) fun form silent => ?_
    cases form with
    | templateRef => contradiction
    | _ => trivial
  exact ⟨packOfTwo_closed, fits, declares, by decide, by decide,
    instantiate_repeated sumsAndSize packOfTwo Table.empty.scope 4 16 (some 1) packOfTwo_closed
      fits declares (by decide)⟩

end ConstExpr
