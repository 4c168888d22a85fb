import ConstExpr.Proofs.Instantiate.Kept

/-!
# Substitutions that bind nothing that is mentioned

An instantiation with a substitution that binds no parameter of a tree keeps the tree, at every
depth and offset (`instantiate_unbound`). It still visits every node that mentions a parameter, and
searches the packs of expansions and of pack sizes: each search has to find a pack, whose size is
then deferred, since a search without packs makes the expression invalid.
-/
namespace ConstExpr

namespace PackSize

/-- The outcome tells no size and no conflict: no pack at all, or one that is not bound. -/
def IsOpen (size : PackSize) : Prop := size = .absent ∨ size = .deferred

/-- A combination of open outcomes is open. -/
theorem isJoint_isOpen : IsJoint IsOpen where
  absent := .inl rfl
  combine := by
    rintro first second (rfl | rfl) secondOpen
    · exact secondOpen
    · exact .inr rfl

end PackSize

section Searches

variable {map : Substitution}

/-- A parameter that is not bound has no size. -/
theorem Substitution.packSize_open {parameter : TemplateParameter}
    (unbound : map.binding? parameter.id = none) : (map.packSize parameter).IsOpen := by
  unfold packSize
  split
  · rw [unbound]
    exact .inr rfl
  · exact .inl rfl

/-- A type has no size where none of its packs is bound. -/
theorem Ty.packSize_open {type : Ty}
    (unbound : ∀ pack ∈ type.packs, map.binding? pack.id = none) : (type.packSize map).IsOpen :=
  packSize_joint PackSize.isJoint_isOpen fun pack shown =>
    Substitution.packSize_open (unbound pack shown)

namespace Expr

variable {expr : Expr}

/-- A search finds neither a size nor a conflict where no pack that is shown is bound. -/
theorem visiblePackSize_open (unbound : ∀ pack, expr.Shows pack → map.binding? pack.id = none) :
    (expr.visiblePackSize map).IsOpen :=
  visiblePackSize_joint PackSize.isJoint_isOpen fun pack shown =>
    Substitution.packSize_open (unbound pack shown)

/-- A search that finds packs of which none is bound is deferred. -/
theorem visiblePackSize_of_unbound {pack : TemplateParameter} (shown : expr.Shows pack)
    (unbound : ∀ pack, expr.Shows pack → map.binding? pack.id = none) :
    expr.visiblePackSize map = .deferred := by
  rcases visiblePackSize_open unbound with absent | deferred
  · exact absurd shown (visiblePackSize_absent_iff.mp absent pack)
  · exact deferred

end Expr

end Searches

namespace Form

/-- The substitution binds no parameter that the form mentions. -/
def IsUnbound (map : Substitution) (form : Form Expr) : Prop :=
  ∀ parameter ∈ form.parameters, map.binding? parameter.id = none

/-- The pattern of an expansion, and what a pack size is asked of, shows a pack. -/
def FindsPacks : Form Expr → Prop
  | .expansion pattern => ∃ pack, pattern.Shows pack
  | .unary .sizeofPack operand => ∃ pack, operand.measured.Shows pack
  | _ => True

end Form

namespace Substitution

variable {map : Substitution} {offset : Option Nat}

/-- A parameter that is not bound is not replaced. -/
theorem argument?_of_unbound {parameter : ParameterId} (unbound : map.binding? parameter = none) :
    map.argument? parameter offset = none := by
  rw [argument?, unbound]

end Substitution

/-- A template argument of which no parameter is bound becomes itself alone. -/
theorem TemplateArgument.expand_of_silenced {map : Substitution} {offset : Option Nat}
    {argument : TemplateArgument}
    (unbound : ∀ parameter ∈ argument.carried.parameters, map.binding? parameter.id = none) :
    argument.expand map offset = [argument] := by
  have kept : argument.instantiate map offset = argument := by
    have carried : argument.carried.instantiate map offset = argument.carried :=
      Ty.instantiate_of_unreplaced fun parameter mentioned =>
        Substitution.argument?_of_unbound (unbound parameter mentioned)
    cases argument <;> exact congrArg _ carried
  rw [expand_of_unsized, kept]
  rintro pattern size rfl sized
  have mentioned {pack : TemplateParameter} (shown : pack ∈ pattern.packs) :
      pack ∈ pattern.parameters := Ty.mem_parameters shown
  have unsized : (pattern.packSize map).IsOpen :=
    Ty.packSize_open fun pack shown => unbound pack (mentioned shown)
  rw [sized] at unsized
  rcases unsized with same | same <;> contradiction

/-- An overload set of which no parameter is bound stays. -/
theorem OverloadSet.expanded_of_unbound {map : Substitution} {offset : Option Nat}
    {set : OverloadSet}
    (unbound : ∀ argument ∈ set.arguments, ∀ parameter ∈ argument.carried.parameters,
      map.binding? parameter.id = none) : set.expanded map offset = set :=
  expanded_of_each fun argument member =>
    TemplateArgument.expand_of_silenced (unbound argument member)

/-- What is searched for packs is a part of the tree. -/
theorem Expr.contains_measured (expr : Expr) : expr.Contains expr.measured := by
  obtain ⟨form, template⟩ := expr
  cases form with
  | expansion pattern => exact .child (List.mem_singleton_self pattern) (.root pattern)
  | _ => exact .root _

namespace Instantiation

variable {work : Instantiation} {depth : Nat} {offset : Option Nat} {form : Form Expr}
  {template : Option TemplateId}
  (unbound : (Expr.node form template).Every (Form.IsUnbound work.map))

include unbound

/-- The size of a child is deferred when a search in it finds a pack. -/
theorem packSize_of_unbound {child : Expr} (member : child ∈ form.children)
    {pack : TemplateParameter} (shown : child.measured.Shows pack) :
    child.packSize work.map = .deferred := by
  rw [Expr.packSize_eq]
  refine Expr.visiblePackSize_of_unbound shown fun pack shown => ?_
  obtain ⟨part, inside, mentioned⟩ := shown.exists_part
  exact unbound part (.child member (child.contains_measured.trans inside)) pack mentioned

/-- The types of the form stay. -/
theorem keepsTypes_of_unbound : form.KeepsTypes work offset := by
  have silenced : ∀ type ∈ form.types, ∀ parameter ∈ type.parameters,
      work.map.binding? parameter.id = none := fun type carried parameter mentioned =>
    unbound.root parameter (List.mem_flatMap.mpr ⟨type, carried, mentioned⟩)
  have stays (type : Ty) (carried : type ∈ form.types) : type.instantiate work.map offset = type :=
    Ty.instantiate_of_unreplaced fun parameter mentioned =>
      Substitution.argument?_of_unbound (silenced type carried parameter mentioned)
  cases form with
  | templateRef parameter type => exact stays type (List.mem_cons_of_mem _ List.mem_cons_self)
  | overloads set =>
    exact OverloadSet.expanded_of_unbound fun argument member =>
      silenced argument.carried (List.mem_map_of_mem member)
  | _ => exact stays

variable (finds : (Expr.node form template).Every Form.FindsPacks)

include finds

/-- Nothing in the form is selected. -/
theorem stable_of_unbound : form.IsStable work offset := by
  cases form with
  | templateRef parameter type =>
    exact Substitution.argument?_of_unbound
      (unbound.root parameter (List.mem_append_left _ (List.mem_singleton_self parameter)))
  | parameterRef position type isPack =>
    have unsized : (type.packSize work.map).IsOpen := Ty.packSize_open fun pack shown =>
      unbound.root pack (List.mem_append_left _ (Ty.mem_parameters shown))
    have nothing (place : Nat) : work.element? offset type isPack ≠ some place := by
      intro selected
      obtain ⟨-, -, size, sized, -⟩ := element?_eq_some.mp selected
      rw [sized] at unsized
      rcases unsized with same | same <;> contradiction
    exact Option.eq_none_iff_forall_ne_some.mpr nothing
  | unary operator operand =>
    cases operator with
    | sizeofPack =>
      obtain ⟨pack, shown⟩ := finds.root
      exact packSize_of_unbound unbound (List.mem_singleton_self operand) shown
    | _ => trivial
  | _ => trivial

/-- Nothing happens to the form by itself. -/
theorem keeps_of_unbound : form.Keeps work offset := by
  refine ⟨stable_of_unbound unbound finds, keepsTypes_of_unbound unbound,
    fun element member expansion => ?_⟩
  have child : element ∈ form.children := Form.mem_children.mpr (.inr member)
  obtain ⟨elementForm, elementTemplate⟩ := element
  cases elementForm with
  | expansion pattern =>
    obtain ⟨pack, shown⟩ := (finds.child child).root
    exact packSize_of_unbound unbound child shown
  | _ => contradiction

end Instantiation

/-- A substitution that binds none of the parameters that a tree mentions, which the empty one never
does, keeps the tree as it is, at every depth and offset and outside of a specialization, if all
searches in it find packs. -/
theorem instantiate_unbound (expr : Expr) (work : Instantiation) (depth : Nat)
    (offset : Option Nat) (unspecialized : work.within = none)
    (unbound : expr.Every (Form.IsUnbound work.map)) (finds : expr.Every Form.FindsPacks) :
    work.substitute depth offset expr = none ∧ expr.instantiate work depth offset = expr ∧
      signature (expr.instantiate work depth offset) = signature expr := by
  have kept : work.substitute depth offset expr = none := by
    induction expr using Expr.induction generalizing depth with
    | step form template ih =>
      cases depth with
      | zero => rfl
      | succ depth =>
        cases mentions : (Expr.node form template).mentionsParameter with
        | false =>
          exact Instantiation.substitute_of_spares
            (by rw [Instantiation.spares_eq unspecialized, mentions]; rfl)
        | true =>
          exact (Instantiation.substitute_eq_none_iff unspecialized mentions).mpr
            ⟨Instantiation.keeps_of_unbound unbound finds, fun child member =>
              ih child member depth (unbound.child member) (finds.child member)⟩
  have same : expr.instantiate work depth offset = expr := Instantiation.instantiate_of_kept kept
  exact ⟨kept, same, congrArg signature same⟩

/-- The call `f<Ts*...>(sizeof...(xs), xs...)` of an overloaded function, where `xs` is the function
parameter pack of the types `Ts`. -/
def countedSpread : Expr :=
  let elements : Expr := .of (.parameterRef 0 (.parameter ⟨⟨0, 1⟩, true⟩) true)
  .of (.call
    (.of (.overloads ⟨[⟨0⟩, ⟨1⟩], "f",
      some [.type (.packExpansion (.pointer (.parameter ⟨⟨0, 1⟩, true⟩)))]⟩))
    [.of (.unary .sizeofPack elements), .of (.expansion elements)])

/-- The call is kept, with its candidates, where only a pack of another template is bound and its
first element is selected. -/
theorem instantiate_unbound_of_spread :
    let map : Substitution := ⟨[(⟨1, 0⟩, .pack [.type (.fundamental .int)])]⟩
    countedSpread.Every (Form.IsUnbound map) ∧ countedSpread.Every Form.FindsPacks ∧
      (⟨map, none, Table.empty.scope⟩ : Instantiation).substitute 16 (some 0) countedSpread =
        none := by
  intro map
  have unbound : countedSpread.Every (Form.IsUnbound map) := by
    have silent : ∀ parameter ∈ [TemplateParameter.mk ⟨0, 1⟩ true],
        map.binding? parameter.id = none := List.forall_mem_singleton.mpr rfl
    simp only [countedSpread, Expr.of, Expr.build, Expr.every_node, Form.children,
      List.forall_mem_cons, List.not_mem_nil, false_implies, implies_true, and_true]
    exact ⟨List.forall_mem_nil _, silent, ⟨List.forall_mem_nil _, silent⟩, List.forall_mem_nil _,
      silent⟩
  have finds : countedSpread.Every Form.FindsPacks := by
    simp only [countedSpread, Expr.of, Expr.build, Expr.every_node, Form.children,
      List.forall_mem_cons, List.not_mem_nil, false_implies, implies_true, and_true]
    have shown : ∃ pack, (Expr.node (.parameterRef 0 (.parameter ⟨⟨0, 1⟩, true⟩) true) none).Shows
        pack := ⟨_, .root List.mem_cons_self⟩
    exact ⟨trivial, trivial, ⟨shown, trivial⟩, shown, trivial⟩
  exact ⟨unbound, finds, (instantiate_unbound countedSpread ⟨map, none, Table.empty.scope⟩ 16
    (some 0) rfl unbound finds).1⟩

end ConstExpr
