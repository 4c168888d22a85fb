import ConstExpr.Proofs.Instantiate.Origins
import ConstExpr.Proofs.Instantiate.Stages

/-!
# Trees whose parts agree on the stages

An instantiation in two stages treats a subtree as the instantiation at once does, when the offsets
suit all packs that the subtree shows (`Expr.Aligned`). They do from the root on, where no offset is
given. An expansion that the first stage expands hands its offset on to all that stands in its
pattern; the subtrees there stay aligned as long as no expansion among them mixes packs that are
bound with others that are not (`Form.IsOrderly`).
-/
namespace ConstExpr

/-- All packs that the tree shows are bound, or none of them is. -/
def Substitution.BindsTogether (map : Substitution) (expr : Expr) : Prop :=
  (∀ pack, expr.Shows pack → (map.binding? pack.id).isSome = true) ∨
    ∀ pack, expr.Shows pack → map.binding? pack.id = none

/-- Where packs are bound together, a search is deferred only when none is bound. -/
theorem Substitution.BindsTogether.unbound {map : Substitution} {expr : Expr}
    (together : map.BindsTogether expr) (deferred : expr.visiblePackSize map = .deferred) :
    ∀ pack, expr.Shows pack → map.binding? pack.id = none := by
  rcases together with all | none
  · obtain ⟨pack, shown, unbound⟩ := Expr.exists_unbound_of_deferred deferred
    have bound := all pack shown
    rw [unbound] at bound
    contradiction
  · exact none

namespace Form

/-- What the form mentions is bound in the way it is mentioned, packs to packs, or not bound. -/
def FitsBindings (map : Substitution) (form : Form Expr) : Prop :=
  ∀ parameter ∈ form.parameters, ∀ bound,
    map.binding? parameter.id = some bound → bound.Fits parameter

/-- Expansions stand in lists and among template arguments, and those in lists and the operands of
pack sizes show packs that both substitutions bind together. -/
def IsOrderly (first second : Substitution) (form : Form Expr) : Prop :=
  (∀ operand ∈ form.operands, operand.isExpansion = false) ∧
    match form with
    | .overloads set => ∀ argument ∈ set.arguments, argument.carried.hasExpansion = false ∨
        ∃ pattern, argument = .type (.packExpansion pattern) ∧ pattern.hasExpansion = false
    | .expansion pattern | .unary .sizeofPack pattern =>
      first.BindsTogether pattern ∧ second.BindsTogether pattern
    | form => ∀ type ∈ form.types, type.hasExpansion = false

/-- The types of an orderly form have no expansions, unless it is an overload set. -/
theorem IsOrderly.plain {first second : Substitution} {form : Form Expr}
    (orderly : form.IsOrderly first second) (named : ∀ set, form ≠ .overloads set) :
    ∀ type ∈ form.types, type.hasExpansion = false := by
  cases form with
  | overloads set => exact absurd rfl (named set)
  | expansion | unary => exact nofun
  | _ => exact orderly.2

/-- The pattern of an expansion that the first substitution expands is orderly. -/
def ExpandsOrderly (first second : Substitution) : Form Expr → Prop
  | .expansion pattern => (∃ size, pattern.visiblePackSize first = .count size) →
    pattern.Every (IsOrderly first second)
  | _ => True

end Form

namespace Expr

/-- The substitution fits the tree: it is put together node by node, the parameters that it mentions
are bound in the way they are mentioned, and non-type parameters declare types without packs. -/
structure Bindable (map : Substitution) (expr : Expr) : Prop where
  /-- The tree is put together node by node. -/
  built : expr.Built
  /-- Packs are bound to packs. -/
  fits : expr.Every (Form.FitsBindings map)
  /-- The types of non-type parameters mention no packs. -/
  declares : expr.Every Form.DeclaresSingly

/-- The tree can be instantiated in two stages: the substitutions fit it, and what the first stage
expands is orderly. -/
structure Stageable (first second : Substitution) (expr : Expr) : Prop
    extends expr.Bindable second where
  /-- What the first stage expands is orderly. -/
  orderly : expr.Every (Form.ExpandsOrderly first second)

/-- The offsets suit all packs that are shown in what is searched of the tree, and no part of it
needs other ones. -/
def Aligned (offsets : Offsets) (first second : Substitution) (expr : Expr) : Prop :=
  offsets.early = none ∧ offsets.late = offsets.once ∨
    expr.Every (Form.IsOrderly first second) ∧
      ∀ pack, expr.measured.Shows pack → offsets.Suit first second pack.id

section

variable {first second : Substitution} {offsets : Offsets} {form : Form Expr}
  {template : Option TemplateId} {expr part : Expr}

/-- A substitution fits a node that it fits by itself when it fits the children. -/
theorem Bindable.of {map : Substitution} (fits : form.FitsBindings map)
    (declares : form.DeclaresSingly) (children : ∀ child ∈ form.children, child.Bindable map) :
    (Expr.of form).Bindable map :=
  ⟨.build fun child member => (children child member).built,
    every_node.mpr ⟨fits, fun child member => (children child member).fits⟩,
    every_node.mpr ⟨declares, fun child member => (children child member).declares⟩⟩

/-- The children of a tree that can be instantiated in two stages can be, too. -/
theorem Stageable.child (stageable : (node form template).Stageable first second)
    (member : part ∈ form.children) : part.Stageable first second :=
  ⟨⟨(built_node.mp stageable.built).1 part member, stageable.fits.child member,
    stageable.declares.child member⟩, stageable.orderly.child member⟩

/-- A pack that is shown in what is searched of a tree is bound to a pack or not at all. -/
theorem Stageable.fits_shown (stageable : expr.Stageable first second) {pack : TemplateParameter}
    (shown : expr.measured.Shows pack) :
    ∀ bound, second.binding? pack.id = some bound → bound.Fits pack := by
  obtain ⟨part, inside, mentioned⟩ := shown.exists_part
  refine stageable.fits part ?_ pack mentioned
  obtain ⟨form, template⟩ := expr
  cases form with
  | expansion pattern => exact .child (List.mem_singleton_self pattern) inside
  | _ => exact inside

/-- The parameters that the template arguments of an overload set mention are bound to packs where
they are packs. -/
theorem Stageable.fits_arguments {set : OverloadSet}
    (stageable : (node (.overloads set) template).Stageable first second) :
    ∀ argument ∈ set.arguments, ∀ parameter ∈ argument.carried.parameters, ∀ bound,
      second.binding? parameter.id = some bound → bound.Fits parameter :=
  fun _ member parameter mentioned => stageable.fits.root parameter
    (List.mem_flatMap.mpr ⟨_, List.mem_map_of_mem member, mentioned⟩)

namespace Aligned

/-- The children of a node that is neither an expansion nor a pack size are aligned as the node is,
unless they are expansions. -/
theorem child (aligned : (node form template).Aligned offsets first second)
    (open_ : form.hidesPacks = false) (member : part ∈ form.children)
    (plain : part.isExpansion = false) : part.Aligned offsets first second := by
  rcases aligned with initial | ⟨orderly, suit⟩
  · exact .inl initial
  · refine .inr ⟨orderly.child member, fun pack shown => suit pack ?_⟩
    rw [measured_of_plain plain] at shown
    have whole : (node form template).measured = node form template := by
      cases form <;> first | rfl | contradiction
    rw [whole]
    exact .child open_ member shown

/-- The elements of a list are aligned as the node is, unless they are expansions. -/
theorem element (aligned : (node form template).Aligned offsets first second)
    (member : part ∈ form.elements) (plain : part.isExpansion = false) :
    part.Aligned offsets first second := by
  refine aligned.child ?_ (Form.mem_children.mpr (.inr member)) plain
  cases form <;> first | rfl | contradiction

/-- The children outside of lists are aligned as the node is, unless it is the size of their
packs. -/
theorem operand (aligned : (node form template).Aligned offsets first second)
    (member : part ∈ form.operands) (unmeasured : form ≠ .unary .sizeofPack part) :
    part.Aligned offsets first second := by
  rcases aligned with initial | ⟨orderly, suit⟩
  · exact .inl initial
  · have below := Form.mem_children.mpr (.inl member)
    have plain := orderly.root.1 part member
    cases visible : form.hidesPacks with
    | false => exact child (.inr ⟨orderly, suit⟩) visible below plain
    | true =>
      -- The form is an expansion, whose pattern is what is searched of it.
      refine .inr ⟨orderly.child below, fun pack shown => suit pack ?_⟩
      rw [measured_of_plain plain] at shown
      cases form with
      | expansion pattern =>
        obtain rfl := List.mem_singleton.mp member
        exact shown
      | unary operator pattern =>
        obtain rfl := List.mem_singleton.mp member
        cases operator <;> contradiction
      | _ => contradiction

variable (extends_ : second.Extends first)
  (stageable : (node form template).Stageable first second)
  (aligned : (node form template).Aligned offsets first second)

include extends_ stageable aligned

/-- The offsets suit a parameter that the form mentions, if an orderly form would show it. -/
theorem suit_of_shown {parameter : TemplateParameter} (mentioned : parameter ∈ form.parameters)
    (shown : form.IsOrderly first second → parameter.isPack = true → parameter ∈ form.packs) :
    offsets.Suit first second parameter.id := by
  rcases aligned with ⟨none, same⟩ | ⟨orderly, suit⟩
  · exact .of_none none same
  · cases isPack : parameter.isPack with
    | true =>
      refine suit parameter ?_
      rw [measured_of_plain (by cases form <;> first | rfl | contradiction)]
      exact .root (shown orderly.root isPack)
    | false =>
      refine .of_single extends_ fun ⟨arguments, bound⟩ => ?_
      have fits := stageable.fits.root parameter mentioned _ bound
      rw [Bound.Fits, isPack] at fits
      contradiction

/-- The offsets suit the parameters of a type that an orderly form has without expansions. -/
theorem suit {type : Ty} (carried : type ∈ form.types)
    (plain : form.IsOrderly first second → type.hasExpansion = false) :
    ∀ parameter ∈ type.parameters, offsets.Suit first second parameter.id :=
  fun _ mentioned => suit_of_shown extends_ stageable aligned
    (List.mem_flatMap.mpr ⟨type, carried, mentioned⟩) fun orderly isPack =>
      List.mem_flatMap.mpr ⟨type, carried, Ty.mem_packs (plain orderly) mentioned isPack⟩

/-- The parameters of a type that an orderly form has without expansions become the same in two
stages as at once. -/
theorem agree {type : Ty} (carried : type ∈ form.types)
    (plain : form.IsOrderly first second → type.hasExpansion = false) :
    ∀ parameter ∈ type.parameters, offsets.Agree first second parameter.id :=
  fun parameter mentioned =>
    (suit extends_ stageable aligned carried plain parameter mentioned).agree extends_

/-- The template arguments of an overload set become the same in two stages as at once. -/
theorem agrees {set : OverloadSet} (overloads : form = .overloads set) :
    ∀ argument ∈ set.arguments, argument.Agrees offsets first second := by
  subst overloads
  intro argument member parameter mentioned
  have carried : argument.carried ∈ (Form.overloads set : Form Expr).types :=
    List.mem_map_of_mem member
  by_cases spreads : ∃ pattern, argument = .type (.packExpansion pattern) ∧
      parameter ∈ pattern.packs
  · exact .inr spreads
  · refine .inl ((suit_of_shown extends_ stageable aligned
      (List.mem_flatMap.mpr ⟨_, carried, mentioned⟩) fun orderly isPack => ?_).agree extends_)
    rcases orderly.2 argument member with plain | ⟨pattern, rfl, plain⟩
    · exact List.mem_flatMap.mpr ⟨_, carried, Ty.mem_packs plain mentioned isPack⟩
    · exact absurd ⟨pattern, rfl, Ty.mem_packs plain mentioned isPack⟩ spreads

section Searched

variable (member : part ∈ form.children)
  (searched : part.isExpansion = true ∨ form = .unary .sizeofPack part)

include member searched

omit extends_ stageable aligned in
/-- The packs that an orderly form searches are bound together. -/
theorem together (orderly : (node form template).Every (Form.IsOrderly first second)) :
    first.BindsTogether part.measured ∧ second.BindsTogether part.measured := by
  rcases searched with expansion | rfl
  · obtain ⟨own, template'⟩ := part
    cases own with
    | expansion pattern => exact (orderly.child member).root.2
    | _ => contradiction
  · rw [measured_of_plain (orderly.root.1 part member)]
    exact orderly.root.2

/-- The first stage replaces none of the packs in an expansion or a pack size that it defers. -/
theorem unreplaced (deferred : part.packSize first = .deferred) :
    ∀ pack, part.measured.Shows pack → first.argument? pack.id offsets.early = none := by
  intro pack shown
  rcases aligned with ⟨none, -⟩ | ⟨orderly, -⟩
  · refine Option.eq_none_iff_forall_ne_some.mpr fun argument replaced => ?_
    obtain ⟨place, _, selected, _⟩ := Substitution.selected_of_fits replaced
      (fun bound found => (stageable.child member).fits_shown shown bound (extends_ _ _ found))
      shown.isPack
    rw [none] at selected
    contradiction
  · have unbound := (together member searched orderly).1.unbound (packSize_eq _ _ ▸ deferred)
    rw [Substitution.argument?, unbound pack shown]

/-- What both stages defer is aligned as its node is. -/
theorem deferred (deferredFirst : part.packSize first = .deferred)
    (deferredSecond : part.packSize second = .deferred) : part.Aligned offsets first second := by
  have left := unreplaced extends_ stageable aligned member searched deferredFirst
  rcases aligned with initial | ⟨orderly, -⟩
  · exact .inl initial
  · refine .inr ⟨orderly.child member, fun pack shown => ⟨fun replaced => ?_, fun _ expands => ?_⟩⟩
    · rw [left pack shown] at replaced
      contradiction
    · obtain ⟨arguments, bound⟩ := expands
      rw [(together member searched orderly).2.unbound (packSize_eq _ _ ▸ deferredSecond) pack
        shown] at bound
      contradiction

omit extends_ searched in
/-- The pattern of an expansion that the first stage expands is aligned for each element. -/
theorem expanded {pattern : Expr} {partTemplate : Option TemplateId}
    (expansion : part = node (.expansion pattern) partTemplate) {size place : Nat}
    (sized : pattern.visiblePackSize first = .count size) (below : place < size) :
    pattern.Aligned ⟨some place, offsets.late, some place⟩ first second := by
  subst expansion
  have orderly : pattern.Every (Form.IsOrderly first second) := by
    rcases aligned with - | ⟨orderly, -⟩
    · exact (stageable.child member).orderly.root ⟨size, sized⟩
    · exact (orderly.child member).child (List.mem_singleton_self pattern)
  refine .inr ⟨orderly, fun pack shown => ?_⟩
  rw [measured_of_plain (plain_of_count sized)] at shown
  exact .of_replaced (Substitution.argument?_of_packSize (packSize_of_shows sized shown) below) rfl

/-- The pattern of an expansion that only the second stage expands is aligned for each element. -/
theorem expandedLate {pattern : Expr} {partTemplate : Option TemplateId}
    (expansion : part = node (.expansion pattern) partTemplate)
    (deferred : part.packSize first = .deferred) (place : Nat) :
    pattern.Aligned ⟨offsets.early, some place, some place⟩ first second := by
  have left := unreplaced extends_ stageable aligned member searched deferred
  subst expansion
  rcases aligned with ⟨none, -⟩ | ⟨orderly, -⟩
  · exact .inl ⟨none, rfl⟩
  · have inPart := List.mem_singleton_self pattern
    refine .inr ⟨(orderly.child member).child inPart, fun pack shown => ?_⟩
    rw [measured_of_plain ((orderly.child member).root.1 pattern inPart)] at shown
    refine ⟨fun replaced => ?_, fun _ _ => rfl⟩
    rw [left pack shown] at replaced
    contradiction

end Searched

end Aligned

end

end Expr

end ConstExpr
