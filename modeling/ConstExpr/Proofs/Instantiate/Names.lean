import ConstExpr.Proofs.Instantiate.Congruence
import ConstExpr.Proofs.Reachability

/-!
# Names that an instantiation leaves

Outside of a specialization an instantiation names only what the tree named before
(`namesOnly_instantiate`): template arguments name no declarations, and a call can only lose
candidates. The point of instantiation is asked for nothing but the candidates of calls, so scopes
that agree on the names in a tree make the same of it (`substitute_within`).
-/
namespace ConstExpr

/-- An instantiated form names what the form does. -/
theorem Form.NamesOnly.instantiated {known : DeclarationId → Prop} {form : Form Expr}
    (named : form.NamesOnly known) (work : Instantiation) (depth : Nat) (offset : Option Nat) :
    (form.instantiated work depth offset).NamesOnly known := by
  cases form with
  | overloads set =>
    rintro _ ⟨member⟩
    exact named _ (.candidate member)
  | variableRef id type =>
    rintro _ ⟨⟩
    exact named _ (.mention id type)
  | _ => rintro _ ⟨⟩

namespace Instantiation

variable {known : DeclarationId → Prop}

section Names

variable {work : Instantiation} {depth : Nat} {offset : Option Nat}

/-- Down to this depth, what becomes of trees of known names are such trees. -/
def KeepsNames (work : Instantiation) (known : DeclarationId → Prop) (depth : Nat) : Prop :=
  ∀ {offset : Option Nat} {expr : Expr}, expr.NamesOnly known →
    (expr.instantiate work depth offset).NamesOnly known

/-- What takes the place of an element of known names has such names. -/
theorem KeepsNames.listed (keeps : work.KeepsNames known depth) {element : Expr}
    (named : element.NamesOnly known) :
    ∀ result ∈ work.listed depth offset element, result.NamesOnly known := by
  have spec := work.listed_spec depth offset element
  generalize work.listed depth offset element = results at spec ⊢
  cases spec with
  | plain | deferred => exact List.forall_mem_singleton.mpr (keeps named)
  | @expanded pattern =>
    have inner : pattern.NamesOnly known := named.child (List.mem_singleton_self _)
    intro result member
    obtain ⟨place, -, rfl⟩ := List.mem_map.mp member
    exact keeps inner
  | invalid => exact List.forall_mem_singleton.mpr (Expr.namesOnly_fixed _ _ _ _)

/-- The children of an instantiated form of known names have such names. -/
theorem KeepsNames.children (keeps : work.KeepsNames known depth) {form : Form Expr}
    (named : ∀ child ∈ form.children, child.NamesOnly known) :
    ∀ child ∈ (form.instantiated work depth offset).children, child.NamesOnly known := by
  intro child member
  rcases Form.mem_children_instantiated.mp member with
    ⟨operand, among, rfl⟩ | ⟨element, among, inPlace⟩
  · exact keeps (named operand (Form.mem_children.mpr (.inl among)))
  · exact keeps.listed (named element (Form.mem_children.mpr (.inr among))) child inPlace

/-- A callee of known names is reduced to one of such names. -/
theorem namesOnly_narrow {callee : Expr} (named : callee.NamesOnly known) (arguments : List Expr) :
    (work.narrow callee arguments).NamesOnly known := by
  have spec := work.narrow_spec callee arguments
  generalize work.narrow callee arguments = reduced at spec ⊢
  cases spec with
  | kept => exact named
  | reduced _ _ resolved =>
    refine Expr.every_node.mpr ⟨?_, List.forall_mem_nil _⟩
    rintro _ ⟨member⟩
    obtain rfl := List.mem_singleton.mp member
    exact named.root _ (.candidate (Scope.resolve_spec resolved).1)

/-- Outside of a specialization, what becomes of a tree of known names is such a tree. -/
theorem namesOnly_instantiate (unspecialized : work.within = none) (depth : Nat) :
    work.KeepsNames known depth := by
  induction depth with
  | zero => exact fun named => named
  | succ depth ih =>
    intro offset expr named
    cases mentions : expr.mentionsParameter with
    | false => rwa [instantiate_of_silent unspecialized mentions]
    | true =>
      have outcome := work.outcome depth offset unspecialized mentions
      generalize expr.instantiate work (depth + 1) offset = result at outcome ⊢
      cases outcome with
      | @stable form template result stable reformed =>
        obtain ⟨own, below⟩ := Expr.every_node.mp named
        obtain ⟨template', rfl⟩ := reformed.eq_node
        exact Expr.every_node.mpr ⟨own.instantiated work depth offset, ih.children below⟩
      | value | measured => exact Expr.namesOnly_fixed _ _ _ _
      | mismatch | unmeasured => exact Expr.namesOnly_fixed _ _ _ _
      | selected =>
        refine Expr.every_node.mpr ⟨?_, List.forall_mem_nil _⟩
        rintro _ ⟨⟩
      | @call callee arguments template =>
        obtain ⟨-, below⟩ := Expr.every_node.mp named
        have children : ∀ child ∈ ((Form.call callee arguments).instantiated work depth
            offset).children, child.NamesOnly known := ih.children below
        obtain ⟨calleeNamed, argumentsNamed⟩ := List.forall_mem_cons.mp children
        refine Expr.namesOnly_derive (by rintro _ ⟨⟩) (List.forall_mem_cons.mpr
          ⟨namesOnly_narrow calleeNamed _, argumentsNamed⟩)

end Names

section Points

variable {scope other : Scope} (agree : scope.AgreeWithin other known)

include agree

/-- Callees of known names are reduced to the same. -/
theorem narrow_within {map : Substitution} {callee : Expr} (named : callee.NamesOnly known) :
    (⟨map, none, scope⟩ : Instantiation).narrow callee =
      (⟨map, none, other⟩ : Instantiation).narrow callee := by
  funext arguments
  unfold narrow
  cases isSet : callee.overloadSet? with
  | none => rfl
  | some set =>
    dsimp only
    rw [agree.resolve (named.candidates isSet)]

/-- Of a tree of known names an instantiation makes the same at all points that agree on them. -/
theorem substitute_within (map : Substitution) (depth : Nat) (offset : Option Nat) {expr : Expr}
    (named : expr.NamesOnly known) :
    (⟨map, none, scope⟩ : Instantiation).substitute depth offset expr =
      (⟨map, none, other⟩ : Instantiation).substitute depth offset expr := by
  induction depth generalizing offset expr with
  | zero => rfl
  | succ depth ih =>
    obtain ⟨form, template⟩ := expr
    have below : ∀ child ∈ form.children, child.NamesOnly known := fun _ member =>
      named.child member
    have alike : form.TreatedAlike ⟨map, none, scope⟩ ⟨map, none, other⟩ offset offset :=
      ⟨fun _ _ => rfl, fun _ _ _ _ => rfl, fun _ _ => rfl, fun _ _ => rfl, fun _ _ _ => rfl⟩
    rw [substitute, substitute]
    refine if_congr Iff.rfl rfl (substituteNode_congr rfl alike ?_
      (fun child member => ih offset (below child member)) ?_)
    · rintro callee arguments rfl
      exact narrow_within agree
        (namesOnly_instantiate rfl depth (below callee List.mem_cons_self))
    · intro element member pattern isForm place
      obtain ⟨elementForm, elementTemplate⟩ := element
      obtain rfl : elementForm = .expansion pattern := isForm
      have elementNamed := below _ (Form.mem_children.mpr (.inr member))
      exact ih (some place) (elementNamed.child (List.mem_singleton_self _))

end Points

end Instantiation

end ConstExpr
