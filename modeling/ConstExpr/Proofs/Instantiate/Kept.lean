import ConstExpr.Proofs.Instantiate.Alignment
import Mathlib.Tactic.MkIffOfInductiveProp

/-!
# Trees that are kept

An instantiation keeps a tree as it is exactly when it keeps what each form in it carries
(`Instantiation.substitute_eq_none_iff`). Of two stages, each keeps a tree exactly when the
instantiation at once does (`Instantiation.kept_staged`).
-/
namespace ConstExpr

namespace Form

/-- The types and the template arguments of the form stay. -/
def KeepsTypes (work : Instantiation) (offset : Option Nat) : Form Expr → Prop
  | .templateRef _ type => type.instantiate work.map offset = type
  | .overloads set => set.expanded work.map offset = set
  | form => ∀ type ∈ form.types, type.instantiate work.map offset = type

/-- Nothing happens to the form by itself: its types stay, nothing in it is selected, and the
expansions among its elements are deferred. -/
@[mk_iff]
structure Keeps (work : Instantiation) (offset : Option Nat) (form : Form Expr) : Prop where
  /-- Nothing is selected. -/
  stable : form.IsStable work offset
  /-- The types stay. -/
  types : form.KeepsTypes work offset
  /-- Expansions are deferred. -/
  deferred : ∀ element ∈ form.elements, element.isExpansion = true →
    element.packSize work.map = .deferred

end Form

namespace Instantiation

variable {work : Instantiation} {depth : Nat} {offset : Option Nat} {template : Option TemplateId}

/-- A node is not derived exactly when nothing changed. -/
theorem deriveIf_eq_none {origin : Expr} {changed : Bool} {form : Form Expr} :
    origin.deriveIf changed form = none ↔ changed = false := by
  cases changed <;> simp [Expr.deriveIf]

/-- An element of a list stays exactly when it is kept, and deferred if it is an expansion. -/
theorem substituteElement_eq_none_iff {element : Expr} :
    substituteElement work (work.substitute depth) offset element = none ↔
      (element.isExpansion = true → element.packSize work.map = .deferred) ∧
        work.substitute depth offset element = none := by
  obtain ⟨form, template⟩ := element
  unfold substituteElement
  cases form with
  | expansion pattern =>
    cases (Expr.node (.expansion pattern) template).packSize work.map <;>
      simp [Expr.form, Expr.isExpansion]
  | _ => simp [Expr.form, Expr.isExpansion]

/-- A list stays exactly when its elements do. -/
theorem substituteList_eq_none_iff {exprs : List Expr} :
    substituteList work (work.substitute depth) offset exprs = none ↔
      (∀ element ∈ exprs, element.isExpansion = true → element.packSize work.map = .deferred) ∧
        ∀ element ∈ exprs, work.substitute depth offset element = none := by
  rw [← forall₂_and]
  induction exprs with
  | nil => simp [substituteList]
  | cons head tail ih =>
    rw [List.forall_mem_cons, ← substituteElement_eq_none_iff, ← ih, substituteList]
    cases substituteElement work (work.substitute depth) offset head <;>
      cases substituteList work (work.substitute depth) offset tail <;> simp

/-- A tree that mentions a template parameter is kept exactly when its form keeps all by itself and
its children are kept. -/
theorem substitute_eq_none_iff (unspecialized : work.within = none) {form : Form Expr}
    (mentions : (Expr.node form template).mentionsParameter = true) :
    work.substitute (depth + 1) offset (.node form template) = none ↔
      form.Keeps work offset ∧
        ∀ child ∈ form.children, work.substitute depth offset child = none := by
  have entered : work.spares (.node form template) = false := by
    rw [spares_eq unspecialized, mentions]
    rfl
  rw [substitute, entered, if_neg Bool.false_ne_true, Form.keeps_iff]
  cases form with
  | unary operator operand =>
    by_cases sized : operator = .sizeofPack
    · subst sized
      change substituteSizeofPack work (work.substitute depth) offset _ operand = none ↔ _
      unfold substituteSizeofPack
      cases found : operand.packSize work.map <;>
        simp [found, Form.IsStable, Form.KeepsTypes, Form.types, Form.elements, Form.children]
    · cases operator with
      | sizeofPack => contradiction
      | _ =>
        simp [substituteNode, Expr.form, Form.IsStable, Form.KeepsTypes, Form.types, Form.elements,
          Form.children]
  | templateRef parameter type =>
    change work.substituteTemplateRef offset _ parameter type = none ↔ _
    unfold substituteTemplateRef
    cases replaced : work.map.argument? parameter.id offset with
    | some argument => cases argument <;> simp [Form.IsStable, replaced]
    | none =>
      simp [deriveIf_eq_none, substituteType, Form.IsStable, Form.KeepsTypes, Form.elements,
        Form.children, replaced]
  | parameterRef position type isPack =>
    change work.substituteParameterRef offset _ position type isPack = none ↔ _
    unfold substituteParameterRef
    cases selected : work.element? offset type isPack <;>
      simp [deriveIf_eq_none, substituteType, Form.IsStable, Form.KeepsTypes, Form.types,
        Form.elements, Form.children, selected]
  | overloads set =>
    have unnamed : work.specializing (.node (.overloads set) template) = none := by
      rw [specializing, unspecialized]
      rfl
    change work.substituteOverloads offset _ set = none ↔ _
    rw [substituteOverloads, unnamed, deriveIf_eq_none, bne_eq_false_iff_eq]
    change set.expanded work.map offset = set ↔ _
    simp [Form.IsStable, Form.KeepsTypes, Form.elements, Form.children]
  | call callee arguments =>
    change substituteCall work (work.substitute depth) offset _ callee arguments = none ↔ _
    rw [substituteCall_eq_none_iff, substituteList_eq_none_iff]
    simp [Form.IsStable, Form.KeepsTypes, Form.types, Form.elements, Form.children, and_left_comm]
  | _ =>
    simp [substituteNode, Expr.form, deriveIf_eq_none, substituteType, substituteList_eq_none_iff,
      Form.IsStable, Form.KeepsTypes, Form.types, Form.elements, Form.children, and_assoc]

section Staged

variable {early late : Instantiation} {offsets : Offsets} {form : Form Expr}
  (extends_ : late.map.Extends early.map) (closed : late.map.IsClosed)

include extends_

/-- A search that is deferred for the bound parameters is deferred for fewer of them. -/
theorem packSize_deferred_iff {expr : Expr} : expr.packSize late.map = .deferred ↔
    expr.packSize early.map = .deferred ∧ expr.packSize late.map = .deferred := by
  refine ⟨fun deferred => ⟨?_, deferred⟩, And.right⟩
  rw [Expr.packSize_eq] at deferred ⊢
  refine Decidable.byContradiction fun settled => ?_
  rw [Expr.visiblePackSize_extends extends_ settled] at deferred
  exact settled deferred

variable (stageable : (Expr.node form template).Stageable early.map late.map)
  (aligned : (Expr.node form template).Aligned offsets early.map late.map)

include stageable aligned

/-- Nothing in a form is selected at once exactly when nothing is in the stages. -/
theorem stable_staged : form.IsStable late offsets.once ↔
    form.IsStable early offsets.early ∧ form.IsStable late offsets.late := by
  cases form with
  | templateRef parameter type =>
    exact (aligned.agree extends_ stageable List.mem_cons_self (fun _ => rfl) parameter
      (List.mem_singleton_self _)).argument?_eq_none_iff
  | parameterRef position type isPack =>
    have carried := List.mem_singleton_self type
    have suit := aligned.suit extends_ stageable carried fun orderly => orderly.2 type carried
    exact element?_eq_none_iff extends_ (fun pack shown => suit pack (Ty.mem_parameters shown))
      fun pack shown => stageable.fits.root pack
        (List.mem_flatMap.mpr ⟨type, carried, Ty.mem_parameters shown⟩)
  | unary operator operand =>
    cases operator with
    | sizeofPack => exact packSize_deferred_iff extends_
    | _ => exact (and_self_iff).symm
  | _ => exact (and_self_iff).symm

include closed

/-- The types of a form stay at once exactly when they stay in the stages. -/
theorem types_staged : form.KeepsTypes late offsets.once ↔
    form.KeepsTypes early offsets.early ∧ form.KeepsTypes late offsets.late := by
  have each (named : ∀ set, form ≠ .overloads set) (type : Ty) (carried : type ∈ form.types) :=
    Ty.kept_staged extends_ closed
      (aligned.agree extends_ stageable carried fun orderly => orderly.plain named type carried)
  cases form with
  | templateRef =>
    exact each (fun _ => by simp) _ (List.mem_cons_of_mem _ (List.mem_singleton_self _))
  | overloads set =>
    exact OverloadSet.kept_staged extends_ closed (aligned.agrees extends_ stageable rfl)
      stageable.fits_arguments
  | fixed | parameterRef | variableRef | typeTrait | construct =>
    simp only [Form.KeepsTypes, Form.types, List.forall_mem_singleton]
    exact each (fun _ => by simp) _ (List.mem_singleton_self _)
  | _ => simp [Form.KeepsTypes, Form.types]

/-- Nothing happens to a form by itself at once exactly when nothing does in the stages. -/
theorem keeps_staged : form.Keeps late offsets.once ↔
    form.Keeps early offsets.early ∧ form.Keeps late offsets.late := by
  rw [Form.keeps_iff, Form.keeps_iff, Form.keeps_iff, stable_staged extends_ stageable aligned,
    types_staged extends_ closed stageable aligned]
  have elements : (∀ element ∈ form.elements, element.isExpansion = true →
      element.packSize late.map = .deferred) ↔
        (∀ element ∈ form.elements, element.isExpansion = true →
          element.packSize early.map = .deferred) ∧
        ∀ element ∈ form.elements, element.isExpansion = true →
          element.packSize late.map = .deferred := by
    refine ⟨fun deferred => ⟨fun element member expansion => ?_, deferred⟩, And.right⟩
    exact ((packSize_deferred_iff extends_).mp (deferred element member expansion)).1
  tauto

omit closed in
/-- Where all that is searched in a form is deferred its children are aligned. -/
theorem aligned_children {offset : Option Nat} (keeps : form.Keeps late offset) :
    ∀ child ∈ form.children, child.Aligned offsets early.map late.map := by
  intro child member
  have searched (search : child.isExpansion = true ∨ form = .unary .sizeofPack child)
      (deferred : child.packSize late.map = .deferred) :
      child.Aligned offsets early.map late.map :=
    aligned.deferred extends_ stageable member search
      ((packSize_deferred_iff extends_).mp deferred).1 deferred
  rcases Form.mem_children.mp member with operand | element
  · by_cases measured : form = .unary .sizeofPack child
    · subst measured
      exact searched (.inr rfl) keeps.stable
    · exact aligned.operand operand measured
  · cases expansion : child.isExpansion with
    | false => exact aligned.element element expansion
    | true => exact searched (.inl expansion) (keeps.deferred child element expansion)

end Staged

/-- A tree is kept at once exactly when it is kept in the stages. -/
theorem kept_staged {early late : Instantiation} {offsets : Offsets}
    (earlyUnspecialized : early.within = none) (lateUnspecialized : late.within = none)
    (extends_ : late.map.Extends early.map) (closed : late.map.IsClosed) {expr : Expr}
    {earlyDepth lateDepth depth : Nat} (earlyLow : expr.height ≤ earlyDepth)
    (lateLow : expr.height ≤ lateDepth) (low : expr.height ≤ depth)
    (stageable : expr.Stageable early.map late.map)
    (aligned : expr.Aligned offsets early.map late.map) :
    late.substitute depth offsets.once expr = none ↔
      early.substitute earlyDepth offsets.early expr = none ∧
        late.substitute lateDepth offsets.late expr = none := by
  induction expr using Expr.induction generalizing earlyDepth lateDepth depth with
  | step form template ih =>
    cases earlyDepth with
    | zero => exact absurd earlyLow (Nat.not_le_of_lt (Expr.height_pos _))
    | succ earlyDepth =>
    cases lateDepth with
    | zero => exact absurd lateLow (Nat.not_le_of_lt (Expr.height_pos _))
    | succ lateDepth =>
    cases depth with
    | zero => exact absurd low (Nat.not_le_of_lt (Expr.height_pos _))
    | succ depth =>
    cases mentions : (Expr.node form template).mentionsParameter with
    | false =>
      have spared (work : Instantiation) (unspecialized : work.within = none) :
          work.spares (.node form template) = true := by
        rw [spares_eq unspecialized, mentions]
        rfl
      simp only [substitute_of_spares (spared late lateUnspecialized),
        substitute_of_spares (spared early earlyUnspecialized), and_self]
    | true =>
      have below {offset : Option Nat} (keeps : form.Keeps late offset) (child : Expr)
          (member : child ∈ form.children) :=
        ih child member (Expr.height_child_le earlyLow child member)
          (Expr.height_child_le lateLow child member) (Expr.height_child_le low child member)
          (stageable.child member)
          (aligned_children extends_ stageable aligned keeps child member)
      rw [substitute_eq_none_iff lateUnspecialized mentions,
        substitute_eq_none_iff earlyUnspecialized mentions,
        substitute_eq_none_iff lateUnspecialized mentions]
      constructor
      · rintro ⟨keeps, kept⟩
        obtain ⟨earlyKeeps, lateKeeps⟩ := (keeps_staged extends_ closed stageable aligned).mp keeps
        have both := fun child member => (below keeps child member).mp (kept child member)
        exact ⟨⟨earlyKeeps, fun child member => (both child member).1⟩,
          lateKeeps, fun child member => (both child member).2⟩
      · rintro ⟨⟨earlyKeeps, earlyKept⟩, lateKeeps, lateKept⟩
        exact ⟨(keeps_staged extends_ closed stageable aligned).mpr ⟨earlyKeeps, lateKeeps⟩,
          fun child member => (below lateKeeps child member).mpr
            ⟨earlyKept child member, lateKept child member⟩⟩

end Instantiation

end ConstExpr
