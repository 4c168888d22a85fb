import ConstExpr.Proofs.Typing

/-!
# Nodes of trees

The nodes that a tree contains, the number of its levels, and the trees that are put together node
by node. A property of all trees follows when it goes from the children of a node up to the node
(`Expr.induction`).
-/
namespace ConstExpr

namespace Form

variable {α : Type}

/-- The children that are elements of a list, in whose place a pack expansion spreads. -/
def elements : Form α → List α
  | comma operands => operands
  | call _ arguments => arguments
  | braced clauses => clauses
  | construct _ arguments => arguments
  | _ => []

/-- The children that are not elements of a list. -/
def operands : Form α → List α
  | unary _ operand => [operand]
  | binary _ left right => [left, right]
  | conditional condition positive negative => [condition, positive, negative]
  | call callee _ => [callee]
  | expansion pattern => [pattern]
  | _ => []

/-- The elements of a list come after the other children. -/
theorem children_eq (form : Form α) : form.children = form.operands ++ form.elements := by
  cases form <;> rfl

/-- The children are those outside of lists and the elements of lists. -/
theorem mem_children {form : Form α} {child : α} :
    child ∈ form.children ↔ child ∈ form.operands ∨ child ∈ form.elements := by
  rw [children_eq, List.mem_append]

end Form

namespace Expr

/-- Induction over trees, from the children of a node up to the node. -/
@[elab_as_elim]
theorem induction {motive : Expr → Prop}
    (step : ∀ (form : Form Expr) (template : Option TemplateId),
      (∀ child ∈ form.children, motive child) → motive (node form template))
    (expr : Expr) : motive expr := by
  -- The recursor goes through forms and lists: of those the property is asked of all the trees in
  -- them.
  refine @Expr.rec motive (fun form => ∀ child ∈ form.children, motive child)
    (fun exprs => ∀ expr ∈ exprs, motive expr) step
    ?_ ?_ ?_ ?_ ?_ ?_ ?_ ?_ ?_ ?_ ?_ ?_ ?_ ?_ ?_ ?_ expr
  all_goals simp +contextual [Form.children]

mutual

/-- The number of levels of a tree. -/
def height : Expr → Nat
  | node form _ => heightBelow form + 1

/-- The number of levels below a node of the given form. -/
def heightBelow : Form Expr → Nat
  | .fixed .. | .templateRef .. | .parameterRef .. | .variableRef .. | .typeTrait ..
  | .overloads _ => 0
  | .unary _ operand => height operand
  | .binary _ left right => max (height left) (height right)
  | .conditional condition positive negative =>
    max (height condition) (max (height positive) (height negative))
  | .comma operands => heightOf operands
  | .call callee arguments => max (height callee) (heightOf arguments)
  | .braced clauses => heightOf clauses
  | .construct _ arguments => heightOf arguments
  | .expansion pattern => height pattern

/-- The number of levels of the highest tree of a list. -/
def heightOf : List Expr → Nat
  | [] => 0
  | expr :: exprs => max (height expr) (heightOf exprs)

end

/-- The levels below a node are those of its highest child. -/
theorem heightBelow_eq (form : Form Expr) : heightBelow form = heightOf form.children := by
  cases form <;> simp [heightBelow, Form.children, heightOf]

/-- No tree of a list is higher than the highest one. -/
theorem height_le_heightOf {exprs : List Expr} {expr : Expr} (member : expr ∈ exprs) :
    expr.height ≤ heightOf exprs := by
  induction exprs with
  | nil => contradiction
  | cons head tail ih =>
    rw [heightOf]
    cases member with
    | head => exact Nat.le_max_left _ _
    | tail _ inTail => exact Nat.le_trans (ih inTail) (Nat.le_max_right _ _)

/-- A child has fewer levels than its node. -/
theorem height_child_lt {form : Form Expr} {template : Option TemplateId} {child : Expr}
    (member : child ∈ form.children) : child.height < (node form template).height := by
  rw [height, heightBelow_eq]
  exact Nat.lt_succ_of_le (height_le_heightOf member)

/-- The children of a node have at most as many levels as there are below the node. -/
theorem height_child_le {form : Form Expr} {template : Option TemplateId} {bound : Nat}
    (low : (node form template).height ≤ bound + 1) :
    ∀ child ∈ form.children, child.height ≤ bound :=
  fun _ member => Nat.le_of_lt_succ (Nat.lt_of_lt_of_le (height_child_lt member) low)

/-- Every tree has a level. -/
theorem height_pos (expr : Expr) : 0 < expr.height := by
  cases expr
  rw [height]
  exact Nat.succ_pos _

/-- A tree contains its root and all nodes below it. -/
inductive Contains : Expr → Expr → Prop where
  /-- The root. -/
  | root (expr : Expr) : Contains expr expr
  /-- A node that a child of the root contains. -/
  | child {form : Form Expr} {template : Option TemplateId} {child part : Expr}
    (member : child ∈ form.children) (inside : Contains child part) :
    Contains (node form template) part

/-- A tree contains the nodes of the trees that it contains. -/
theorem Contains.trans {expr middle part : Expr} (outer : expr.Contains middle)
    (inner : middle.Contains part) : expr.Contains part := by
  induction outer with
  | root => exact inner
  | child member _ ih => exact .child member (ih inner)

/-- Every node of the tree has a form with the property. -/
def Every (property : Form Expr → Prop) (expr : Expr) : Prop :=
  ∀ part, expr.Contains part → property part.form

section Every

variable {property : Form Expr → Prop} {form : Form Expr} {template : Option TemplateId}
  {expr part : Expr}

/-- A property of every node of a tree is one of its root. -/
theorem Every.root (every : (node form template).Every property) : property form :=
  every _ (.root _)

/-- A property of every node of a tree is one of every node of its children. -/
theorem Every.child (every : (node form template).Every property) {child : Expr}
    (member : child ∈ form.children) : child.Every property :=
  fun part inside => every part (.child member inside)

/-- A property of every node of a tree is one of its root and of every node of its children. -/
theorem every_node : (node form template).Every property ↔
    property form ∧ ∀ child ∈ form.children, child.Every property := by
  refine ⟨fun every => ⟨every.root, fun _ => every.child⟩, ?_⟩
  rintro ⟨own, below⟩ part inside
  cases inside with
  | root => exact own
  | child member inside => exact below _ member part inside

/-- A node has a form with a property below it when a child has one in it. -/
theorem anyForm_of_child {test : Form Expr → Bool} (member : part ∈ form.children)
    (found : part.anyForm test = true) : (node form template).anyForm test = true := by
  rw [anyForm_eq, Bool.or_eq_true, List.any_eq_true]
  exact .inr ⟨part, member, found⟩

/-- No node of a tree that is not type-dependent is so by itself. -/
theorem every_independent (independent : expr.isTypeDependent = false) :
    expr.Every fun form => form.isTypeDependent = false := by
  induction expr using Expr.induction with
  | step form template ih =>
    obtain ⟨own, below⟩ := independent_iff.mp independent
    exact every_node.mpr ⟨own, fun child member => ih child member (below child member)⟩

/-- A tree with a node of one property has one of every property that follows from it. -/
theorem anyForm_mono {property weaker : Form Expr → Bool}
    (weakens : ∀ form, property form = true → weaker form = true)
    (found : expr.anyForm property = true) : expr.anyForm weaker = true := by
  induction expr using Expr.induction with
  | step form template ih =>
    rw [anyForm_eq, Bool.or_eq_true, List.any_eq_true] at found ⊢
    rcases found with own | ⟨child, member, below⟩
    · exact .inl (weakens form own)
    · exact .inr ⟨child, member, ih child member below⟩

/-- A type-dependent tree is value-dependent. -/
theorem isValueDependent_of_isTypeDependent (dependent : expr.isTypeDependent = true) :
    expr.isValueDependent = true :=
  anyForm_mono (fun form own => by simp [own]) dependent

end Every

section Derive

variable {origin : Expr} {form : Form Expr}

/-- A node that is derived stays in the template definition of its origin, if it takes on none from
its children. -/
theorem derive_eq
    (coherent : origin.template = none → ∀ child ∈ form.children, child.template = none) :
    origin.derive form = node form origin.template := by
  rw [derive, build]
  cases absent : origin.template with
  | some => rfl
  | none =>
    rw [List.findSome?_eq_none_iff.mpr (coherent absent)]
    rfl

/-- A node without children that is derived stays in the template definition of its origin. -/
theorem derive_leaf (leaf : form.children = []) : origin.derive form = node form origin.template :=
  derive_eq fun _ => leaf ▸ nofun

end Derive

/-- The trees that are put together node by node. -/
inductive Built : Expr → Prop where
  /-- A node whose children are put together. -/
  | build {template : Option TemplateId} {form : Form Expr}
    (children : ∀ child ∈ form.children, Built child) : Built (Expr.build template form)

/-- A tree is put together node by node exactly when its children are, and a node without a
template definition has only such children. -/
theorem built_node {form : Form Expr} {template : Option TemplateId} :
    (node form template).Built ↔ (∀ child ∈ form.children, child.Built) ∧
      (template = none → ∀ child ∈ form.children, child.template = none) := by
  constructor
  · intro built
    generalize same : node form template = expr at built
    cases built with
    | @build given form' children =>
      obtain ⟨rfl, sameTemplate⟩ := node.inj same
      refine ⟨children, fun absent => ?_⟩
      rw [absent] at sameTemplate
      cases given with
      | some => contradiction
      | none => exact List.findSome?_eq_none_iff.mp sameTemplate.symm
  · rintro ⟨children, coherent⟩
    have same : node form template = Expr.build template form := by
      cases template with
      | some => rfl
      | none =>
        rw [Expr.build, List.findSome?_eq_none_iff.mpr (coherent rfl)]
        rfl
    rw [same]
    exact .build children

end Expr

end ConstExpr
