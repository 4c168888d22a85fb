import ConstExpr.Proofs.Instantiate.Forms

/-!
# Template definitions of instantiated trees

A node that is derived stays in the template definition of its origin, or else takes on that of a
child. In a tree that is put together node by node the children of a node outside of all template
definitions are outside, too, and what becomes of them is, so a derived node is never taken into one
(`Expr.Reformed.exact`, `Instantiation.outside`). The invalid expression is not derived: a node that
becomes it leaves its template definition, and no other node does (`instantiate_keeps_template`).
-/
namespace ConstExpr

namespace Expr

variable {result : Expr} {form : Form Expr} {template : Option TemplateId}

/-- A node that is reformed stays in its template definition, if it takes on none from its
children. -/
theorem Reformed.exact {form' : Form Expr} (reformed : (node form template).Reformed form' result)
    (coherent : template = none → ∀ child ∈ form'.children, child.template = none) :
    result = node form' template := by
  rcases reformed with rfl | ⟨rfl, same⟩
  · exact derive_eq coherent
  · rw [← same]
    rfl

/-- A node without children that is derived where something changed stays in its template
definition. -/
theorem template_deriveIf {origin : Expr} {changed : Bool} (leaf : form.children = []) :
    ((origin.deriveIf changed form).getD origin).template = origin.template := by
  cases changed with
  | false => rfl
  | true =>
    rw [deriveIf, if_pos rfl, Option.getD_some, derive_leaf leaf]
    rfl

end Expr

namespace Instantiation

variable {work : Instantiation} {depth : Nat} {offset : Option Nat} {expr : Expr}

/-- Trees outside of all template definitions become such trees. -/
def Outside (work : Instantiation) (depth : Nat) : Prop :=
  ∀ {offset : Option Nat} {expr : Expr}, expr.Built → expr.template = none →
    (expr.instantiate work depth offset).template = none

/-- What takes the place of an element outside of all template definitions is outside, too. -/
theorem Outside.listed (outside : work.Outside depth) {element : Expr} (built : element.Built)
    (absent : element.template = none) :
    ∀ result ∈ work.listed depth offset element, result.template = none := by
  have spec := work.listed_spec depth offset element
  generalize work.listed depth offset element = results at spec ⊢
  cases spec with
  | plain | deferred => exact List.forall_mem_singleton.mpr (outside built absent)
  | @expanded pattern template size sized =>
    obtain ⟨builtChildren, coherent⟩ := Expr.built_node.mp built
    have member := List.mem_singleton_self pattern
    exact List.forall_mem_map.mpr fun place _ =>
      outside (builtChildren pattern member) (coherent absent pattern member)
  | invalid => exact List.forall_mem_singleton.mpr rfl

/-- The children of a node outside of all template definitions become trees outside of them. -/
theorem Outside.children (outside : work.Outside depth) {form : Form Expr}
    {template : Option TemplateId} (built : (Expr.node form template).Built)
    (absent : template = none) :
    ∀ child ∈ (form.instantiated work depth offset).children, child.template = none := by
  obtain ⟨builtChildren, coherent⟩ := Expr.built_node.mp built
  intro result member
  rcases Form.mem_children_instantiated.mp member with ⟨child, among, rfl⟩ | ⟨child, among, inPlace⟩
  · have below := Form.mem_children.mpr (.inl among)
    exact outside (builtChildren child below) (coherent absent child below)
  · have below := Form.mem_children.mpr (.inr among)
    exact outside.listed (builtChildren child below) (coherent absent child below) result inPlace

/-- An overload set that is reduced stays in its template definition. -/
theorem template_narrow (work : Instantiation) (callee : Expr) (arguments : List Expr) :
    (work.narrow callee arguments).template = callee.template := by
  have spec := work.narrow_spec callee arguments
  generalize work.narrow callee arguments = reduced at spec ⊢
  cases spec <;> rfl

/-- The parts of a call become trees outside of all template definitions. -/
theorem Outside.children_narrow (outside : work.Outside depth) {callee : Expr}
    {arguments : List Expr} {template : Option TemplateId}
    (built : (Expr.node (.call callee arguments) template).Built) (absent : template = none) :
    ∀ child ∈ (Form.call (work.narrow (callee.instantiate work depth offset)
      (arguments.flatMap (work.listed depth offset)))
      (arguments.flatMap (work.listed depth offset))).children, child.template = none := by
  obtain ⟨calleeOutside, argumentsOutside⟩ :=
    List.forall_mem_cons.mp (outside.children built absent)
  exact List.forall_mem_cons.mpr ⟨(work.template_narrow _ _).trans calleeOutside, argumentsOutside⟩

/-- The form is that of a node that becomes the invalid expression: a non-type parameter that is
bound to a type, or the size of no pack or of packs that do not agree. -/
def invalidatesForm (work : Instantiation) (offset : Option Nat) : Form Expr → Bool
  | .templateRef parameter _ =>
    match work.map.argument? parameter.id offset with
    | some (.type _) => true
    | _ => false
  | .unary .sizeofPack operand =>
    match operand.packSize work.map with
    | .failed | .absent => true
    | _ => false
  | _ => false

/-- The root of the tree is entered and becomes the invalid expression. -/
def invalidates (work : Instantiation) (depth : Nat) (offset : Option Nat) (expr : Expr) : Bool :=
  depth != 0 && !work.spares expr && work.invalidatesForm offset expr.form

/-- A node that stays in its form is not invalid. -/
theorem invalidatesForm_of_stable {form : Form Expr} (stable : form.IsStable work offset) :
    work.invalidatesForm offset form = false := by
  cases form with
  | templateRef parameter type =>
    have unbound : work.map.argument? parameter.id offset = none := stable
    simp only [invalidatesForm, unbound]
  | unary operator operand =>
    cases operator with
    | sizeofPack =>
      have deferred : operand.packSize work.map = .deferred := stable
      simp only [invalidatesForm, deferred]
    | _ => rfl
  | _ => rfl

/-- A node that is entered stays in its template definition, unless it becomes the invalid
expression, when the children of a node outside of all template definitions become trees outside of
them. -/
theorem Outside.template_entered (outside : work.Outside depth) (built : expr.Built)
    (entered : work.spares expr = false) :
    (expr.instantiate work (depth + 1) offset).template =
      if work.invalidatesForm offset expr.form then none else expr.template := by
  by_cases general : expr.overloadSet? ≠ none → work.specializing expr = none
  · have outcome := outcome_of_entered work depth offset entered general
    generalize expr.instantiate work (depth + 1) offset = result at outcome ⊢
    cases outcome with
    | @stable form template result stable reformed =>
      have same : result = .node (form.instantiated work depth offset) template :=
        reformed.exact (outside.children built)
      rw [same, Expr.form, invalidatesForm_of_stable stable]
      rfl
    | value replaced =>
      rw [Expr.derive_leaf rfl]
      simp only [Expr.form, invalidatesForm, replaced]
      rfl
    | mismatch replaced =>
      simp only [Expr.form, invalidatesForm, replaced]
      rfl
    | selected =>
      rw [Expr.derive_leaf rfl]
      rfl
    | measured sized =>
      rw [Expr.derive_leaf rfl]
      simp only [Expr.form, invalidatesForm, sized]
      rfl
    | unmeasured unsized =>
      rcases unsized with unsized | unsized
      all_goals
        simp only [Expr.form, invalidatesForm, unsized]
        rfl
    | call =>
      rw [Expr.derive_eq (outside.children_narrow built)]
      rfl
  · -- The names of members are replaced where they stand.
    obtain ⟨named, -⟩ := Classical.not_imp.mp general
    obtain ⟨form, template⟩ := expr
    cases form with
    | overloads set =>
      rw [instantiate_of_entered entered]
      exact Expr.template_deriveIf rfl
    | _ => exact absurd rfl named

/-- A tree outside of all template definitions stays outside. -/
theorem outside (depth : Nat) : work.Outside depth := by
  induction depth with
  | zero => exact fun _ absent => absent
  | succ depth ih =>
    intro offset expr built absent
    cases entered : work.spares expr with
    | true => rwa [instantiate_of_kept (substitute_of_spares entered)]
    | false =>
      rw [ih.template_entered built entered, absent]
      exact ite_self none

end Instantiation

/-- An instantiation keeps the template definition of a tree, be it the tree's own, that of a child
or none, with a specialization and without. Only a tree that becomes the invalid expression loses
it. -/
theorem instantiate_keeps_template {expr : Expr} (built : expr.Built) (work : Instantiation)
    (depth : Nat) (offset : Option Nat) :
    (expr.instantiate work depth offset).template =
      if work.invalidates depth offset expr then none else expr.template := by
  cases depth with
  | zero => rfl
  | succ depth =>
    cases entered : work.spares expr with
    | true =>
      have kept : expr.instantiate work (depth + 1) offset = expr :=
        Instantiation.instantiate_of_kept (Instantiation.substitute_of_spares entered)
      rw [kept, Instantiation.invalidates, entered]
      rfl
    | false =>
      have outside : work.Outside depth := Instantiation.outside depth
      rw [outside.template_entered built entered, Instantiation.invalidates, entered]
      rfl

/-- A mention of a non-type parameter in the definition of a template. -/
def templateMention : Expr :=
  .build (some ⟨3⟩) (.templateRef ⟨⟨0, 0⟩, false⟩ (.fundamental .int))

/-- The instantiation that binds the parameter to a type. -/
def mismatchingWork : Instantiation :=
  ⟨⟨[(⟨0, 0⟩, .single (.type (.fundamental .int)))]⟩, none, Table.empty.scope⟩

/-- The comma of the mention and a literal has the template definition of the mention, and within a
specialization of the template keeps it when the mention becomes the invalid expression. -/
theorem instantiate_keeps_template_of_comma :
    let comma : Expr := .of (.comma [templateMention, .int 1])
    let work : Instantiation := { mismatchingWork with within := some ⟨⟨3⟩, []⟩ }
    comma.Built ∧ comma.template = some ⟨3⟩ ∧
      (comma.instantiate work 16 none).form = .comma [.problem, .int 1] ∧
      (comma.instantiate work 16 none).template = some ⟨3⟩ := by
  intro comma work
  have built : comma.Built :=
    .build (List.forall_mem_cons.mpr ⟨.build (List.forall_mem_nil _),
      List.forall_mem_singleton.mpr (.build (List.forall_mem_nil _))⟩)
  exact ⟨built, rfl, rfl, instantiate_keeps_template built work 16 none⟩

/-- The mention itself becomes the invalid expression, which is outside of all template
definitions. -/
theorem invalid_mention_leaves_template :
    templateMention.Built ∧ templateMention.template = some ⟨3⟩ ∧
      (templateMention.instantiate mismatchingWork 16 none).template = none :=
  ⟨.build (List.forall_mem_nil _), rfl, rfl⟩

end ConstExpr
