import ConstExpr.Proofs.Instantiate.Congruence

/-!
# Elements of packs as single arguments

A pattern is instantiated once for each element of the packs that its expansion expands, with an
offset that says which element it is. To the pattern the offset is no more than a choice of
arguments: it comes to the same when each pack that has an element there is bound to that element
alone (`Substitution.select`) and there is no offset. This holds of the patterns in which nothing
but the mentions of packs asks for the offset (`Form.isPlain`); an expansion of such a pattern is the
list of what is made of the pattern under these substitutions.
-/
namespace ConstExpr

/-- A pack that has an element at the place is bound to this element alone; any other binding
stays. -/
def Bound.select (place : Nat) : Bound → Bound
  | .pack arguments =>
    match arguments[place]? with
    | some argument => .single argument
    | none => .pack arguments
  | .single argument => .single argument

namespace Substitution

/-- The substitution in which each pack that has an element at the place is bound to this element
alone. -/
def select (map : Substitution) (place : Nat) : Substitution :=
  ⟨map.entries.map fun entry => (entry.1, entry.2.select place)⟩

variable {map : Substitution} {place : Nat}

/-- What a parameter is bound to is selected from what it was bound to. -/
theorem binding?_select (parameter : ParameterId) :
    (map.select place).binding? parameter = (map.binding? parameter).map (Bound.select place) := by
  unfold binding? select
  induction map.entries with
  | nil => rfl
  | cons entry rest ih =>
    rw [List.map_cons, List.lookup_cons, List.lookup_cons]
    cases parameter == entry.1 with
    | true => rfl
    | false => exact ih

/-- The argument at an offset is the argument without one when the elements there are selected. -/
theorem argument?_select (parameter : ParameterId) :
    (map.select place).argument? parameter none = map.argument? parameter (some place) := by
  unfold argument?
  rw [binding?_select]
  cases map.binding? parameter with
  | none => rfl
  | some bound =>
    cases bound with
    | single argument => rfl
    | pack arguments =>
      simp only [Option.map_some, Bound.select, Option.bind_some]
      cases arguments[place]? <;> rfl

end Substitution

/-- A template argument that is no pack expansion becomes one argument. -/
theorem TemplateArgument.expand_of_plain {map : Substitution} {offset : Option Nat}
    {argument : TemplateArgument} (plain : argument.carried.hasExpansion = false) :
    argument.expand map offset = [argument.instantiate map offset] := by
  refine expand_of_unsized ?_
  rintro pattern size rfl
  contradiction

/-- Nothing in the form but its mentions of packs asks for the element that is being expanded: it is
no function parameter pack and no pack size, no element of its list is a pack expansion, and none of
its types has one. -/
def Form.isPlain : Form Expr → Bool
  | .parameterRef _ _ true | .unary .sizeofPack _ => false
  | form => !form.elements.any Expr.isExpansion && !form.types.any Ty.hasExpansion

/-- No element of the list of a plain form is a pack expansion, and none of its types has one. -/
theorem Form.unexpanded_of_isPlain {form : Form Expr} (plain : form.isPlain = true) :
    (∀ element ∈ form.elements, element.isExpansion = false) ∧
      ∀ type ∈ form.types, type.hasExpansion = false := by
  unfold isPlain at plain
  split at plain
  · contradiction
  · contradiction
  · simpa only [Bool.and_eq_true, Bool.not_eq_true', List.any_eq_false, Bool.not_eq_true] using plain

namespace Instantiation

variable {work : Instantiation} {place depth : Nat}

/-- The instantiation in which each pack that has an element at the place is bound to this element
alone. -/
def select (work : Instantiation) (place : Nat) : Instantiation :=
  { work with map := work.map.select place }

/-- A plain form is treated alike at an offset and without one when the elements there are
selected. -/
theorem treatedAlike_select {form : Form Expr} (plain : form.isPlain = true) :
    form.TreatedAlike work (work.select place) (some place) none where
  replaced := fun parameter _ => (Substitution.argument?_select parameter.id).symm
  selected := by
    rintro position type isPack rfl
    cases isPack with
    | true => contradiction
    | false => rfl
  expanded := by
    rintro set rfl
    refine OverloadSet.expanded_congr fun argument member => ?_
    have unexpanded : argument.carried.hasExpansion = false :=
      (Form.unexpanded_of_isPlain plain).2 _ (List.mem_map_of_mem member)
    rw [TemplateArgument.expand_of_plain unexpanded, TemplateArgument.expand_of_plain unexpanded,
      TemplateArgument.instantiate_congr fun parameter _ =>
        (Substitution.argument?_select parameter.id).symm]
    rfl
  measured := by
    rintro operand rfl
    contradiction
  spread := by
    intro element member expansion
    rw [(Form.unexpanded_of_isPlain plain).1 element member] at expansion
    contradiction

/-- Of a plain pattern the same is made at an offset as when the elements there are selected, and it
is kept in the same places. -/
theorem substitute_select {pattern : Expr} (plain : pattern.Every fun form => form.isPlain = true) :
    work.substitute depth (some place) pattern =
      (work.select place).substitute depth none pattern := by
  induction depth generalizing pattern with
  | zero => rfl
  | succ depth ih =>
    obtain ⟨form, template⟩ := pattern
    obtain ⟨own, below⟩ := Expr.every_node.mp plain
    rw [substitute, substitute]
    refine if_congr Iff.rfl rfl (substituteNode_congr rfl (treatedAlike_select own)
      (fun _ _ _ => rfl) (fun child member => ih (below child member)) ?_)
    intro element member pattern isForm
    have unexpanded := (Form.unexpanded_of_isPlain own).1 element member
    rw [Expr.isExpansion, isForm] at unexpanded
    contradiction

/-- The list of a node that is entered becomes what takes the place of its elements, one after the
other. -/
theorem elements_of_entered {form : Form Expr} {template : Option TemplateId} {offset : Option Nat}
    (entered : work.spares (.node form template) = false) (listed : form.elements ≠ []) :
    ((Expr.node form template).instantiate work (depth + 1) offset).form.elements =
      form.elements.flatMap (work.listed depth offset) := by
  have unnamed : (Expr.node form template).overloadSet? = none := by
    cases form with
    | overloads => exact absurd rfl listed
    | _ => rfl
  have outcome := work.outcome_of_entered depth offset entered fun named => absurd unnamed named
  generalize (Expr.node form template).instantiate work (depth + 1) offset = result at outcome ⊢
  cases outcome with
  | stable _ reformed => rw [reformed.form_eq, Form.elements_instantiated]
  | call => rfl
  | _ => exact absurd rfl listed

end Instantiation

/-- Expanding a pack is instantiating the pattern for each element. At an offset the same is made of
a plain pattern as without one when each pack that has an element there is bound to this element
alone. So in a list that is instantiated an expansion of such a pattern, whose packs have a number of
elements, becomes as many trees, which are made of the pattern in this way, in order and in its
place. -/
theorem expansion_elementwise (work : Instantiation) {pattern : Expr}
    (plain : pattern.Every fun form => form.isPlain = true) :
    (∀ depth place, pattern.instantiate work depth (some place) =
        pattern.instantiate (work.select place) depth none) ∧
      ∀ (form : Form Expr) (template origin : Option TemplateId) (before after : List Expr)
        (size depth : Nat) (offset : Option Nat),
        form.elements = before ++ .node (.expansion pattern) origin :: after →
        (Expr.node (.expansion pattern) origin).packSize work.map = .count size →
        ((Expr.node form template).instantiate work (depth + 1) offset).form.elements =
          before.flatMap (work.listed depth offset) ++
            (List.range size).map (fun place =>
              pattern.instantiate (work.select place) depth none) ++
            after.flatMap (work.listed depth offset) := by
  have selects (depth place : Nat) : pattern.instantiate work depth (some place) =
      pattern.instantiate (work.select place) depth none := by
    rw [Expr.instantiate, Expr.instantiate, Instantiation.substitute_select plain]
  refine ⟨selects, fun form template origin before after size depth offset split sized => ?_⟩
  have among : .node (.expansion pattern) origin ∈ form.elements := by
    rw [split]
    exact List.mem_append_right _ List.mem_cons_self
  -- The packs that are expanded make sure that the node is entered.
  obtain ⟨pack, shown⟩ := Expr.exists_shown sized
  have mentions : (Expr.node form template).mentionsParameter = true :=
    Expr.anyForm_of_child (Form.mem_children.mpr (.inr among))
      (Expr.anyForm_of_child (List.mem_singleton_self _) shown.mentionsParameter)
  have entered : work.spares (.node form template) = false := by
    rw [Instantiation.spares, mentions]
    rfl
  have elements : (List.range size).map (fun place => pattern.instantiate work depth (some place)) =
      (List.range size).map fun place => pattern.instantiate (work.select place) depth none :=
    List.map_congr_left fun place _ => selects depth place
  rw [Instantiation.elements_of_entered entered (List.ne_nil_of_mem among), split,
    List.flatMap_append, List.flatMap_cons, Instantiation.listed_of_count sized, elements,
    List.append_assoc]

/-- The expansion of `N + 1` for the values 1 and 2 of the pack `N`, between the literals 0 and
9. -/
theorem expansion_elementwise_of_sum :
    let sum (left : Expr) : Expr := .of (.binary (.arithmetic .add) left (.int 1))
    let pattern := sum (.of (.templateRef ⟨⟨0, 0⟩, true⟩ (.fundamental .int)))
    let value (number : Int) : TemplateArgument := .nonType (.integral number) (.fundamental .int)
    let work : Instantiation :=
      ⟨⟨[(⟨0, 0⟩, .pack [value 1, value 2])]⟩, none, Table.empty.scope⟩
    (pattern.Every fun form => form.isPlain = true) ∧
      (Expr.of (.expansion pattern)).packSize work.map = .count 2 ∧
      ((Expr.of (.comma [.int 0, .of (.expansion pattern), .int 9])).instantiate work 3
          none).form.elements = [.int 0, sum (.int 1), sum (.int 2), .int 9] := by
  intro sum pattern value work
  have plain : pattern.Every fun form => form.isPlain = true :=
    Expr.every_node.mpr ⟨rfl, List.forall_mem_cons.mpr
      ⟨Expr.every_node.mpr ⟨rfl, List.forall_mem_nil _⟩, List.forall_mem_singleton.mpr
        (Expr.every_node.mpr ⟨rfl, List.forall_mem_nil _⟩)⟩⟩
  refine ⟨plain, rfl, ?_⟩
  exact (expansion_elementwise work plain).2 _ none none [.int 0] [.int 9] 2 2 none rfl rfl

end ConstExpr
