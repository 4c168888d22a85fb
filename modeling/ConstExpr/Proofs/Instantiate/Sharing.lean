import ConstExpr.Proofs.Instantiate.Kept

/-!
# Trees that are shared

An instantiation builds no tree anew that comes out equal: a tree is kept as it is exactly when its
instantiation is the tree itself (`Instantiation.kept_iff_same`), within a specialization as well as
outside of one, and whatever the parameters are bound to. What is built anew differs in its form
already, also where expansions in a list spread to as many elements as there were.
-/
namespace ConstExpr

namespace Instantiation

variable {work : Instantiation} {depth : Nat} {offset : Option Nat}

/-- A node that is derived where something changed has another form than its origin, if the change
is one of the form. -/
theorem deriveIf_moves {origin changed : Expr} {differs : Bool} {form : Form Expr}
    (moves : differs = true → form ≠ origin.form)
    (built : origin.deriveIf differs form = some changed) : changed.form ≠ origin.form := by
  cases differs with
  | false => contradiction
  | true =>
    cases built
    exact moves rfl

/-- A node that is derived where its type changed has another form than its origin. -/
theorem retyped_moves {origin changed : Expr} {before after : Ty} (rebuild : Ty → Form Expr)
    (same : origin.form = rebuild before)
    (injective : ∀ left right, rebuild left = rebuild right → left = right)
    (built : origin.deriveIf (after != before) (rebuild after) = some changed) :
    changed.form ≠ origin.form :=
  deriveIf_moves (fun differs equal =>
    bne_iff_ne.mp differs (injective after before (equal.trans same))) built

/-- A node that is derived where a part changed has another form than its origin, when a part that
changes differs. -/
theorem rebuilt_moves {α : Type} {origin changed : Expr} {part : α} {change : Option α}
    (rebuild : α → Form Expr) (same : origin.form = rebuild part)
    (injective : ∀ left right, rebuild left = rebuild right → left = right)
    (moves : ∀ part', change = some part' → part' ≠ part)
    (built : (change.map fun part => origin.derive (rebuild part)) = some changed) :
    changed.form ≠ origin.form := by
  obtain ⟨part', found, rfl⟩ := Option.map_eq_some_iff.mp built
  rw [same]
  exact fun equal => moves part' found (injective part' part equal)

/-- A part that is put in its own place has not changed, when a part that changes differs. -/
theorem isSome_eq_false_of_getD {α : Type} {part : α} {change : Option α}
    (moves : ∀ part', change = some part' → part' ≠ part) (same : change.getD part = part) :
    change.isSome = false := by
  cases change with
  | none => rfl
  | some part' => exact absurd same (moves part' rfl)

/-- What takes the place of an element holds one expansion if the element is a deferred expansion,
and none otherwise. -/
theorem countP_listed (element : Expr) :
    (work.listed depth offset element).countP Expr.isExpansion =
      if element.isExpansion = true ∧ element.packSize work.map = .deferred then 1 else 0 := by
  have spec := work.listed_spec depth offset element
  generalize work.listed depth offset element = results at spec ⊢
  have one (template : Option TemplateId) (pattern : Expr) :
      (Expr.node (.expansion pattern) template).isExpansion = true := rfl
  cases spec with
  | plain plain => simp [isExpansion_instantiate, plain]
  | @deferred pattern template deferred =>
    have deferring : (Expr.node (.expansion pattern) template).packSize work.map = .deferred :=
      deferred
    simp [isExpansion_instantiate, one, deferring]
  | @expanded pattern template size sized =>
    -- An expansion shows no pack, so that a pattern of known size is none.
    have plain : pattern.isExpansion = false := Expr.plain_of_count sized
    have settled : (Expr.node (.expansion pattern) template).packSize work.map = .count size :=
      sized
    simp [List.countP_eq_zero, isExpansion_instantiate, plain, settled]
  | @invalid pattern template unsized =>
    have settled : (Expr.node (.expansion pattern) template).packSize work.map ≠ .deferred := by
      intro deferred
      rcases unsized with unsized | unsized <;> cases unsized.symm.trans deferred
    have none : Expr.problem.isExpansion = false := rfl
    simp [none, settled]

/-- What becomes of a list holds as many expansions as there are deferred ones in the list. -/
theorem countP_flatMap_listed (exprs : List Expr) :
    (exprs.flatMap (work.listed depth offset)).countP Expr.isExpansion =
      (exprs.filter Expr.isExpansion).countP fun element =>
        element.packSize work.map == .deferred := by
  induction exprs with
  | nil => rfl
  | cons head tail ih =>
    rw [List.flatMap_cons, List.countP_append, countP_listed, ih, List.countP_filter,
      List.countP_filter, List.countP_cons, Nat.add_comm]
    simp [and_comm]

/-- Where a list becomes the same list, what is in it becomes the same, and the expansions are
deferred. -/
theorem of_flatMap_listed_eq {exprs : List Expr}
    (same : exprs.flatMap (work.listed depth offset) = exprs) :
    (∀ element ∈ exprs, element.isExpansion = true → element.packSize work.map = .deferred) ∧
      ∀ element ∈ exprs, element.instantiate work depth offset = element := by
  have deferred : ∀ element ∈ exprs, element.isExpansion = true →
      element.packSize work.map = .deferred := by
    have all : (exprs.flatMap (work.listed depth offset)).countP Expr.isExpansion = _ :=
      countP_flatMap_listed exprs
    rw [same, List.countP_eq_length_filter, eq_comm, List.countP_eq_length] at all
    exact fun element member expansion =>
      beq_iff_eq.mp (all element (List.mem_filter.mpr ⟨member, expansion⟩))
  refine ⟨deferred, ?_⟩
  rw [List.flatMap_congr fun element member =>
    listed_of_deferring (deferred element member)] at same
  refine List.map_inj_left.mp (Eq.trans ?_ (same.trans exprs.map_id.symm))
  exact (List.flatMap_pure_eq_map _ _).symm

/-- What is built anew of a list is another list, when what is built anew of a tree is another
tree. -/
theorem substituteList_moves {exprs results : List Expr}
    (ih : ∀ expr changed, work.substitute depth offset expr = some changed → changed ≠ expr)
    (built : substituteList work (work.substitute depth) offset exprs = some results) :
    results ≠ exprs := by
  rintro rfl
  have same : (substituteList work (work.substitute depth) offset results).getD results = _ :=
    substituteList_getD results
  rw [built, Option.getD_some, eq_comm] at same
  obtain ⟨deferred, become⟩ := of_flatMap_listed_eq same
  have kept : ∀ element ∈ results, work.substitute depth offset element = none := by
    intro element member
    cases found : work.substitute depth offset element with
    | none => rfl
    | some changed =>
      have same := become element member
      rw [Expr.instantiate, found, Option.getD_some] at same
      exact absurd same (ih element changed found)
  exact Option.some_ne_none _ (built.symm.trans (substituteList_eq_none_iff.mpr ⟨deferred, kept⟩))

/-- What is built anew of a call has another form than the call: a callee of several candidates that
is reduced to one has not had one before. -/
theorem substituteCall_moves {origin callee changed : Expr} {arguments : List Expr}
    (same : origin.form = .call callee arguments)
    (ih : ∀ expr changed, work.substitute depth offset expr = some changed → changed ≠ expr)
    (built : substituteCall work (work.substitute depth) offset origin callee arguments =
      some changed) : changed.form ≠ origin.form := by
  have moved : substituteCall work (work.substitute depth) offset origin callee arguments ≠ none :=
    built ▸ Option.some_ne_none changed
  rw [substituteCall_eq_some moved, Option.some_inj] at built
  rw [same, ← built]
  intro equal
  obtain ⟨narrowed, listed⟩ := Form.call.inj equal
  have argumentsKept : substituteList work (work.substitute depth) offset arguments = none := by
    cases found : substituteList work (work.substitute depth) offset arguments with
    | none => rfl
    | some results =>
      rw [← substituteList_getD, found] at listed
      exact absurd listed (substituteList_moves ih found)
  obtain ⟨changed', calleeChanged⟩ :
      ∃ changed, work.substitute depth offset callee = some changed :=
    Option.ne_none_iff_exists'.mp fun kept =>
      moved (substituteCall_eq_none_iff.mpr ⟨kept, argumentsKept⟩)
  have become : callee.instantiate work depth offset = changed' := by
    rw [Expr.instantiate, calleeChanged, Option.getD_some]
  have spec := work.narrow_spec (callee.instantiate work depth offset)
    (arguments.flatMap (work.listed depth offset))
  rw [narrowed] at spec
  generalize found : callee.instantiate work depth offset = callee' at spec
  cases spec with
  | kept => exact ih callee changed' calleeChanged (become.symm.trans found)
  | @reduced set function template several =>
    obtain ⟨set', form, length⟩ := exists_overloads_instantiate work depth offset
      { set with candidates := [function] } template
    rw [found] at form
    obtain rfl := Form.overloads.inj form
    exact absurd several (length ▸ Nat.lt_irrefl 1)

/-- What is built anew of a node has another form than the node, when what is built anew of its
children is another tree. -/
theorem substituteNode_moves {expr changed : Expr}
    (ih : ∀ offset expr changed, work.substitute depth offset expr = some changed → changed ≠ expr)
    (built : substituteNode work (work.substitute depth) offset expr = some changed) :
    changed.form ≠ expr.form := by
  obtain ⟨form, template⟩ := expr
  have single (expr changed : Expr) (found : work.substitute depth offset expr = some changed) :=
    ih offset expr changed found
  have list (exprs results : List Expr) (found : substituteList work (work.substitute depth) offset
      exprs = some results) := substituteList_moves single found
  cases form with
  | fixed type value category =>
    exact retyped_moves (.fixed · value category) rfl (by simp) built
  | variableRef id type => exact retyped_moves (.variableRef id) rfl (by simp) built
  | typeTrait operator type => exact retyped_moves (.typeTrait operator) rfl (by simp) built
  | templateRef parameter type =>
    change work.substituteTemplateRef offset _ parameter type = _ at built
    rw [substituteTemplateRef] at built
    split at built
    · cases built
      rintro ⟨⟩
    · cases built
      rintro ⟨⟩
    · exact retyped_moves (.templateRef parameter) rfl (by simp) built
  | parameterRef position type isPack =>
    change work.substituteParameterRef offset _ position type isPack = _ at built
    rw [substituteParameterRef] at built
    cases selected : work.element? offset type isPack with
    | none =>
      rw [selected] at built
      exact retyped_moves (.parameterRef position · isPack) rfl (by simp) built
    | some place =>
      -- What is selected is no pack any more.
      rw [selected] at built
      cases built
      obtain ⟨-, rfl, -⟩ := element?_eq_some.mp selected
      exact fun equal => Bool.false_ne_true (Form.parameterRef.inj equal).2.2
  | overloads set =>
    refine deriveIf_moves (fun differs equal => bne_iff_ne.mp differs ?_) built
    exact Form.overloads.inj equal
  | unary operator operand =>
    have rebuilt (built : ((work.substitute depth offset operand).map fun operand =>
        (Expr.node (.unary operator _) template).derive (.unary operator operand)) =
          some changed) := rebuilt_moves (.unary operator) rfl (by simp) (single operand) built
    by_cases sized : operator = .sizeofPack
    · subst sized
      change substituteSizeofPack work (work.substitute depth) offset _ operand = _ at built
      rw [substituteSizeofPack] at built
      split at built
      · cases built
        rintro ⟨⟩
      · exact rebuilt built
      all_goals
        cases built
        rintro ⟨⟩
    · cases operator with
      | sizeofPack => contradiction
      | _ => exact rebuilt built
  | binary operator left right =>
    refine deriveIf_moves (fun differs equal => ?_) built
    obtain ⟨-, leftSame, rightSame⟩ := Form.binary.inj equal
    rw [isSome_eq_false_of_getD (single left) leftSame,
      isSome_eq_false_of_getD (single right) rightSame] at differs
    contradiction
  | conditional condition positive negative =>
    refine deriveIf_moves (fun differs equal => ?_) built
    obtain ⟨conditionSame, positiveSame, negativeSame⟩ := Form.conditional.inj equal
    rw [isSome_eq_false_of_getD (single condition) conditionSame,
      isSome_eq_false_of_getD (single positive) positiveSame,
      isSome_eq_false_of_getD (single negative) negativeSame] at differs
    contradiction
  | comma operands => exact rebuilt_moves .comma rfl (by simp) (list operands) built
  | call callee arguments => exact substituteCall_moves rfl single built
  | braced clauses => exact rebuilt_moves .braced rfl (by simp) (list clauses) built
  | construct type arguments =>
    refine deriveIf_moves (fun differs equal => ?_) built
    obtain ⟨typeSame, argumentsSame⟩ := Form.construct.inj equal
    rw [isSome_eq_false_of_getD (list arguments) argumentsSame, Bool.or_false] at differs
    exact bne_iff_ne.mp differs typeSame
  | expansion pattern => exact rebuilt_moves .expansion rfl (by simp) (single pattern) built

/-- What is built anew of a tree has another form than the tree. -/
theorem substitute_moves {expr changed : Expr}
    (built : work.substitute depth offset expr = some changed) : changed.form ≠ expr.form := by
  induction depth generalizing offset expr changed with
  | zero => contradiction
  | succ depth ih =>
    rw [substitute] at built
    split at built
    · contradiction
    · exact substituteNode_moves (fun offset expr changed found same =>
        ih found (congrArg Expr.form same)) built

/-- A tree is kept as it is exactly when its instantiation is the tree itself. -/
theorem kept_iff_same (work : Instantiation) (depth : Nat) (offset : Option Nat) (expr : Expr) :
    work.substitute depth offset expr = none ↔ expr.instantiate work depth offset = expr := by
  refine ⟨instantiate_of_kept, fun same => ?_⟩
  rw [Expr.instantiate] at same
  cases built : work.substitute depth offset expr with
  | none => rfl
  | some changed =>
    rw [built, Option.getD_some] at same
    exact absurd (congrArg Expr.form same) (substitute_moves built)

end Instantiation

end ConstExpr
