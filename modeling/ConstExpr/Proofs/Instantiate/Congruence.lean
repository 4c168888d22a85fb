import ConstExpr.Proofs.Instantiate.Forms

/-!
# Instantiations that treat a node alike

Two instantiations may differ in their substitutions, their offsets and their points of
instantiation. What they make of a node is the same when they look up the same for it
(`Form.TreatedAlike`), reduce its overload set alike and make the same of its children
(`Instantiation.substituteNode_congr`). An induction over the depth that compares two instantiations
has only these to prove for each form.
-/
namespace ConstExpr

section Types

variable {map other : Substitution} {offset offset' : Option Nat}

/-- A type becomes the same where its parameters are replaced in the same way. -/
theorem Ty.instantiate_congr {type : Ty} (same : ∀ parameter ∈ type.parameters,
    map.argument? parameter.id offset = other.argument? parameter.id offset') :
    type.instantiate map offset = type.instantiate other offset' := by
  induction type with
  | parameter mentioned => rw [instantiate, instantiate, same mentioned (List.mem_singleton_self _)]
  | pointer _ ih | const _ ih | packExpansion _ ih | reference _ _ ih =>
    rw [instantiate, instantiate, ih same]
  | _ => rfl

/-- An argument becomes the same where its parameters are replaced in the same way. -/
theorem TemplateArgument.instantiate_congr {argument : TemplateArgument}
    (same : ∀ parameter ∈ argument.carried.parameters,
      map.argument? parameter.id offset = other.argument? parameter.id offset') :
    argument.instantiate map offset = argument.instantiate other offset' := by
  cases argument with
  | type given => exact congrArg TemplateArgument.type (Ty.instantiate_congr same)
  | nonType value given =>
    exact congrArg (TemplateArgument.nonType value) (Ty.instantiate_congr same)

/-- The arguments of an overload set become the same where each of them does. -/
theorem OverloadSet.expanded_congr {set : OverloadSet}
    (same : ∀ argument ∈ set.arguments,
      argument.expand map offset = argument.expand other offset') :
    set.expanded map offset = set.expanded other offset' := by
  obtain ⟨candidates, name, templateArguments⟩ := set
  cases templateArguments with
  | none => rfl
  | some arguments =>
    have lists : arguments.flatMap (TemplateArgument.expand map offset) =
        arguments.flatMap (TemplateArgument.expand other offset') := List.flatMap_congr same
    rw [expanded, expanded, Option.map_some, Option.map_some, lists]

end Types

/-- Two instantiations, at an offset each, look up the same for a form. -/
structure Form.TreatedAlike (early late : Instantiation) (offset offset' : Option Nat)
    (form : Form Expr) : Prop where
  /-- The parameters that the form mentions are replaced in the same way. -/
  replaced : ∀ parameter ∈ form.parameters,
    early.map.argument? parameter.id offset = late.map.argument? parameter.id offset'
  /-- The same element of a function parameter pack is selected. -/
  selected : ∀ position type isPack, form = .parameterRef position type isPack →
    early.element? offset type isPack = late.element? offset' type isPack
  /-- The template arguments of an overload set are expanded to the same. -/
  expanded : ∀ set, form = .overloads set →
    set.expanded early.map offset = set.expanded late.map offset'
  /-- The packs that are measured have the same size. -/
  measured : ∀ operand, form = .unary .sizeofPack operand →
    operand.packSize early.map = operand.packSize late.map
  /-- The pack expansions in a list have the same size. -/
  spread : ∀ element ∈ form.elements, element.isExpansion = true →
    element.packSize early.map = element.packSize late.map

namespace Instantiation

variable {early late : Instantiation} {recur recur' : Option Nat → Expr → Option Expr}
  {offset offset' : Option Nat}

/-- Lists become the same where the expansions in them have the same size, and each element and each
pattern of an expansion among them becomes the same. -/
theorem substituteList_congr {exprs : List Expr}
    (spread : ∀ element ∈ exprs, element.isExpansion = true →
      element.packSize early.map = element.packSize late.map)
    (each : ∀ element ∈ exprs, recur offset element = recur' offset' element)
    (patterns : ∀ element ∈ exprs, ∀ pattern, element.form = .expansion pattern →
      ∀ place, recur (some place) pattern = recur' (some place) pattern) :
    substituteList early recur offset exprs = substituteList late recur' offset' exprs := by
  induction exprs with
  | nil => rfl
  | cons head tail ih =>
    obtain ⟨headSpread, tailSpread⟩ := List.forall_mem_cons.mp spread
    obtain ⟨headSame, tailSame⟩ := List.forall_mem_cons.mp each
    obtain ⟨headPattern, tailPatterns⟩ := List.forall_mem_cons.mp patterns
    have element : substituteElement early recur offset head =
        substituteElement late recur' offset' head := by
      unfold substituteElement
      cases isForm : head.form with
      | expansion pattern =>
        have expansion : head.isExpansion = true := by rw [Expr.isExpansion, isForm]
        simp only [headSame, headSpread expansion, headPattern pattern isForm]
      | _ => simp only [headSame]
    rw [substituteList, substituteList, element, ih tailSpread tailSame tailPatterns]

/-- Two instantiations that treat a form alike make the same of a node of the form, if they make the
same of its children. -/
theorem substituteNode_congr {form : Form Expr} {template : Option TemplateId}
    (sameWithin : early.within = late.within)
    (alike : form.TreatedAlike early late offset offset')
    (narrows : ∀ callee arguments, form = .call callee arguments →
      early.narrow ((recur' offset' callee).getD callee) =
        late.narrow ((recur' offset' callee).getD callee))
    (children : ∀ child ∈ form.children, recur offset child = recur' offset' child)
    (patterns : ∀ element ∈ form.elements, ∀ pattern, element.form = .expansion pattern →
      ∀ place, recur (some place) pattern = recur' (some place) pattern) :
    substituteNode early recur offset (.node form template) =
      substituteNode late recur' offset' (.node form template) := by
  have types : ∀ type ∈ form.types,
      type.instantiate early.map offset = type.instantiate late.map offset' :=
    fun type carried => Ty.instantiate_congr fun parameter mentioned =>
      alike.replaced parameter (List.mem_flatMap.mpr ⟨type, carried, mentioned⟩)
  have lists : substituteList early recur offset form.elements =
      substituteList late recur' offset' form.elements :=
    substituteList_congr alike.spread
      (fun element member => children element (Form.mem_children.mpr (.inr member))) patterns
  cases form with
  | templateRef parameter type =>
    have replaced := alike.replaced parameter
      (List.mem_flatMap.mpr ⟨_, List.mem_cons_self, List.mem_singleton_self _⟩)
    have typeSame := types type (List.mem_cons_of_mem _ (List.mem_singleton_self type))
    simp only [substituteNode, Expr.form, substituteTemplateRef, substituteType, replaced, typeSame]
  | parameterRef position type isPack =>
    have typeSame := types type (List.mem_singleton_self type)
    simp only [substituteNode, Expr.form, substituteParameterRef, substituteType, typeSame,
      alike.selected position type isPack rfl]
  | overloads set =>
    have arguments := congrArg OverloadSet.templateArguments (alike.expanded set rfl)
    simp only [OverloadSet.expanded] at arguments
    simp only [substituteNode, Expr.form, substituteOverloads, specializing, sameWithin, arguments]
  | unary operator operand =>
    have same := children operand (List.mem_singleton_self operand)
    cases operator with
    | sizeofPack =>
      simp only [substituteNode, Expr.form, substituteSizeofPack, same, alike.measured operand rfl]
    | _ => simp only [substituteNode, Expr.form, same]
  | call callee arguments =>
    have calleeSame := children callee List.mem_cons_self
    have reduces := narrows callee arguments rfl
    simp only [Form.elements] at lists
    simp only [substituteNode, Expr.form, substituteCall, calleeSame, lists]
    generalize recur' offset' callee = callee' at reduces ⊢
    split
    · rfl
    · rw [reduces]
  | _ =>
    simp only [Form.types, Form.children, Form.elements, List.forall_mem_cons]
      at types children lists
    simp only [substituteNode, Expr.form, substituteType, types, children, lists]

end Instantiation

end ConstExpr
