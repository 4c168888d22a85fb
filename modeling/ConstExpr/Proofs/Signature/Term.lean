import ConstExpr.Proofs.Signature.Separation
import ConstExpr.Signature.Term

/-!
# Separation of types, values and template arguments

A term fits when each of its numbers fits the field that it is written in: identifiers and
lengths have 64 bits, integers are those of 128 bits of two's complement. The encodings of terms
that fit tell them apart.
-/
namespace ConstExpr

open Canonical

/-- The number of the function fits its field. -/
def FunctionId.Fits (function : FunctionId) : Prop := function.index < sizeBound

/-- The number of the variable fits its field. -/
def VariableId.Fits (id : VariableId) : Prop := id.index < sizeBound

/-- The number of the template definition fits its field. -/
def TemplateId.Fits (template : TemplateId) : Prop := template.index < sizeBound

/-- The depth and the index of the parameter mentioned fit their fields. -/
def TemplateParameter.Fits (parameter : TemplateParameter) : Prop :=
  parameter.id.depth < sizeBound ∧ parameter.id.index < sizeBound

/-- The numbers in the type fit their fields. -/
def Ty.Fits : Ty → Prop
  | fundamental _ | initializerList | functionSet | problem => True
  | pointer inner | const inner | reference _ inner | packExpansion inner => inner.Fits
  | parameter mentioned => mentioned.Fits
  | dependentExpression expression => expression.bytes.length < sizeBound

/-- The integers in the value have 128 bits, and its lists are not too long. -/
inductive Value.Fits : Value → Prop where
  | integral {value : Int} : IsMachineWord value → Fits (.integral value)
  | composite {elements : List Value} : elements.length < sizeBound →
      (∀ element ∈ elements, Fits element) → Fits (.composite elements)
  | dependent : Fits .dependent
  | unknown : Fits .unknown

/-- The numbers in the argument fit their fields. -/
def TemplateArgument.Fits : TemplateArgument → Prop
  | type given => given.Fits
  | nonType value given => value.Fits ∧ given.Fits

/-- Functions are told apart by their numbers. -/
theorem FunctionId.separates {left right : FunctionId} (leftFits : left.Fits)
    (rightFits : right.Fits) : Separates write left right := by
  intro rest rest' equal
  obtain ⟨index, remaining⟩ := word_separates leftFits rightFits _ _ equal
  exact ⟨congrArg FunctionId.mk index, remaining⟩

/-- Variables are told apart by their numbers. -/
theorem VariableId.separates {left right : VariableId} (leftFits : left.Fits)
    (rightFits : right.Fits) : Separates write left right := by
  intro rest rest' equal
  obtain ⟨index, remaining⟩ := word_separates leftFits rightFits _ _ equal
  exact ⟨congrArg VariableId.mk index, remaining⟩

/-- Template definitions are told apart by their numbers. -/
theorem TemplateId.separates {left right : TemplateId} (leftFits : left.Fits)
    (rightFits : right.Fits) : Separates write left right := by
  intro rest rest' equal
  obtain ⟨index, remaining⟩ := word_separates leftFits rightFits _ _ equal
  exact ⟨congrArg TemplateId.mk index, remaining⟩

/-- Mentions of parameters are told apart by depth, index and kind. -/
theorem TemplateParameter.separates {left right : TemplateParameter} (leftFits : left.Fits)
    (rightFits : right.Fits) : Separates write left right := by
  intro rest rest' equal
  obtain ⟨⟨depth, index⟩, isPack⟩ := left
  obtain ⟨⟨depth', index'⟩, isPack'⟩ := right
  obtain ⟨rfl, equal⟩ := word_separates leftFits.1 rightFits.1 _ _ equal
  obtain ⟨rfl, equal⟩ := word_separates leftFits.2 rightFits.2 _ _ equal
  obtain ⟨rfl, remaining⟩ := bool_separates _ _ _ _ equal
  exact ⟨rfl, remaining⟩

/-- Categories are told apart by their tags. -/
theorem Category.separates (left right : Category) : Separates write left right := by
  intro rest rest' equal
  cases left <;> cases right <;> simp_all [write, tag]

/-- Fundamental types are told apart by their tags. -/
theorem Fundamental.separates (left right : Fundamental) : Separates write left right := by
  intro rest rest' equal
  cases left <;> cases right <;> simp_all [write, tag]

/-- The reference kind is part of the tag of a reference. -/
theorem Ty.write_reference (kind : ReferenceKind) (referee : Ty) (rest : List UInt8) :
    (Ty.reference kind referee).write rest =
      tag (match kind with | .lvalue => 2 | .rvalue => 3) (referee.write rest) := by
  cases kind <;> rfl

/-- Types that fit are told apart by their encodings. -/
theorem Ty.separates (left right : Ty) (leftFits : left.Fits) (rightFits : right.Fits) :
    Separates Ty.write left right := by
  intro rest rest' equal
  induction left generalizing right rest rest' with
  | fundamental type =>
    cases right with
    | fundamental type' =>
      obtain ⟨rfl, remaining⟩ := Fundamental.separates _ _ _ _ (tag_inj.mp equal).2
      exact ⟨rfl, remaining⟩
    | reference kind => cases kind <;> simp [Ty.write, tag] at equal
    | _ => simp [Ty.write, tag] at equal
  | pointer inner ih =>
    cases right with
    | pointer inner' =>
      obtain ⟨rfl, remaining⟩ := ih inner' leftFits rightFits _ _ (tag_inj.mp equal).2
      exact ⟨rfl, remaining⟩
    | reference kind => cases kind <;> simp [Ty.write, tag] at equal
    | _ => simp [Ty.write, tag] at equal
  | reference kind inner ih =>
    rw [write_reference] at equal
    cases right with
    | reference kind' inner' =>
      rw [write_reference, tag_inj] at equal
      obtain ⟨kinds, equal⟩ := equal
      obtain ⟨rfl, remaining⟩ := ih inner' leftFits rightFits _ _ equal
      cases kind <;> cases kind' <;> simp_all
    | _ => cases kind <;> simp [Ty.write, tag] at equal
  | const inner ih =>
    cases right with
    | const inner' =>
      obtain ⟨rfl, remaining⟩ := ih inner' leftFits rightFits _ _ (tag_inj.mp equal).2
      exact ⟨rfl, remaining⟩
    | reference kind => cases kind <;> simp [Ty.write, tag] at equal
    | _ => simp [Ty.write, tag] at equal
  | parameter mentioned =>
    cases right with
    | parameter mentioned' =>
      obtain ⟨rfl, remaining⟩ :=
        TemplateParameter.separates leftFits rightFits _ _ (tag_inj.mp equal).2
      exact ⟨rfl, remaining⟩
    | reference kind => cases kind <;> simp [Ty.write, tag] at equal
    | _ => simp [Ty.write, tag] at equal
  | packExpansion inner ih =>
    cases right with
    | packExpansion inner' =>
      obtain ⟨rfl, remaining⟩ := ih inner' leftFits rightFits _ _ (tag_inj.mp equal).2
      exact ⟨rfl, remaining⟩
    | reference kind => cases kind <;> simp [Ty.write, tag] at equal
    | _ => simp [Ty.write, tag] at equal
  | dependentExpression expression =>
    cases right with
    | dependentExpression expression' =>
      obtain ⟨content, remaining⟩ := bytes_separates leftFits rightFits _ _ (tag_inj.mp equal).2
      exact ⟨congrArg (dependentExpression ⟨·⟩) content, remaining⟩
    | reference kind => cases kind <;> simp [Ty.write, tag] at equal
    | _ => simp [Ty.write, tag] at equal
  | initializerList | functionSet | problem =>
    cases right with
    | reference kind => cases kind <;> simp [Ty.write, tag] at equal
    | _ => simp_all [Ty.write, tag]

/-- Values are written one after the other by writing each. -/
theorem Value.writeAll_eq_foldr (elements : List Value) (rest : List UInt8) :
    Value.writeAll elements rest = elements.foldr Value.write rest := by
  induction elements with
  | nil => rfl
  | cons element elements ih => rw [Value.writeAll, ih, List.foldr_cons]

/-- Values that fit are told apart by their encodings. -/
theorem Value.separates {left right : Value} (leftFits : left.Fits) (rightFits : right.Fits) :
    Separates Value.write left right := by
  intro rest rest' equal
  induction leftFits generalizing right rest rest' with
  | integral leftWord =>
    cases rightFits with
    | integral rightWord =>
      obtain ⟨rfl, remaining⟩ := integer_separates leftWord rightWord _ _ (tag_inj.mp equal).2
      exact ⟨rfl, remaining⟩
    | _ => simp [Value.write, tag] at equal
  | composite leftShort leftElements ih =>
    cases rightFits with
    | composite rightShort rightElements =>
      simp only [Value.write, Value.writeAll_eq_foldr, tag_inj] at equal
      obtain ⟨rfl, remaining⟩ := counted_separates leftShort rightShort
        (fun first inLeft second inRight _ _ => ih first inLeft (rightElements second inRight) _ _)
        _ _ equal.2
      exact ⟨rfl, remaining⟩
    | _ => simp [Value.write, tag] at equal
  | dependent | unknown => cases rightFits <;> simp_all [Value.write, tag]

/-- Template arguments that fit are told apart by their encodings. -/
theorem TemplateArgument.separates {left right : TemplateArgument} (leftFits : left.Fits)
    (rightFits : right.Fits) : Separates write left right := by
  intro rest rest' equal
  cases left with
  | type given =>
    cases right with
    | type given' =>
      obtain ⟨rfl, remaining⟩ :=
        Ty.separates given given' leftFits rightFits _ _ (tag_inj.mp equal).2
      exact ⟨rfl, remaining⟩
    | nonType value' given' => simp [write, tag] at equal
  | nonType value given =>
    cases right with
    | type given' => simp [write, tag] at equal
    | nonType value' given' =>
      obtain ⟨rfl, types⟩ :=
        Value.separates leftFits.1 rightFits.1 _ _ (tag_inj.mp equal).2
      obtain ⟨rfl, remaining⟩ := Ty.separates given given' leftFits.2 rightFits.2 _ _ types
      exact ⟨rfl, remaining⟩

end ConstExpr
