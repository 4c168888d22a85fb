import ConstExpr.Proofs.Signature.Term
import ConstExpr.Signature.Expr

/-!
# Separation of expression trees

The encoding of a tree is told apart from that of any other tree, form by form: a form is known
from its tag, and its fields and children are read off in the order of writing. The template
definition of a node comes after all below it.
-/
namespace ConstExpr

open Canonical

/-- The numbers in an overload set fit their fields. -/
structure OverloadSet.Fits (set : OverloadSet) : Prop where
  /-- There are not too many candidates. -/
  count : set.candidates.length < sizeBound
  /-- The numbers of the candidates fit. -/
  candidates : ∀ function ∈ set.candidates, function.Fits
  /-- The name is not too long. -/
  name : set.name.utf8ByteSize < sizeBound
  /-- There are not too many template arguments, and each fits. -/
  arguments : ∀ arguments ∈ set.templateArguments,
    arguments.length < sizeBound ∧ ∀ argument ∈ arguments, argument.Fits

/-- The numbers that a form holds itself fit their fields. -/
def Form.Fits {α : Type} : Form α → Prop
  | fixed type value _ => type.Fits ∧ value.Fits
  | templateRef parameter type => parameter.Fits ∧ type.Fits
  | parameterRef position type _ => position < sizeBound ∧ type.Fits
  | variableRef id type => id.Fits ∧ type.Fits
  | unary _ _ | binary _ _ _ | conditional _ _ _ | expansion _ => True
  | typeTrait _ type => type.Fits
  | comma operands => operands.length < sizeBound
  | call _ arguments => arguments.length < sizeBound
  | overloads set => set.Fits
  | braced clauses => clauses.length < sizeBound
  | construct type arguments => type.Fits ∧ arguments.length < sizeBound

/-- The numbers in the tree fit their fields. -/
inductive Expr.Fits : Expr → Prop where
  | node {form : Form Expr} {template : Option TemplateId} : form.Fits →
      (∀ id ∈ template, id.Fits) → (∀ child ∈ form.children, Fits child) →
      Fits (.node form template)

/-- Unary operators are told apart by their tags. -/
theorem UnaryOperator.separates (left right : UnaryOperator) : Separates write left right := by
  intro rest rest' equal
  obtain ⟨tags, remaining⟩ := tag_inj.mp equal
  cases left <;> cases right <;> simp_all [UnaryOperator.tag]

/-- Arithmetic operators are told apart by their tags. -/
theorem ArithmeticOperator.separates (left right : ArithmeticOperator) :
    Separates write left right := by
  intro rest rest' equal
  obtain ⟨tags, remaining⟩ := tag_inj.mp equal
  cases left <;> cases right <;> simp_all [ArithmeticOperator.tag]

/-- Type operators are told apart by their tags. -/
theorem TypeOperator.separates (left right : TypeOperator) : Separates write left right := by
  intro rest rest' equal
  obtain ⟨tags, remaining⟩ := tag_inj.mp equal
  cases left <;> cases right <;> simp_all [TypeOperator.tag]

/-- The tags of the arithmetic operators are the lowest ones. -/
theorem ArithmeticOperator.tag_lt (operator : ArithmeticOperator) : operator.tag < 10 := by
  cases operator <;> decide

/-- A tag above those of the arithmetic operators is none of theirs. -/
theorem ArithmeticOperator.tag_ne (operator : ArithmeticOperator) {tag : UInt8}
    (above : 10 ≤ tag) : operator.tag ≠ tag := by
  rintro rfl
  exact absurd operator.tag_lt (UInt8.not_lt.mpr above)

/-- Binary operators are told apart by their tags; a compound assignment has the tag of its
arithmetic operator behind its own. -/
theorem BinaryOperator.separates (left right : BinaryOperator) : Separates write left right := by
  intro rest rest' equal
  cases left with
  | arithmetic operator =>
    cases right with
    | arithmetic operator' =>
      obtain ⟨rfl, remaining⟩ := ArithmeticOperator.separates operator operator' _ _ equal
      exact ⟨rfl, remaining⟩
    | comparison operator' =>
      cases operator' <;> exact absurd (tag_inj.mp equal).1 (operator.tag_ne (by decide))
    | _ => exact absurd (tag_inj.mp equal).1 (operator.tag_ne (by decide))
  | comparison operator =>
    cases right with
    | arithmetic operator' =>
      cases operator <;> exact absurd (tag_inj.mp equal).1.symm (operator'.tag_ne (by decide))
    | comparison operator' =>
      cases operator <;> cases operator' <;> simp_all [write, Canonical.tag]
    | _ => cases operator <;> simp_all [write, Canonical.tag]
  | logicalAnd | logicalOr | assign =>
    cases right with
    | arithmetic operator' =>
      exact absurd (tag_inj.mp equal).1.symm (operator'.tag_ne (by decide))
    | comparison operator' => cases operator' <;> simp_all [write, Canonical.tag]
    | _ => simp_all [write, Canonical.tag]
  | compoundAssign operator =>
    cases right with
    | arithmetic operator' =>
      exact absurd (tag_inj.mp equal).1.symm (operator'.tag_ne (by decide))
    | compoundAssign operator' =>
      obtain ⟨rfl, remaining⟩ :=
        ArithmeticOperator.separates operator operator' _ _ (tag_inj.mp equal).2
      exact ⟨rfl, remaining⟩
    | comparison operator' => cases operator' <;> simp_all [write, Canonical.tag]
    | _ => simp_all [write, Canonical.tag]

/-- Overload sets that fit are told apart by their candidates, name and template arguments. -/
theorem OverloadSet.separates {left right : OverloadSet} (leftFits : left.Fits)
    (rightFits : right.Fits) :
    Separates (fun set rest => Expr.writeForm (.overloads set) rest) left right := by
  intro rest rest' equal
  obtain ⟨candidates, name, templateArguments⟩ := left
  obtain ⟨candidates', name', templateArguments'⟩ := right
  obtain ⟨rfl, texts⟩ := counted_separates leftFits.count rightFits.count
    (fun first inLeft second inRight =>
      FunctionId.separates (leftFits.candidates first inLeft) (rightFits.candidates second inRight))
    _ _ (tag_inj.mp equal).2
  obtain ⟨rfl, arguments⟩ := text_separates leftFits.name rightFits.name _ _ texts
  cases templateArguments with
  | none =>
    cases templateArguments' with
    | none => exact ⟨rfl, (tag_inj.mp arguments).2⟩
    | some second => exact nomatch (tag_inj.mp arguments).1
  | some first =>
    cases templateArguments' with
    | none => exact nomatch (tag_inj.mp arguments).1
    | some second =>
      obtain ⟨leftShort, leftEach⟩ := leftFits.arguments first rfl
      obtain ⟨rightShort, rightEach⟩ := rightFits.arguments second rfl
      obtain ⟨rfl, remaining⟩ := counted_separates leftShort rightShort
        (fun one inLeft other inRight =>
          TemplateArgument.separates (leftEach one inLeft) (rightEach other inRight))
        _ _ (tag_inj.mp arguments).2
      exact ⟨rfl, remaining⟩

namespace Expr

/-- Trees are written one after the other by writing each. -/
theorem writeAll_eq_foldr (exprs : List Expr) (rest : List UInt8) :
    writeAll exprs rest = exprs.foldr write rest := by
  induction exprs with
  | nil => rfl
  | cons expr exprs ih => rw [writeAll, ih, List.foldr_cons]

/-- Lists of trees behind their number are told apart when the trees are. -/
theorem list_separates {left right : List Expr} (leftFits : left.length < sizeBound)
    (rightFits : right.length < sizeBound)
    (each : ∀ first ∈ left, ∀ second ∈ right, Separates Expr.write first second) :
    Separates (fun exprs rest => word exprs.length (writeAll exprs rest)) left right := by
  simp only [writeAll_eq_foldr]
  exact counted_separates leftFits rightFits each

/-- Forms that fit are told apart by their encodings when their children are: the tag gives the
form, and its fields follow in order. -/
theorem form_separates {left right : Form Expr} (leftFits : left.Fits) (rightFits : right.Fits)
    (children : ∀ first ∈ left.children, ∀ second ∈ right.children,
      Separates Expr.write first second) : Separates writeForm left right := by
  intro rest rest' equal
  cases left with
  | fixed type value category =>
    cases right with
    | fixed type' value' category' =>
      obtain ⟨rfl, values⟩ := type.separates type' leftFits.1 rightFits.1 _ _ (tag_inj.mp equal).2
      obtain ⟨rfl, categories⟩ := Value.separates leftFits.2 rightFits.2 _ _ values
      obtain ⟨rfl, remaining⟩ := category.separates category' _ _ categories
      exact ⟨rfl, remaining⟩
    | _ => exact nomatch (tag_inj.mp equal).1
  | templateRef parameter type =>
    cases right with
    | templateRef parameter' type' =>
      obtain ⟨rfl, types⟩ := TemplateParameter.separates leftFits.1 rightFits.1 _ _
        (tag_inj.mp (tag_inj.mp equal).2).2
      obtain ⟨rfl, remaining⟩ := type.separates type' leftFits.2 rightFits.2 _ _ types
      exact ⟨rfl, remaining⟩
    | parameterRef | variableRef => exact nomatch (tag_inj.mp (tag_inj.mp equal).2).1
    | _ => exact nomatch (tag_inj.mp equal).1
  | parameterRef position type isPack =>
    cases right with
    | parameterRef position' type' isPack' =>
      obtain ⟨rfl, types⟩ := word_separates leftFits.1 rightFits.1 _ _
        (tag_inj.mp (tag_inj.mp equal).2).2
      obtain ⟨rfl, flags⟩ := type.separates type' leftFits.2 rightFits.2 _ _ types
      obtain ⟨rfl, remaining⟩ := bool_separates isPack isPack' _ _ flags
      exact ⟨rfl, remaining⟩
    | templateRef | variableRef => exact nomatch (tag_inj.mp (tag_inj.mp equal).2).1
    | _ => exact nomatch (tag_inj.mp equal).1
  | variableRef id type =>
    cases right with
    | variableRef id' type' =>
      obtain ⟨rfl, types⟩ := VariableId.separates leftFits.1 rightFits.1 _ _
        (tag_inj.mp (tag_inj.mp equal).2).2
      obtain ⟨rfl, remaining⟩ := type.separates type' leftFits.2 rightFits.2 _ _ types
      exact ⟨rfl, remaining⟩
    | templateRef | parameterRef => exact nomatch (tag_inj.mp (tag_inj.mp equal).2).1
    | _ => exact nomatch (tag_inj.mp equal).1
  | unary operator operand =>
    cases right with
    | unary operator' operand' =>
      obtain ⟨rfl, operands⟩ := operator.separates operator' _ _ (tag_inj.mp equal).2
      obtain ⟨rfl, remaining⟩ := children operand (by simp [Form.children]) operand'
        (by simp [Form.children]) _ _ operands
      exact ⟨rfl, remaining⟩
    | _ => exact nomatch (tag_inj.mp equal).1
  | binary operator first second =>
    cases right with
    | binary operator' first' second' =>
      obtain ⟨rfl, operands⟩ := operator.separates operator' _ _ (tag_inj.mp equal).2
      obtain ⟨rfl, seconds⟩ := children first (by simp [Form.children]) first'
        (by simp [Form.children]) _ _ operands
      obtain ⟨rfl, remaining⟩ := children second (by simp [Form.children]) second'
        (by simp [Form.children]) _ _ seconds
      exact ⟨rfl, remaining⟩
    | _ => exact nomatch (tag_inj.mp equal).1
  | typeTrait operator type =>
    cases right with
    | typeTrait operator' type' =>
      obtain ⟨rfl, types⟩ := operator.separates operator' _ _ (tag_inj.mp equal).2
      obtain ⟨rfl, remaining⟩ := type.separates type' leftFits rightFits _ _ types
      exact ⟨rfl, remaining⟩
    | _ => exact nomatch (tag_inj.mp equal).1
  | conditional condition positive negative =>
    cases right with
    | conditional condition' positive' negative' =>
      obtain ⟨rfl, branches⟩ := children condition (by simp [Form.children]) condition'
        (by simp [Form.children]) _ _ (tag_inj.mp equal).2
      obtain ⟨rfl, negatives⟩ := children positive (by simp [Form.children]) positive'
        (by simp [Form.children]) _ _ branches
      obtain ⟨rfl, remaining⟩ := children negative (by simp [Form.children]) negative'
        (by simp [Form.children]) _ _ negatives
      exact ⟨rfl, remaining⟩
    | _ => exact nomatch (tag_inj.mp equal).1
  | comma operands =>
    cases right with
    | comma operands' =>
      obtain ⟨rfl, remaining⟩ := list_separates leftFits rightFits children _ _
        (tag_inj.mp equal).2
      exact ⟨rfl, remaining⟩
    | _ => exact nomatch (tag_inj.mp equal).1
  | call callee arguments =>
    cases right with
    | call callee' arguments' =>
      obtain ⟨rfl, lists⟩ := children callee (by simp [Form.children]) callee'
        (by simp [Form.children]) _ _ (tag_inj.mp equal).2
      obtain ⟨rfl, remaining⟩ := list_separates leftFits rightFits
        (fun first inLeft second inRight => children first (by simp [Form.children, inLeft]) second
          (by simp [Form.children, inRight])) _ _ lists
      exact ⟨rfl, remaining⟩
    | _ => exact nomatch (tag_inj.mp equal).1
  | overloads set =>
    cases right with
    | overloads set' =>
      obtain ⟨rfl, remaining⟩ := OverloadSet.separates leftFits rightFits _ _ equal
      exact ⟨rfl, remaining⟩
    | _ => exact nomatch (tag_inj.mp equal).1
  | braced clauses =>
    cases right with
    | braced clauses' =>
      obtain ⟨rfl, remaining⟩ := list_separates leftFits rightFits children _ _
        (tag_inj.mp equal).2
      exact ⟨rfl, remaining⟩
    | _ => exact nomatch (tag_inj.mp equal).1
  | construct type arguments =>
    cases right with
    | construct type' arguments' =>
      obtain ⟨rfl, lists⟩ := type.separates type' leftFits.1 rightFits.1 _ _ (tag_inj.mp equal).2
      obtain ⟨rfl, remaining⟩ := list_separates leftFits.2 rightFits.2 children _ _ lists
      exact ⟨rfl, remaining⟩
    | _ => exact nomatch (tag_inj.mp equal).1
  | expansion pattern =>
    cases right with
    | expansion pattern' =>
      obtain ⟨rfl, remaining⟩ := children pattern (by simp [Form.children]) pattern'
        (by simp [Form.children]) _ _ (tag_inj.mp equal).2
      exact ⟨rfl, remaining⟩
    | _ => exact nomatch (tag_inj.mp equal).1

/-- Trees that fit are told apart by their encodings. -/
theorem separates {left right : Expr} (leftFits : left.Fits) (rightFits : right.Fits) :
    Separates Expr.write left right := by
  intro rest rest' equal
  induction leftFits generalizing right rest rest' with
  | node leftForm leftTemplate leftChildren ih =>
    cases rightFits with
    | node rightForm rightTemplate rightChildren =>
      obtain ⟨rfl, templates⟩ := form_separates leftForm rightForm
        (fun first inLeft second inRight _ _ => ih first inLeft (rightChildren second inRight) _ _)
        _ _ equal
      obtain ⟨rfl, remaining⟩ := optional_separates
        (fun first inLeft second inRight =>
          TemplateId.separates (leftTemplate first inLeft) (rightTemplate second inRight))
        _ _ templates
      exact ⟨rfl, remaining⟩

end Expr

end ConstExpr
