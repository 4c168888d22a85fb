import ConstExpr.Proofs.Signature.Expr

/-!
# Signatures as identities

Writing a term in front of other bytes puts its signature in front of them. With the separation
of terms it follows that no signature is the beginning of another one, and that signatures, and
their hexadecimal texts, are equal exactly for equal terms (`signature_identifies`).
-/
namespace ConstExpr

open Canonical

namespace Canonical

variable {α : Type}

/-- The writer puts the same bytes in front of whatever follows. -/
def Prepends (write : List UInt8 → List UInt8) : Prop :=
  ∀ front back, write (front ++ back) = write front ++ back

/-- A writer behind another one: both put their bytes in front. -/
theorem Prepends.comp {outer inner : List UInt8 → List UInt8} (first : Prepends outer)
    (second : Prepends inner) : Prepends (fun rest => outer (inner rest)) :=
  fun front back => (congrArg outer (second front back)).trans (first (inner front) back)

/-- A tag is put in front. -/
theorem tag_prepends (value : UInt8) : Prepends (tag value) := fun _ _ => rfl

/-- A truth value is put in front. -/
theorem bool_prepends (value : Bool) : Prepends (bool value) := fun _ _ => rfl

/-- The digits of a number are put in front. -/
theorem littleEndian_prepends (count value : Nat) : Prepends (littleEndian count value) := by
  intro front back
  induction count generalizing value with
  | zero => rfl
  | succ count ih => simp [littleEndian, ih]

/-- A number is put in front. -/
theorem word_prepends (value : Nat) : Prepends (word value) := littleEndian_prepends 8 value

/-- Bytes are put in front. -/
theorem bytes_prepends (value : List UInt8) : Prepends (bytes value) := by
  intro front back
  rw [bytes, ← List.append_assoc, word_prepends]
  rfl

/-- Terms are put in front, one before the other, when each is. -/
theorem foldr_prepends {write : α → List UInt8 → List UInt8} {terms : List α}
    (each : ∀ term ∈ terms, Prepends (write term)) :
    Prepends fun rest => terms.foldr write rest := by
  induction terms with
  | nil => exact fun _ _ => rfl
  | cons term terms ih =>
    exact (each term (by simp)).comp (ih fun other inTerms => each other (by simp [inTerms]))

end Canonical

/-- A fundamental type is put in front. -/
theorem Fundamental.prepends (type : Fundamental) : Prepends (write type) := by
  cases type <;> exact tag_prepends _

/-- A mention of a parameter is put in front. -/
theorem TemplateParameter.prepends (parameter : TemplateParameter) : Prepends (write parameter) :=
  (word_prepends _).comp ((word_prepends _).comp (bool_prepends _))

/-- A category is put in front. -/
theorem Category.prepends (category : Category) : Prepends (write category) := by
  cases category <;> exact tag_prepends _

/-- A type is put in front. -/
theorem Ty.prepends (type : Ty) : Prepends type.write := by
  induction type with
  | fundamental type => exact (tag_prepends 0).comp type.prepends
  | pointer inner ih => exact (tag_prepends 1).comp ih
  | reference kind inner ih => cases kind <;> exact (tag_prepends _).comp ih
  | const inner ih => exact (tag_prepends 4).comp ih
  | parameter mentioned => exact (tag_prepends 5).comp mentioned.prepends
  | packExpansion inner ih => exact (tag_prepends 6).comp ih
  | initializerList | functionSet | problem => exact tag_prepends _
  | dependentExpression expression => exact (tag_prepends 9).comp (bytes_prepends _)

mutual

/-- A value is put in front. -/
theorem Value.prepends : (value : Value) → Prepends value.write
  | .integral _ => (tag_prepends 0).comp (littleEndian_prepends 16 _)
  | .composite elements =>
    (tag_prepends 1).comp ((word_prepends _).comp (Value.all_prepends elements))
  | .dependent | .unknown => tag_prepends _

/-- Values are put in front in order. -/
theorem Value.all_prepends : (elements : List Value) → Prepends (Value.writeAll elements)
  | [] => fun _ _ => rfl
  | element :: elements => element.prepends.comp (Value.all_prepends elements)

end

/-- A template argument is put in front. -/
theorem TemplateArgument.prepends (argument : TemplateArgument) : Prepends (write argument) := by
  cases argument with
  | type given => exact (tag_prepends 0).comp given.prepends
  | nonType value given => exact (tag_prepends 1).comp (value.prepends.comp given.prepends)

/-- A binary operator is put in front. -/
theorem BinaryOperator.prepends (operator : BinaryOperator) : Prepends (write operator) := by
  cases operator with
  | comparison operator => cases operator <;> exact tag_prepends _
  | compoundAssign operator => exact (tag_prepends 19).comp (tag_prepends _)
  | _ => exact tag_prepends _

/-- An overload set is put in front. -/
theorem OverloadSet.prepends (set : OverloadSet) :
    Prepends fun rest => Expr.writeForm (.overloads set) rest := by
  obtain ⟨candidates, name, templateArguments⟩ := set
  have functions : Prepends (sequence candidates) :=
    (word_prepends _).comp (foldr_prepends fun _ _ => word_prepends _)
  cases templateArguments with
  | none =>
    exact (tag_prepends 8).comp (functions.comp ((bytes_prepends _).comp (tag_prepends 0)))
  | some arguments =>
    have given : Prepends (sequence arguments) :=
      (word_prepends _).comp (foldr_prepends fun argument _ => argument.prepends)
    exact (tag_prepends 8).comp
      (functions.comp ((bytes_prepends _).comp ((tag_prepends 1).comp given)))

mutual

/-- A tree is put in front. -/
theorem Expr.prepends : (expr : Expr) → Prepends expr.write
  | .node form none => (Expr.form_prepends form).comp (tag_prepends 0)
  | .node form (some _) =>
    (Expr.form_prepends form).comp ((tag_prepends 1).comp (word_prepends _))

/-- A form with all below it is put in front. -/
theorem Expr.form_prepends : (form : Form Expr) → Prepends (Expr.writeForm form)
  | .fixed type value category =>
    (tag_prepends 0).comp (type.prepends.comp (value.prepends.comp category.prepends))
  | .templateRef parameter type =>
    (tag_prepends 1).comp ((tag_prepends 0).comp (parameter.prepends.comp type.prepends))
  | .parameterRef _ type _ =>
    (tag_prepends 1).comp ((tag_prepends 1).comp
      ((word_prepends _).comp (type.prepends.comp (bool_prepends _))))
  | .variableRef _ type =>
    (tag_prepends 1).comp ((tag_prepends 2).comp ((word_prepends _).comp type.prepends))
  | .unary _ operand => (tag_prepends 2).comp ((tag_prepends _).comp operand.prepends)
  | .binary operator left right =>
    (tag_prepends 3).comp (operator.prepends.comp (left.prepends.comp right.prepends))
  | .typeTrait _ type => (tag_prepends 4).comp ((tag_prepends _).comp type.prepends)
  | .conditional condition positive negative =>
    (tag_prepends 5).comp
      (condition.prepends.comp (positive.prepends.comp negative.prepends))
  | .comma operands =>
    (tag_prepends 6).comp ((word_prepends _).comp (Expr.all_prepends operands))
  | .call callee arguments =>
    (tag_prepends 7).comp
      (callee.prepends.comp ((word_prepends _).comp (Expr.all_prepends arguments)))
  | .overloads set => set.prepends
  | .braced clauses =>
    (tag_prepends 9).comp ((word_prepends _).comp (Expr.all_prepends clauses))
  | .construct type arguments =>
    (tag_prepends 10).comp
      (type.prepends.comp ((word_prepends _).comp (Expr.all_prepends arguments)))
  | .expansion pattern => (tag_prepends 11).comp pattern.prepends

/-- Trees are put in front in order. -/
theorem Expr.all_prepends : (exprs : List Expr) → Prepends (Expr.writeAll exprs)
  | [] => fun _ _ => rfl
  | expr :: exprs => expr.prepends.comp (Expr.all_prepends exprs)

end

namespace Signature

/-- Different hexadecimal digits are different characters. -/
theorem hexDigit_inj {left right : Nat} (leftDigit : left < 16) (rightDigit : right < 16)
    (equal : hexDigit left = hexDigit right) : left = right := by
  have digits : ∀ first second : Fin 16, hexDigit first = hexDigit second → first = second := by
    decide
  exact congrArg Fin.val (digits ⟨left, leftDigit⟩ ⟨right, rightDigit⟩ equal)

/-- A byte is known from its two hexadecimal digits. -/
theorem byte_eq_of_digits_eq {left right : UInt8}
    (high : hexDigit (left.toNat / 16) = hexDigit (right.toNat / 16))
    (low : hexDigit (left.toNat % 16) = hexDigit (right.toNat % 16)) : left = right := by
  have leftBound := left.toNat_lt
  have rightBound := right.toNat_lt
  have highDigit := hexDigit_inj (by omega) (by omega) high
  have lowDigit := hexDigit_inj (by omega) (by omega) low
  exact UInt8.toNat_inj.mp (by omega)

/-- A signature is known from its text. -/
theorem text_inj {left right : Signature} : left.text = right.text ↔ left = right := by
  refine ⟨fun equal => ?_, congrArg text⟩
  obtain ⟨lefts⟩ := left
  obtain ⟨rights⟩ := right
  have digits := String.ofList_injective equal
  clear equal
  induction lefts generalizing rights with
  | nil =>
    cases rights with
    | nil => rfl
    | cons second rights => simp at digits
  | cons first lefts ih =>
    cases rights with
    | nil => simp at digits
    | cons second rights =>
      simp only [List.flatMap_cons, List.cons_append, List.nil_append, List.cons.injEq] at digits
      obtain ⟨high, low, others⟩ := digits
      rw [byte_eq_of_digits_eq high low, Signature.mk.inj (ih rights others)]

end Signature

/-- The signature identifies the terms of a class: none is the beginning of another one, and
signatures are equal, as bytes and as texts, exactly for equal terms. -/
structure Canonical.Identifies (α : Type) [Canonical α] (fits : α → Prop) : Prop where
  /-- Whatever follows two signatures, the bytes agree only for equal terms with equal bytes
  behind them. -/
  prefixFree : ∀ left right : α, fits left → fits right → ∀ rest rest' : List UInt8,
    (signature left).bytes ++ rest = (signature right).bytes ++ rest' →
      left = right ∧ rest = rest'
  /-- Signatures are equal exactly for equal terms. -/
  signature_eq_iff : ∀ left right : α, fits left → fits right →
    (signature left = signature right ↔ left = right)
  /-- The hexadecimal texts of signatures are equal exactly for equal terms. -/
  text_eq_iff : ∀ left right : α, fits left → fits right →
    ((signature left).text = (signature right).text ↔ left = right)

/-- Terms that are put in front of what follows and told apart from each other are identified by
their signatures. -/
theorem Canonical.identifies_of {α : Type} [Canonical α] {fits : α → Prop}
    (prepends : ∀ term : α, Prepends (write term))
    (separates : ∀ left right : α, fits left → fits right → Separates write left right) :
    Identifies α fits := by
  have inFront (term : α) (rest : List UInt8) :
      (signature term).bytes ++ rest = write term rest := (prepends term [] rest).symm
  have same (left right : α) (leftFits : fits left) (rightFits : fits right) :
      signature left = signature right ↔ left = right :=
    ⟨fun equal => (separates left right leftFits rightFits [] []
      (congrArg Signature.bytes equal)).1, congrArg signature⟩
  refine ⟨fun left right leftFits rightFits rest rest' equal => ?_, same,
    fun left right leftFits rightFits => ?_⟩
  · rw [inFront, inFront] at equal
    exact separates left right leftFits rightFits rest rest' equal
  · rw [Signature.text_inj, same left right leftFits rightFits]

/-- Signatures identify trees, types, values and template arguments whose numbers fit the fields
that they are written in. -/
theorem signature_identifies :
    Canonical.Identifies Expr Expr.Fits ∧ Canonical.Identifies Ty Ty.Fits ∧
      Canonical.Identifies Value Value.Fits ∧
      Canonical.Identifies TemplateArgument TemplateArgument.Fits :=
  ⟨identifies_of Expr.prepends fun _ _ => Expr.separates,
    identifies_of Ty.prepends Ty.separates,
    identifies_of Value.prepends fun _ _ => Value.separates,
    identifies_of TemplateArgument.prepends fun _ _ => TemplateArgument.separates⟩

/-- A name with an empty list of template arguments behind it has another signature than the name
alone. -/
theorem signature_identifies_empty_arguments :
    (Expr.of (.overloads ⟨[⟨1⟩, ⟨2⟩], "f", none⟩)).Fits ∧
      (Expr.of (.overloads ⟨[⟨1⟩, ⟨2⟩], "f", some []⟩)).Fits ∧
      (signature (Expr.of (.overloads ⟨[⟨1⟩, ⟨2⟩], "f", none⟩))).text ≠
        (signature (Expr.of (.overloads ⟨[⟨1⟩, ⟨2⟩], "f", some []⟩))).text := by
  have count : [FunctionId.mk 1, FunctionId.mk 2].length < sizeBound := by decide
  have candidates : ∀ function ∈ [FunctionId.mk 1, FunctionId.mk 2], function.Fits := by
    simp [FunctionId.Fits, show 1 < sizeBound by decide, show 2 < sizeBound by decide]
  have name : "f".utf8ByteSize < sizeBound := by decide
  have fits (arguments : Option (List TemplateArgument)) (none : ∀ given ∈ arguments, given = []) :
      (Expr.of (.overloads ⟨[⟨1⟩, ⟨2⟩], "f", arguments⟩)).Fits := by
    refine .node ⟨count, candidates, name, fun given present => ?_⟩ (by simp [Form.children])
      (by simp [Form.children])
    rw [none given present]
    exact ⟨by decide, by simp⟩
  refine ⟨fits none (by simp), fits (some []) (by simp), fun equal => ?_⟩
  have same := (signature_identifies.1.text_eq_iff _ _ (fits none (by simp))
    (fits (some []) (by simp))).mp equal
  cases same

end ConstExpr
