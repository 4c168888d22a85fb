import ConstExpr.Proofs.Bindings
import ConstExpr.Proofs.Signature.Term
import ConstExpr.Proofs.Text.Decoding
import ConstExpr.Text.Term

/-!
# Types, values and substitutions are read back

Every type, value, template argument and substitution is read back from its serialized form
(`RoundTrips`), if its numbers fit the fields of that form and the bindings of the substitution are
in order. Types and values nest: the decoder of one within a number of levels is followed by the
decoder within one less, and what it reads is at least two levels further inside.
-/
namespace ConstExpr

open Serialized

section Structures

variable {α : Type} {limit : Nat}

/-- The term is read back from its serialized form. -/
def RoundTrips [Serialized α] (term : α) : Prop :=
  ∀ limit, ReadsBack limit ofDatum? (toDatum term) term

/-- A list is read back when its items are. -/
theorem RoundTrips.list [Serialized α] {items : List α} (each : ∀ item ∈ items, RoundTrips item) :
    RoundTrips items :=
  fun _ => .list fun item member => each item member _

/-- What may be missing is read back when what is there is. -/
theorem RoundTrips.option [Serialized α] {item : Option α} (held : ∀ term ∈ item, RoundTrips term) :
    RoundTrips item := by
  intro limit
  cases item with
  | none => exact readsBack_none _
  | some term => exact (held term rfl _).option

/-- Truth values are read back. -/
theorem roundTrips_bool (truth : Bool) : RoundTrips truth := by
  intro limit
  cases truth <;>
    exact ⟨.word (by decide) (by decide), fun levels _ => (if_pos (Nat.zero_le levels)).symm⟩

/-- Text is read back. -/
theorem roundTrips_text (content : String) : RoundTrips content :=
  fun _ => ⟨.text content, fun levels _ => (if_pos (Nat.zero_le levels)).symm⟩

/-- A term that is written as a name is read back when the name is found. -/
theorem readsBack_name {name : α → String} {named? : String → Option α} {term : α}
    (proper : IsAlternative (name term)) (found : named? (name term) = some term) :
    ReadsBack limit (Serialized.ofNames name named?).ofDatum? (.word (name term)) term := by
  refine readsBack_nothing proper fun levels datum => ?_
  simp only [found, Option.bind_eq_bind, Option.bind_some]

/-- A number in a structure of its own is read back. -/
theorem readsBack_number {name : String} {number : α → Nat} {make : Nat → α} {term : α}
    (small : number term < sizeBound) (same : make (number term) = term) :
    ReadsBack limit (Serialized.ofNumber name number make).ofDatum?
      (.tuple none [.ofNat (number term)]) term := by
  have reads : ReadsBack (limit - 1) (fun place datum => make <$> Decoder.size place datum)
      (.ofNat (number term)) (make (number term)) := (readsBack_size small).map make
  rw [same] at reads
  exact reads.wrapped name

end Structures

section Names

/-- Fundamental types are read back. -/
theorem Fundamental.roundTrips (type : Fundamental) : RoundTrips type :=
  fun _ => readsBack_name (by cases type <;> decide) (by cases type <;> decide)

/-- Categories are read back. -/
theorem Category.roundTrips (category : Category) : RoundTrips category :=
  fun _ => readsBack_name (by cases category <;> decide) (by cases category <;> decide)

/-- Kinds of references are read back. -/
theorem ReferenceKind.roundTrips (kind : ReferenceKind) : RoundTrips kind :=
  fun _ => readsBack_name (by cases kind <;> decide) (by cases kind <;> decide)

/-- Unary operators are read back. -/
theorem UnaryOperator.roundTrips (operator : UnaryOperator) : RoundTrips operator :=
  fun _ => readsBack_name (by cases operator <;> decide) (by cases operator <;> decide)

/-- Arithmetic operators are read back. -/
theorem ArithmeticOperator.roundTrips (operator : ArithmeticOperator) : RoundTrips operator :=
  fun _ => readsBack_name (by cases operator <;> decide) (by cases operator <;> decide)

/-- Operators on types are read back. -/
theorem TypeOperator.roundTrips (operator : TypeOperator) : RoundTrips operator :=
  fun _ => readsBack_name (by cases operator <;> decide) (by cases operator <;> decide)

/-- Binary operators are read back. -/
theorem BinaryOperator.roundTrips (operator : BinaryOperator) : RoundTrips operator := by
  intro limit
  cases operator with
  | compoundAssign operator =>
    exact (operator.roundTrips (limit - 1)).making compoundAssign (by decide) fun _ _ => rfl
  | arithmetic operator =>
    cases operator <;> exact readsBack_nothing (by decide) fun _ _ => rfl
  | comparison comparison =>
    cases comparison <;> exact readsBack_nothing (by decide) fun _ _ => rfl
  | _ => exact readsBack_nothing (by decide) fun _ _ => rfl

/-- The numbers of functions are read back. -/
theorem FunctionId.roundTrips {function : FunctionId} (fits : function.Fits) :
    RoundTrips function :=
  fun _ => readsBack_number fits rfl

/-- The numbers of variables are read back. -/
theorem VariableId.roundTrips {id : VariableId} (fits : id.Fits) : RoundTrips id :=
  fun _ => readsBack_number fits rfl

/-- The numbers of template definitions are read back. -/
theorem TemplateId.roundTrips {template : TemplateId} (fits : template.Fits) :
    RoundTrips template :=
  fun _ => readsBack_number fits rfl

end Names

section Terms

/-- The depth and the index of the parameter fit their fields. -/
def ParameterId.FitsText (id : ParameterId) : Prop :=
  id.depth < parameterBound ∧ id.index < parameterBound

/-- The numbers in the type fit their fields. -/
def Ty.FitsText : Ty → Prop
  | fundamental _ | initializerList | functionSet | dependentExpression _ | problem => True
  | pointer inner | const inner | reference _ inner | packExpansion inner => inner.FitsText
  | parameter mentioned => mentioned.id.FitsText

/-- The integers in the value have 128 bits. -/
inductive Value.FitsText : Value → Prop where
  | integral {value : Int} : IsMachineWord value → FitsText (.integral value)
  | composite {elements : List Value} : (∀ element ∈ elements, FitsText element) →
      FitsText (.composite elements)
  | dependent : FitsText .dependent
  | unknown : FitsText .unknown

/-- The numbers in the argument fit their fields. -/
def TemplateArgument.FitsText : TemplateArgument → Prop
  | type given => given.FitsText
  | nonType value given => value.FitsText ∧ given.FitsText

/-- The numbers in the arguments fit their fields. -/
def Bound.FitsText : Bound → Prop
  | single argument => argument.FitsText
  | pack arguments => ∀ argument ∈ arguments, argument.FitsText

/-- The bindings are in the order of their parameters, each of which is bound once, and their
numbers fit their fields. -/
structure Substitution.FitsText (map : Substitution) : Prop where
  /-- Each parameter is less than those bound behind it. -/
  ordered : map.entries.Pairwise fun first second => compare first.1 second.1 = .lt
  /-- The parameters fit. -/
  parameters : ∀ entry ∈ map.entries, entry.1.FitsText
  /-- The arguments fit. -/
  bounds : ∀ entry ∈ map.entries, entry.2.FitsText

/-- Signatures are read back, byte by byte. -/
theorem Signature.readsBack (expression : Signature) {limit : Nat} :
    ReadsBack limit ofBytes? (.list (expression.bytes.map fun byte => .ofNat byte.toNat))
      expression := by
  have numbers : ReadsBack limit (.list (.below 256))
      (.list ((expression.bytes.map UInt8.toNat).map Datum.ofNat))
      (expression.bytes.map UInt8.toNat) := .list fun value member => by
    obtain ⟨byte, -, rfl⟩ := List.mem_map.mp member
    exact readsBack_below byte.toNat_lt (by decide)
  have made := numbers.map fun bytes => Signature.mk (bytes.map UInt8.ofNat)
  have bytes : (expression.bytes.map UInt8.toNat).map UInt8.ofNat = expression.bytes := by
    rw [List.map_map]
    exact List.map_id'' (fun byte => UInt8.ofNat_toNat) _
  have same : ofBytes? = fun place datum =>
      (fun bytes => Signature.mk (bytes.map UInt8.ofNat)) <$>
        Decoder.list (.below 256) place datum :=
    funext fun place => funext fun datum => bind_pure_comp _ _
  rw [bytes, List.map_map, ← same] at made
  exact made

/-- Parameters are read back. -/
theorem ParameterId.roundTrips {id : ParameterId} (fits : id.FitsText) : RoundTrips id := by
  intro limit
  refine .record ?_ (List.cons_ne_nil _ _) "TemplateParameterID"
  refine .required ?_ (readsBack_below fits.1 (by decide)) (by decide) (by simp)
  refine .required ?_ (readsBack_below fits.2 (by decide)) (by decide) (by simp)
  exact fieldsReadBack_pure id

/-- The fields of a mention of a parameter are read back. -/
theorem TemplateParameter.fieldsReadBack {parameter : TemplateParameter}
    (fits : parameter.id.FitsText) {limit : Nat} :
    FieldsReadBack limit ofFields?
      [("id", toDatum parameter.id), ("is_pack", toDatum parameter.isPack)] parameter := by
  refine .required ?_ (ParameterId.roundTrips fits _) (by decide) (by simp)
  refine .required ?_ (roundTrips_bool _ _) (by decide) (by simp)
  exact fieldsReadBack_pure parameter

/-- Mentions of parameters are read back. -/
theorem TemplateParameter.roundTrips {parameter : TemplateParameter}
    (fits : parameter.id.FitsText) : RoundTrips parameter :=
  fun _ => .record (fieldsReadBack fits) (List.cons_ne_nil _ _) "TemplateParameter"

/-- A type is read back within as many types inside one another as there may be levels. -/
theorem Ty.readsBack {type : Ty} (fits : type.FitsText) (depth : Nat) :
    ReadsBack depth (ofDatumWithin depth) type.toDatum type := by
  induction type generalizing depth with
  | fundamental given =>
    refine .within (fun depth => .making ?_ fundamental (by decide) fun _ _ => rfl) rfl depth
    exact given.roundTrips _
  | pointer inner ih =>
    refine .within (fun depth => .making ?_ pointer (by decide) fun _ _ => rfl) rfl depth
    exact ih fits depth
  | reference kind inner ih =>
    refine .within (fun depth => ?_) rfl depth
    refine .holding ?_ (List.cons_ne_nil _ _) (by decide) fun _ _ => rfl
    refine .required ?_ (kind.roundTrips _) (by decide) (by simp)
    refine .required ?_ ((ih fits depth).mono (Nat.sub_le depth 1)) (by decide) (by simp)
    exact fieldsReadBack_pure _
  | const inner ih =>
    refine .within (fun depth => .making ?_ const (by decide) fun _ _ => rfl) rfl depth
    exact ih fits depth
  | parameter mentioned =>
    refine .within (fun depth => .making ?_ parameter (by decide) fun _ _ => rfl) rfl depth
    exact .record (TemplateParameter.fieldsReadBack fits) (List.cons_ne_nil _ _) _
  | packExpansion pattern ih =>
    refine .within (fun depth => .making ?_ packExpansion (by decide) fun _ _ => rfl) rfl depth
    exact ih fits depth
  | initializerList =>
    exact .within (fun _ => readsBack_nothing (by decide) fun _ _ => rfl) rfl depth
  | functionSet => exact .within (fun _ => readsBack_nothing (by decide) fun _ _ => rfl) rfl depth
  | dependentExpression expression =>
    refine .within (fun depth => ?_) rfl depth
    refine .making ?_ dependentExpression (by decide) fun _ _ => rfl
    have reads : ReadsBack (depth + 1 - 1) _ _ expression :=
      expression.readsBack.wrapped "Signature"
    exact ⟨reads.written, reads.decoded⟩
  | problem => exact .within (fun _ => readsBack_nothing (by decide) fun _ _ => rfl) rfl depth

/-- Types are read back. -/
theorem Ty.roundTrips {type : Ty} (fits : type.FitsText) : RoundTrips type :=
  fun _ => .atPlace (readsBack fits)

/-- The serialized forms of values in order are those of each. -/
theorem Value.toDatumAll_eq (elements : List Value) :
    toDatumAll elements = elements.map toDatum := by
  induction elements with
  | nil => rfl
  | cons element elements ih => rw [toDatumAll, ih, List.map_cons]

/-- A value is read back within as many values inside one another as there may be levels. -/
theorem Value.readsBack {value : Value} (fits : value.FitsText) (depth : Nat) :
    ReadsBack depth (ofDatumWithin depth) value.toDatum value := by
  induction fits generalizing depth with
  | integral word =>
    refine .within (fun depth => .making ?_ integral (by decide) fun _ _ => rfl) rfl depth
    exact readsBack_integer word
  | @composite elements _ ih =>
    refine .within (fun depth => ?_) rfl depth
    rw [toDatum, toDatumAll_eq]
    refine .making ?_ composite (by decide) fun _ _ => rfl
    exact .list fun element member => (ih element member depth).mono (Nat.sub_le depth 1)
  | dependent => exact .within (fun _ => readsBack_nothing (by decide) fun _ _ => rfl) rfl depth
  | unknown => exact .within (fun _ => readsBack_nothing (by decide) fun _ _ => rfl) rfl depth

/-- Values are read back. -/
theorem Value.roundTrips {value : Value} (fits : value.FitsText) : RoundTrips value :=
  fun _ => .atPlace (readsBack fits)

/-- Template arguments are read back. -/
theorem TemplateArgument.roundTrips {argument : TemplateArgument} (fits : argument.FitsText) :
    RoundTrips argument := by
  intro limit
  cases argument with
  | type given =>
    refine .making ?_ type (by decide) fun _ _ => rfl
    exact Ty.roundTrips fits _
  | nonType value given =>
    refine .fields ?_ (List.cons_ne_nil _ _) (by decide) fun _ _ => rfl
    refine .required ?_ (Value.roundTrips fits.1 _) (by decide) (by simp)
    refine .required ?_ (Ty.roundTrips fits.2 _) (by decide) (by simp)
    exact fieldsReadBack_pure _

/-- Bindings are read back. -/
theorem Bound.roundTrips {bound : Bound} (fits : bound.FitsText) : RoundTrips bound := by
  intro limit
  cases bound with
  | single argument =>
    refine .making ?_ single (by decide) fun _ _ => rfl
    exact TemplateArgument.roundTrips fits _
  | pack arguments =>
    refine .making ?_ pack (by decide) fun _ _ => rfl
    exact RoundTrips.list
      (fun argument member => TemplateArgument.roundTrips (fits argument member)) _

/-- An entry whose parameter is greater than all others is placed behind them. -/
theorem Substitution.place_last {entry : ParameterId × Bound} {entries : List (ParameterId × Bound)}
    (greater : ∀ other ∈ entries, compare other.1 entry.1 = .lt) :
    place entry entries = entries ++ [entry] := by
  induction entries with
  | nil => rfl
  | cons head rest ih =>
    obtain ⟨first, others⟩ := List.forall_mem_cons.mp greater
    have behind : (compare entry.1 head.1 == .lt) = false :=
      beq_false_of_ne fun less => ParameterId.compare_irrefl (ParameterId.compare_trans first less)
    rw [place, behind, if_neg Bool.false_ne_true, ih others, List.cons_append]

/-- A substitution is put together from its entries. -/
theorem Substitution.ofEntries_of_ordered {entries : List (ParameterId × Bound)}
    (ordered : entries.Pairwise fun first second => compare first.1 second.1 = .lt) :
    ofEntries entries = ⟨entries⟩ := by
  have behind (done rest : List (ParameterId × Bound))
      (ordered : (done ++ rest).Pairwise fun first second => compare first.1 second.1 = .lt) :
      rest.foldl (fun map entry => rebind map entry.1 entry.2) ⟨done⟩ = ⟨done ++ rest⟩ := by
    induction rest generalizing done with
    | nil => rw [List.append_nil, List.foldl_nil]
    | cons entry rest ih =>
      have greater : ∀ other ∈ done, compare other.1 entry.1 = .lt := fun other member =>
        (List.pairwise_append.mp ordered).2.2 other member entry List.mem_cons_self
      have kept : done.filter (fun other => other.1 != entry.1) = done := by
        refine List.filter_eq_self.mpr fun other member => bne_iff_ne.mpr fun same => ?_
        have less := greater other member
        rw [same] at less
        exact ParameterId.compare_irrefl less
      rw [List.append_cons] at ordered ⊢
      rw [List.foldl_cons, rebind, kept, place_last greater, ih _ ordered]
  exact behind [] entries ordered

/-- Substitutions are read back. -/
theorem Substitution.roundTrips {map : Substitution} (fits : map.FitsText) : RoundTrips map := by
  intro limit
  refine .record ?_ (List.cons_ne_nil _ _) "TemplateParameterMap"
  refine .required ?_ (.entries ?_ ?_) (by decide) (by simp)
  · rw [ofEntries_of_ordered fits.ordered]
    exact fieldsReadBack_pure map
  · exact fun entry member => ParameterId.roundTrips (fits.parameters entry member) _
  · exact fun entry member => Bound.roundTrips (fits.bounds entry member) _

end Terms

end ConstExpr
