import ConstExpr.Proofs.Text.Reading
import ConstExpr.Proofs.Text.Trees

/-!
# Serialization is lossless

The text that a term is written as is read back as the term and as nothing else
(`serialization_lossless`), for trees, types, values, template arguments, substitutions, tables and
requests. Terms have the numbers that their fields can hold, trees are those that are put together
node by node, and substitutions keep their bindings in order; nothing is assumed about the texts in
them or about their size. What is nested deeper than there may be levels is not written or not read.
-/
namespace ConstExpr

open Datum Serialized

namespace Datum

/-- An item has no more levels than the deepest one. -/
theorem termLevels_le_deepestItem {item : Datum} {items : List Datum} (member : item ∈ items) :
    item.termLevels ≤ deepestItem items := by
  induction member with
  | head => exact Nat.le_max_left ..
  | tail _ _ ih => exact Nat.le_trans ih (Nat.le_max_right ..)

/-- The key and the item of an entry have no more levels than the deepest ones. -/
theorem termLevels_le_deepestEntry {entry : Datum × Datum} {entries : List (Datum × Datum)}
    (member : entry ∈ entries) :
    entry.1.termLevels ≤ deepestEntry entries ∧ entry.2.termLevels ≤ deepestEntry entries := by
  induction member with
  | head => exact Nat.max_le.mp (Nat.le_max_left ..)
  | tail _ _ ih => exact ⟨Nat.le_trans ih.1 (Nat.le_max_right ..),
      Nat.le_trans ih.2 (Nat.le_max_right ..)⟩

/-- The item of a field has no more levels than the deepest one. -/
theorem termLevels_le_deepestField {field : String × Datum} {fields : Fields}
    (member : field ∈ fields) : field.2.termLevels ≤ deepestField fields := by
  induction member with
  | head => exact Nat.le_max_left ..
  | tail _ _ ih => exact Nat.le_trans ih (Nat.le_max_right ..)

/-- A bracket is a level. -/
theorem bracketLevels_pos {β : Type} (items : List β) : 0 < bracketLevels items := by
  unfold bracketLevels
  split <;> decide

/-- Parentheses are a level. -/
theorem groupLevels_pos (name : Option String) : 0 < groupLevels name := by
  unfold groupLevels
  split <;> decide

/-- No more brackets stand around a datum than it has levels. -/
theorem IsWritten.nesting_le_termLevels {datum : Datum} (written : datum.IsWritten) :
    datum.nesting ≤ datum.termLevels := by
  induction written with
  | word | number | text => exact Nat.zero_le _
  | @list items _ ih =>
    have bracket := bracketLevels_pos items
    refine nestingItems_le.mpr fun item member => ?_
    have fewer := ih item member
    have deepest := termLevels_le_deepestItem member
    rw [termLevels]
    omega
  | @map entries _ _ keys items =>
    have bracket := bracketLevels_pos entries
    refine nestingEntries_le.mpr fun entry member => ?_
    have fewerKeys := keys entry member
    have fewerItems := items entry member
    have deepest := termLevels_le_deepestEntry member
    rw [termLevels]
    omega
  | @wrap name item _ _ ih =>
    have group := groupLevels_pos name
    refine nestingItems_le.mpr (List.forall_mem_singleton.mpr ?_)
    have deepest := termLevels_le_deepestItem (List.mem_singleton_self item)
    rw [termLevels]
    omega
  | @record name fields _ _ _ _ ih =>
    have bracket := bracketLevels_pos fields
    refine nestingFields_le.mpr fun field member => ?_
    have fewer := ih field member
    have deepest := termLevels_le_deepestField member
    rw [termLevels]
    omega

end Datum

section Texts

variable {α : Type} [Serialized α] {term : α}

/-- Writing the term and reading the text back gives the term. -/
structure Lossless (term : α) : Prop where
  /-- The text of the term is read back as nothing else. -/
  faithful : ∀ text other, serialize? term = some text → deserialize? text = some other →
    other = term
  /-- The term has a text, which is read back, unless it has more levels than there may be. -/
  complete : (toDatum term).termLevels ≤ levelLimit →
    ∃ text, serialize? term = some text ∧ deserialize? text = some term

/-- What is read back from the text of a term is what is read back from its serialized form. -/
theorem RoundTrips.deserialize (roundTrips : RoundTrips term)
    (nested : (toDatum term).nesting ≤ levelLimit) :
    deserialize? (toDatum term).compact =
      onlyWithin (toDatum term).termLevels levelLimit term := by
  have reads := roundTrips levelLimit
  rw [deserialize?, ofText?_compact reads.written nested]
  exact reads.decoded levelLimit (Nat.le_refl _)

/-- A term that is read back from its serialized form is read back from its text. -/
theorem RoundTrips.lossless (roundTrips : RoundTrips term) : Lossless term := by
  constructor
  · intro text other written read
    simp only [serialize?, written?] at written
    split at written
    · next nested =>
      cases written
      rw [roundTrips.deserialize nested] at read
      unfold onlyWithin at read
      split at read
      · exact (Option.some.inj read).symm
      · contradiction
    · contradiction
  · intro within
    have nested := Nat.le_trans (roundTrips levelLimit).written.nesting_le_termLevels within
    refine ⟨(toDatum term).compact, ?_, ?_⟩
    · rw [serialize?, written?, if_pos nested, Option.map_some]
    · rw [roundTrips.deserialize nested, onlyWithin, if_pos within]

end Texts

/-- Serialization loses nothing, of whatever term it is: a tree keeps the template definition of
every node, whether it was given or inherited, and so all that depends on the tree alone. -/
theorem serialization_lossless :
    (∀ expr : Expr, expr.Built → expr.FitsText → Lossless expr) ∧
      (∀ type : Ty, type.FitsText → Lossless type) ∧
      (∀ value : Value, value.FitsText → Lossless value) ∧
      (∀ argument : TemplateArgument, argument.FitsText → Lossless argument) ∧
      (∀ map : Substitution, map.FitsText → Lossless map) ∧
      (∀ table : Table, table.FitsText → Lossless table) ∧
      (∀ request : Request, request.FitsText → Lossless request) :=
  ⟨fun _ built fits => (Expr.roundTrips built fits).lossless,
    fun _ fits => (Ty.roundTrips fits).lossless,
    fun _ fits => (Value.roundTrips fits).lossless,
    fun _ fits => (TemplateArgument.roundTrips fits).lossless,
    fun _ fits => (Substitution.roundTrips fits).lossless,
    fun _ fits => (Table.roundTrips fits).lossless,
    fun _ fits => (Request.roundTrips fits).lossless⟩

/-- The body `-x` of a function whose only parameter `x` is mentioned in a template definition. -/
def negatedParameter : Expr :=
  .of (.unary .minus (.build (some ⟨2⟩) (.parameterRef 0 (.fundamental .int) false)))

/-- The sum `N + f(xs...)`, which takes over the template definition that `N` is mentioned in. -/
def spreadSum : Expr :=
  .of (.binary (.arithmetic .add)
    (.build (some ⟨7⟩) (.templateRef ⟨⟨0, 0⟩, false⟩ (.fundamental .int)))
    (.of (.call (.of (.overloads ⟨[⟨0⟩], "f", none⟩))
      [.of (.expansion (.of (.parameterRef 0 (.fundamental .int) true)))])))

/-- A request for the sum where `N` is bound to `-3`, with a name that is written with escapes. -/
def spreadSumRequest : Request where
  table := ⟨[⟨"say \"\u200b\"\n", [.const (.fundamental .int)], .fundamental .int,
    some negatedParameter, true⟩], []⟩
  arguments := ⟨[(⟨0, 0⟩, .single (.nonType (.integral (-3)) (.fundamental .int))),
    (⟨0, 1⟩, .pack [.type (.fundamental .int), .type (.pointer (.fundamental .int))])]⟩
  expression := spreadSum
  span := ⟨0, 11⟩
  limits := .default

/-- The body is a tree that fits. -/
theorem negatedParameter_fitsText : negatedParameter.Built ∧ negatedParameter.FitsText := by
  have template : (2 : Nat) < sizeBound := by decide
  constructor
  · exact .build (List.forall_mem_singleton.mpr (.build (List.forall_mem_nil _)))
  · refine .build trivial nofun (List.forall_mem_singleton.mpr ?_)
    exact .build ⟨by decide, trivial⟩ (fun _ given => Option.some.inj given ▸ template)
      (List.forall_mem_nil _)

/-- The sum is a tree that fits. -/
theorem spreadSum_fitsText : spreadSum.Built ∧ spreadSum.FitsText := by
  have template : (7 : Nat) < sizeBound := by decide
  have callee : (0 : Nat) < sizeBound := by decide
  constructor
  · refine .build (List.forall_mem_cons.mpr ⟨.build (List.forall_mem_nil _),
      List.forall_mem_singleton.mpr (.build ?_)⟩)
    refine List.forall_mem_cons.mpr ⟨.build (List.forall_mem_nil _),
      List.forall_mem_singleton.mpr (.build (List.forall_mem_singleton.mpr ?_))⟩
    exact .build (List.forall_mem_nil _)
  · refine .build trivial nofun (List.forall_mem_cons.mpr
      ⟨.build ⟨⟨by decide, by decide⟩, trivial⟩ ?_ (List.forall_mem_nil _),
        List.forall_mem_singleton.mpr (.build trivial nofun (List.forall_mem_cons.mpr ⟨?_, ?_⟩))⟩)
    · exact fun _ given => Option.some.inj given ▸ template
    · exact .build ⟨List.forall_mem_singleton.mpr callee, nofun⟩ nofun (List.forall_mem_nil _)
    · refine List.forall_mem_singleton.mpr
        (.build trivial nofun (List.forall_mem_singleton.mpr ?_))
      exact .build ⟨by decide, trivial⟩ nofun (List.forall_mem_nil _)

/-- The request has a text, from which it is read back. -/
theorem serialization_lossless_of_request :
    spreadSumRequest.FitsText ∧ (toDatum spreadSumRequest).termLevels ≤ levelLimit ∧
      ∃ text, serialize? spreadSumRequest = some text ∧
        deserialize? text = some spreadSumRequest := by
  have within : (toDatum spreadSumRequest).termLevels ≤ levelLimit := by decide
  have arguments : spreadSumRequest.arguments.FitsText := by
    refine ⟨by decide, ?_, ?_⟩
    · exact List.forall_mem_cons.mpr
        ⟨⟨by decide, by decide⟩, List.forall_mem_singleton.mpr ⟨by decide, by decide⟩⟩
    · refine List.forall_mem_cons.mpr ⟨⟨.integral (by decide), trivial⟩,
        List.forall_mem_singleton.mpr ?_⟩
      exact List.forall_mem_cons.mpr ⟨trivial, List.forall_mem_singleton.mpr trivial⟩
  have functions : ∀ decl ∈ spreadSumRequest.table.functionDecls, decl.FitsText :=
    List.forall_mem_singleton.mpr ⟨List.forall_mem_singleton.mpr trivial, trivial,
      fun _ given => Option.some.inj given ▸ negatedParameter_fitsText⟩
  have fits : spreadSumRequest.FitsText :=
    ⟨⟨functions, List.forall_mem_nil _⟩, arguments, spreadSum_fitsText.1, spreadSum_fitsText.2,
      by decide, by decide⟩
  obtain ⟨_, _, _, _, _, _, requests⟩ := serialization_lossless
  exact ⟨fits, within, (requests spreadSumRequest fits).complete within⟩

end ConstExpr
