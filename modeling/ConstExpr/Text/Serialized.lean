import ConstExpr.Text.Decoder

/-!
# Terms with a serialized form

A structure is a group of labelled fields, in any order when it is read, possibly behind the name
of the structure. A choice between alternatives is the name of the alternative, with what it holds
in parentheses.
-/
namespace ConstExpr

/-- Terms that can be written in serialized form and read back. -/
class Serialized (α : Type) where
  /-- The serialized form of the term. -/
  toDatum : α → Datum
  /-- The term of which this is a serialized form. -/
  ofDatum? : Decoder α

export Serialized (toDatum ofDatum?)

namespace Serialized

variable {α : Type}

/-- Terms that are written as a name of their own. -/
abbrev ofNames (name : α → String) (named? : String → Option α) : Serialized α where
  toDatum term := .word (name term)
  ofDatum? place datum := do
    let choice ← Choice.at? place datum
    choice.nothing (← named? choice.name)

/-- A number in a structure of its own. -/
abbrev ofNumber (name : String) (number : α → Nat) (make : Nat → α) : Serialized α where
  toDatum term := .tuple none [.ofNat (number term)]
  ofDatum? := .wrapped name fun place datum => make <$> Decoder.size place datum

/-- A structure of labelled fields. -/
abbrev ofFields (name : String) (fields : α → Datum.Fields) (decode : FieldDecoder α) :
    Serialized α where
  toDatum term := .record none (fields term)
  ofDatum? := .record name decode

instance : Serialized Bool where
  toDatum := .ofBool
  ofDatum?
    | _, .word "true" => some true
    | _, .word "false" => some false
    | _, _ => none

instance : Serialized String where
  toDatum := .text
  ofDatum?
    | _, .text content => some content
    | _, _ => none

instance [Serialized α] : Serialized (List α) where
  toDatum items := .list (items.map toDatum)
  ofDatum? := .list ofDatum?

instance [Serialized α] : Serialized (Option α) where
  toDatum
    | none => .word "None"
    | some item => .wrap "Some" (toDatum item)
  ofDatum? := .option ofDatum?

end Serialized

/-- A term as text on one line, if it can be written. -/
def serialize? {α : Type} [Serialized α] (term : α) : Option String :=
  (toDatum term).written?.map Datum.compact

/-- The term that a text is the serialized form of. -/
def deserialize? {α : Type} [Serialized α] (content : String) : Option α := do
  let (extensions, datum) ← Datum.ofText? content
  ofDatum? (.outermost extensions) datum

end ConstExpr
