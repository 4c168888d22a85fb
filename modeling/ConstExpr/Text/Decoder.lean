import ConstExpr.Text.Extension
import ConstExpr.Width

/-!
# Decoders

A decoder makes a term from its serialized form. Terms are made of levels inside one another, and
their number is limited: a bracket is a level and so is each item in it, an alternative is a level
and so is what it holds, and what stands in a structure without labels or behind `Some` is one
level. Fields that a structure does not have are passed over, within the same limit.
-/
namespace ConstExpr

namespace Datum

/-- A group may stand for a structure: it has no name, or that of the structure. -/
def isNamed (name : String) (found : Option String) : Bool := found.all fun found => found == name

/-- The fields of a structure. -/
def fields? (name : String) : Datum → Option Fields
  | record found fields => if isNamed name found then some fields else none
  | unit => some []
  | tuple found [] => if isNamed name found then some [] else none
  | _ => none

/-- The one item of a structure without labels. -/
def item? (name : String) : Datum → Option Datum
  | tuple found [item] => if isNamed name found then some item else none
  | _ => none

/-- A natural number below a bound, which is written without a sign. -/
def below? (bound : Nat) : Datum → Option Nat
  | number .absent magnitude => if magnitude < bound then some magnitude else none
  | _ => none

/-- A name without the word `Some` at its front. -/
def withoutSome (name : String) : String :=
  String.ofList ((Token.afterSome? name.toList).getD name.toList)

/-- The item of which the word `Some` is read first, where it is joined to the item or to the name
at its front. -/
def behindSome : Datum → Datum
  | joint item => item
  | word name =>
    match (Token.afterSome? name.toList).bind Token.ofBare? with
    | some (.number sign magnitude) => number sign magnitude
    | _ => word name
  | tuple (some name) items => tuple (some (withoutSome name)) items
  | record (some name) fields => record (some (withoutSome name)) fields
  | datum => datum

mutual

/-- The number of levels that a term has inside one another when it is passed over. A bracket and
each item in it are a level, but parentheses with no character between them are none, and neither is
the bracket that follows the word `Some`. What is joined to that word is never passed over, so it
has more levels than there may be. -/
def levels : Datum → Nat
  | word _ | number .. | text _ | foreign | unit => 0
  | joint _ => levelLimit + 1
  | tuple (some "Some") [item] => item.levels + 1
  | list items | tuple _ items => levelsOfItems items
  | map entries => levelsOfEntries entries
  | record _ fields => levelsOfFields fields

/-- The levels of a bracket around items. -/
def levelsOfItems : List Datum → Nat
  | [] => 1
  | item :: items => max (item.levels + 2) (levelsOfItems items)

/-- The levels of a bracket around keys and items. -/
def levelsOfEntries : List (Datum × Datum) → Nat
  | [] => 1
  | (key, item) :: entries => max (max key.levels item.levels + 2) (levelsOfEntries entries)

/-- The levels of a bracket around fields. -/
def levelsOfFields : List (String × Datum) → Nat
  | [] => 1
  | (_, item) :: fields => max (item.levels + 2) (levelsOfFields fields)

end

end Datum

/-- The place of a term in a text. -/
structure Place where
  /-- The extensions that the text enables. -/
  extensions : List Extension
  /-- The number of levels that the term may have inside one another. -/
  levels : Nat
  deriving DecidableEq, Repr, Inhabited

namespace Place

/-- The place of a whole text. -/
def outermost (extensions : List Extension) : Place := ⟨extensions, Datum.levelLimit⟩

/-- The text enables an extension. -/
def enables (place : Place) (extension : Extension) : Bool := place.extensions.contains extension

/-- The place inside a number of levels, if there may be so many. -/
def inside? (place : Place) (count : Nat) : Option Place :=
  if count ≤ place.levels then some ⟨place.extensions, place.levels - count⟩ else none

/-- The place of the items in a bracket. -/
def insideBracket? {β : Type} (place : Place) (items : List β) : Option Place :=
  place.inside? (if items.isEmpty then 1 else 2)

end Place

/-- Makes a term from its serialized form, given its place. -/
abbrev Decoder (α : Type) := Place → Datum → Option α

/-- Makes a term from some of the labelled fields at a place, and tells the other fields. -/
abbrev FieldDecoder (α : Type) := ReaderT Place (StateT Datum.Fields Option) α

namespace FieldDecoder

variable {α : Type}

/-- What stands behind a label, which may be missing but not repeated. -/
def optional (label : String) (decode : Decoder α) : FieldDecoder (Option α) := fun place fields =>
  let others := fields.filter fun field => field.1 != label
  match fields.filter fun field => field.1 == label with
  | [] => some (none, others)
  | [field] => (decode place field.2).map fun term => (some term, others)
  | _ => none

/-- The field with a label. -/
def required (label : String) (decode : Decoder α) : FieldDecoder α := do
  match ← optional label decode with
  | some term => return term
  | none => failure

/-- The field with a label, or the default where it is missing. -/
def defaulted (label : String) (default : α) (decode : Decoder α) : FieldDecoder α :=
  return (← optional label decode).getD default

/-- Makes a term from all the fields of a group, passing over those that do not belong to it. -/
def decodeAll (decode : FieldDecoder α) (place : Place) (fields : Datum.Fields) : Option α := do
  let inside ← place.insideBracket? fields
  let (term, others) ← decode inside fields
  if others.all fun field => field.2.levels ≤ inside.levels then return term else none

end FieldDecoder

namespace Decoder

variable {α β : Type}

/-- A natural number below a bound. -/
def below (bound : Nat) : Decoder Nat := fun _ datum => datum.below? bound

/-- A size, a position or the number of a declaration. -/
def size : Decoder Nat := below sizeBound

/-- An integer of 128 bits. -/
def integer : Decoder Int
  | _, .number sign magnitude =>
    let value : Int := if sign = .minus then -magnitude else magnitude
    if IsMachineWord value then some value else none
  | _, _ => none

/-- A list. -/
def list (item : Decoder α) : Decoder (List α)
  | place, .list items => do items.mapM (item (← place.insideBracket? items))
  | _, _ => none

/-- The entries of a map. -/
def entries (key : Decoder α) (item : Decoder β) : Decoder (List (α × β))
  | place, .map entries => do
    let inside ← place.insideBracket? entries
    entries.mapM fun entry => do return (← key inside entry.1, ← item inside entry.2)
  | _, _ => none

/-- What may be missing. What is there stands in parentheses behind the word `Some`, unless the text
leaves these out: then the word may be missing too, or be joined to what it stands in front of. -/
def option (item : Decoder α) : Decoder (Option α)
  | _, .word "None" => some none
  | place, datum => do
    let held ← match datum with
      | .tuple (some "Some") [held] => some held
      | _ => if place.enables .implicitSome then some datum.behindSome else none
    return some (← item (← place.inside? 1) held)

/-- A structure of labelled fields. -/
def record (name : String) (decode : FieldDecoder α) : Decoder α := fun place datum => do
  decode.decodeAll place (← datum.fields? name)

/-- A structure of one item without a label. -/
def wrapped (name : String) (item : Decoder α) : Decoder α := fun place datum => do
  let held ← if place.enables .unwrapNewtypes then some datum else datum.item? name
  item (← place.inside? 1) held

end Decoder

/-- An alternative as it is written: its name, and what it holds. -/
structure Choice where
  /-- The name of the alternative. -/
  name : String
  /-- The place inside the alternative. -/
  place : Place
  /-- The word or group that begins with the name. -/
  datum : Datum
  deriving Repr, Inhabited

namespace Choice

variable {α : Type}

/-- The alternative that stands at a place. -/
def at? (place : Place) (datum : Datum) : Option Choice := do
  let inside ← place.inside? 1
  match datum with
  | .word name | .tuple (some name) _ | .record (some name) _ => return ⟨name, inside, datum⟩
  | _ => none

/-- An alternative that holds nothing. -/
def nothing (choice : Choice) (term : α) : Option α :=
  match choice.datum with
  | .word _ => (choice.place.inside? 1).map fun _ => term
  | _ => none

/-- An alternative that holds one item. -/
def item (choice : Choice) (decode : Decoder α) : Option α :=
  match choice.datum with
  | .tuple _ [held] => do decode (← choice.place.inside? 1) held
  | _ => none

/-- An alternative with labelled fields. -/
def fields (choice : Choice) (decode : FieldDecoder α) : Option α := do
  decode.decodeAll choice.place (← choice.datum.fields? choice.name)

/-- An alternative that holds a structure of labelled fields. -/
def record (choice : Choice) (name : String) (decode : FieldDecoder α) : Option α :=
  if choice.place.enables .unwrapVariantNewtypes then do
    let fields ← choice.datum.fields? choice.name
    decode.decodeAll (← choice.place.inside? 1) fields
  else choice.item (.record name decode)

/-- An alternative that holds a structure of one item without a label. -/
def wrapped (choice : Choice) (name : String) (decode : Decoder α) : Option α :=
  choice.item fun place held =>
    if place.enables .unwrapVariantNewtypes then do decode (← place.inside? 1) held
    else Decoder.wrapped name decode place held

end Choice

end ConstExpr
