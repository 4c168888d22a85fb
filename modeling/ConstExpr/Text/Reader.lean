import ConstExpr.Text.Token

/-!
# Reading serialized terms

A term is read from the front of a token sequence, down to a limit of nested brackets. Items in
brackets are separated by commas, and a comma may follow the last one. A group is one of labelled
fields when it begins with a label.
-/
namespace ConstExpr

/-- Reads from the front of a token sequence, and tells the tokens behind what was read. -/
abbrev Reader (α : Type) := List Token → Option (α × List Token)

namespace Reader

variable {α β : Type}

/-- Reads nothing at all. -/
def never : Reader α := fun _ => none

/-- Reads items up to a closing bracket, with a comma between them and possibly behind the last;
`count` bounds the number of items. -/
def separated (item : Reader α) (close : Char) : Nat → Reader (List α)
  | 0, _ | _, [] => none
  | count + 1, first :: rest =>
    if first = .mark close then some ([], rest)
    else
      match item (first :: rest) with
      | some (found, .mark ',' :: rest) =>
        match separated item close count rest with
        | some (others, rest) => some (found :: others, rest)
        | none => none
      | some (found, last :: rest) => if last = .mark close then some ([found], rest) else none
      | _ => none

/-- Reads a label and the item behind it. -/
def labelled (item : Reader α) : Reader (String × α)
  | .word label :: .mark ':' :: rest => (item rest).map fun found => ((label, found.1), found.2)
  | _ => none

/-- Reads a key and the item behind it. -/
def entry (key : Reader α) (item : Reader β) : Reader (α × β) := fun tokens =>
  match key tokens with
  | some (found, .mark ':' :: rest) => (item rest).map fun other => ((found, other.1), other.2)
  | _ => none

end Reader

namespace Datum

/-- The words that stand alone. -/
def standsAlone (name : String) : Bool := ["None", "true", "false", "inf", "NaN"].contains name

/-- The group, where it may have the given name: one named `Some` is a group of one item. -/
def group? (name : Option String) (group : Datum) : Option Datum :=
  match name, group with
  | some "Some", tuple _ [_] => some group
  | some "Some", _ => none
  | _, _ => some group

/-- Reads the rest of a group behind its opening bracket. -/
def readGroup (count : Nat) (inner : Reader Datum) (name : Option String) : Reader Datum :=
  fun tokens =>
  match tokens with
  | .word _ :: .mark ':' :: _ => do
    let (fields, rest) ← Reader.separated (Reader.labelled inner) ')' count tokens
    return (← group? name (record name fields), rest)
  | _ => do
    let (items, rest) ← Reader.separated inner ')' count tokens
    return (← group? name (tuple name items), rest)

/-- Reads the tokens behind a word that belong to it. The word `Some` has a group of one item behind
it or, where `bare` allows it, the item without brackets. -/
def readWord (count : Nat) (bare : Bool) (inner : Reader Datum) (name : String) : Reader Datum
  | .mark '(' :: rest =>
    if standsAlone name then none else readGroup count inner (some name) rest
  | .unit :: rest =>
    if standsAlone name ∨ name = "Some" then none else some (tuple (some name) [], rest)
  | rest =>
    if name = "Some" then
      if bare then (inner rest).map fun found => (wrap name found.1, found.2) else none
    else some (word name, rest)

/-- Reads a term whose brackets hold what `inner` reads. -/
def readAround (count : Nat) (bare : Bool) (inner : Reader Datum) : Reader Datum
  | .number sign magnitude :: rest => some (number sign magnitude, rest)
  | .text content :: rest => some (text content, rest)
  | .foreign :: rest => some (foreign, rest)
  | .unit :: rest => some (unit, rest)
  | .joint :: rest => if bare then (inner rest).map fun found => (joint found.1, found.2) else none
  | .mark '[' :: rest =>
    (Reader.separated inner ']' count rest).map fun found => (list found.1, found.2)
  | .mark '\x7b' :: rest =>
    (Reader.separated (Reader.entry inner inner) '\x7d' count rest).map fun found =>
      (map found.1, found.2)
  | .mark '(' :: rest => readGroup count inner none rest
  | .word name :: rest => readWord count bare inner name rest
  | _ => none

/-- Reads a term of at most `depth` brackets inside one another, each with fewer than `count`
items; `bare` tells whether the word `Some` may stand in front of an item without brackets. -/
def read (count : Nat) (bare : Bool) : Nat → Reader Datum
  | 0 => readAround count bare Reader.never
  | depth + 1 => readAround count bare (read count bare depth)

/-- The term that a whole token sequence makes. There are no more brackets inside one another than
there may be levels, and no bracket has more items than there are tokens. -/
def ofTokens? (bare : Bool) (tokens : List Token) : Option Datum :=
  match read tokens.length bare levelLimit tokens with
  | some (datum, []) => some datum
  | _ => none

end Datum

end ConstExpr
