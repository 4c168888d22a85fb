import ConstExpr.Text.Quoted

/-!
# Serialized terms

The serialized form of a term is a tree of words, numbers, quoted text, lists, maps and groups.
A group stands in parentheses, possibly behind a name; it holds a sequence, or fields behind their
labels. The tree is written on one line, or laid out over several lines with indentation.
-/
namespace ConstExpr

/-- The sign that a number is written with. -/
inductive Sign where
  | absent
  | plus
  | minus
  deriving DecidableEq, Repr, Inhabited

/-- A serialized term. -/
inductive Datum where
  /-- A bare name. -/
  | word (name : String)
  /-- A whole number, with the sign it is written with. -/
  | number (sign : Sign) (magnitude : Nat)
  /-- Quoted text. -/
  | text (content : String)
  /-- A literal that no term holds. -/
  | foreign
  /-- Parentheses with no character between them. -/
  | unit
  /-- Raw text or a term with a raw name that is joined to the word `Some`. -/
  | joint (item : Datum)
  /-- A list in brackets. -/
  | list (items : List Datum)
  /-- A map in braces. -/
  | map (entries : List (Datum × Datum))
  /-- A group of items. -/
  | tuple (name : Option String) (items : List Datum)
  /-- A group of labelled fields. -/
  | record (name : Option String) (fields : List (String × Datum))
  deriving Repr, Inhabited

namespace Datum

/-- Labelled fields in the order in which they are written. -/
abbrev Fields := List (String × Datum)

/-- A natural number. -/
def ofNat (value : Nat) : Datum := number .absent value

/-- An integer, with a sign where it is negative. -/
def ofInt (value : Int) : Datum :=
  if value < 0 then number .minus value.natAbs else number .absent value.natAbs

/-- A truth value. -/
def ofBool (truth : Bool) : Datum := word (if truth then "true" else "false")

/-- A name with one item in parentheses behind it. -/
def wrap (name : String) (item : Datum) : Datum := tuple (some name) [item]

/-- A sign as it is written. -/
def writeSign : Sign → List Char
  | .absent => []
  | .plus => ['+']
  | .minus => ['-']

/-- The decimal digits of a number. -/
def decimal (value : Nat) : List Char := Nat.toDigits 10 value

/-- The name of a group, if it has one. -/
def writeName : Option String → List Char
  | some name => name.toList
  | none => []

mutual

/-- Writes a term on one line, in front of the characters that follow. -/
def write : Datum → List Char → List Char
  | word name, rest => name.toList ++ rest
  | number sign magnitude, rest => writeSign sign ++ (decimal magnitude ++ rest)
  | text content, rest => quote content rest
  | foreign, rest => rest
  | unit, rest => '(' :: ')' :: rest
  | joint item, rest => item.write rest
  | list items, rest => '[' :: writeItems items (']' :: rest)
  | map entries, rest => '\x7b' :: writeEntries entries ('\x7d' :: rest)
  | tuple name items, rest => writeName name ++ '(' :: writeItems items (')' :: rest)
  | record name fields, rest => writeName name ++ '(' :: writeFields fields (')' :: rest)

/-- Writes items with a comma between them. -/
def writeItems : List Datum → List Char → List Char
  | [], rest => rest
  | [item], rest => item.write rest
  | item :: items, rest => item.write (',' :: writeItems items rest)

/-- Writes the entries of a map with a comma between them. -/
def writeEntries : List (Datum × Datum) → List Char → List Char
  | [], rest => rest
  | [(key, item)], rest => key.write (':' :: item.write rest)
  | (key, item) :: entries, rest =>
    key.write (':' :: item.write (',' :: writeEntries entries rest))

/-- Writes the fields of a group with a comma between them. -/
def writeFields : List (String × Datum) → List Char → List Char
  | [], rest => rest
  | [(label, item)], rest => label.toList ++ ':' :: item.write rest
  | (label, item) :: fields, rest =>
    label.toList ++ ':' :: item.write (',' :: writeFields fields rest)

end

/-- The term on one line. -/
def compact (datum : Datum) : String := String.ofList (datum.write [])

/-- The start of a line at a level of indentation. -/
def indent (level : Nat) : List Char := List.replicate (4 * level) ' '

/-- Brackets around lines, which are indented by one level more than the brackets; with no line
between them the brackets stand together. -/
def enclose (level : Nat) (first last : Char) (lines : List (List Char)) : List Char :=
  if lines.isEmpty then [first, last]
  else
    first :: '\n' :: (lines.flatMap fun line => indent (level + 1) ++ line ++ [',', '\n']) ++
      (indent level ++ [last])

mutual

/-- Lays a term out at a level of indentation. The items of a list, the entries of a map and the
fields of a group stand on lines of their own; the items of a group stay on its line. -/
def layout (level : Nat) : Datum → List Char
  | word name => name.toList
  | number sign magnitude => writeSign sign ++ decimal magnitude
  | text content => quote content []
  | foreign => []
  | unit => ['(', ')']
  | joint item => layout level item
  | list items => enclose level '[' ']' (layoutItems (level + 1) items)
  | map entries => enclose level '\x7b' '\x7d' (layoutEntries (level + 1) entries)
  | tuple name items =>
    writeName name ++ '(' :: (List.intercalate [',', ' '] (layoutItems level items) ++ [')'])
  | record name fields => writeName name ++ enclose level '(' ')' (layoutFields (level + 1) fields)

/-- Lays out items at the same level. -/
def layoutItems (level : Nat) : List Datum → List (List Char)
  | [] => []
  | item :: items => layout level item :: layoutItems level items

/-- Lays out the entries of a map at the same level. -/
def layoutEntries (level : Nat) : List (Datum × Datum) → List (List Char)
  | [] => []
  | (key, item) :: entries =>
    (layout level key ++ [':', ' '] ++ layout level item) :: layoutEntries level entries

/-- Lays out the fields of a group at the same level. -/
def layoutFields (level : Nat) : List (String × Datum) → List (List Char)
  | [] => []
  | (label, item) :: fields =>
    (label.toList ++ [':', ' '] ++ layout level item) :: layoutFields level fields

end

/-- The term over several lines. -/
def pretty (datum : Datum) : String := String.ofList (datum.layout 0)

mutual

/-- The number of brackets around what stands deepest inside. -/
def nesting : Datum → Nat
  | word _ | number .. | text _ | foreign | unit => 0
  | joint item => item.nesting
  | list items | tuple _ items => nestingItems items
  | map entries => nestingEntries entries
  | record _ fields => nestingFields fields

/-- The nesting of a bracket around items. -/
def nestingItems : List Datum → Nat
  | [] => 0
  | item :: items => max (item.nesting + 1) (nestingItems items)

/-- The nesting of a bracket around keys and items. -/
def nestingEntries : List (Datum × Datum) → Nat
  | [] => 0
  | (key, item) :: entries => max (max key.nesting item.nesting + 1) (nestingEntries entries)

/-- The nesting of a bracket around fields. -/
def nestingFields : List (String × Datum) → Nat
  | [] => 0
  | (_, item) :: fields => max (item.nesting + 1) (nestingFields fields)

end

/-- The number of levels that may be inside one another in a text. -/
def levelLimit : Nat := 128

/-- The term, where it can be written: no more brackets than there may be levels stand around
anything in it. -/
def written? (datum : Datum) : Option Datum :=
  if datum.nesting ≤ levelLimit then some datum else none

end Datum

end ConstExpr
