import ConstExpr.Text.Reader

/-!
# Extensions

A text may begin with attributes that enable other ways to write a term. An attribute names at
least one extension, in the form `#![enable(name, name)]`.
-/
namespace ConstExpr

/-- Another way to write terms, which a text enables. -/
inductive Extension where
  /-- What may be missing is written without `Some` around it. -/
  | implicitSome
  /-- A structure of one item without a label is written as the item. -/
  | unwrapNewtypes
  /-- The parentheses of an alternative are also those of the structure in it. -/
  | unwrapVariantNewtypes
  deriving DecidableEq, Repr, Inhabited

namespace Extension

/-- The name of an extension. -/
def name : Extension → String
  | implicitSome => "implicit_some"
  | unwrapNewtypes => "unwrap_newtypes"
  | unwrapVariantNewtypes => "unwrap_variant_newtypes"

/-- The extension of a name. -/
def named? (text : String) : Option Extension :=
  [implicitSome, unwrapNewtypes, unwrapVariantNewtypes].find? fun extension =>
    extension.name == text

/-- Reads the name of an extension. -/
def readName : Reader Extension
  | .word text :: rest => (named? text).map fun extension => (extension, rest)
  | _ => none

/-- Reads the rest of an attribute behind its first mark; it has fewer than `count` names. -/
def readAttribute (count : Nat) : Reader (List Extension)
  | .mark '!' :: .mark '[' :: .word "enable" :: .mark '(' :: rest =>
    match Reader.separated readName ')' count rest with
    | some (first :: others, .mark ']' :: rest) => some (first :: others, rest)
    | _ => none
  | _ => none

/-- Reads the attributes in front of a term, fewer than `count` of them. -/
def readAttributes : Nat → Reader (List Extension)
  | count + 1, .mark '#' :: rest => do
    let (found, rest) ← readAttribute count rest
    let (others, rest) ← readAttributes count rest
    return (found ++ others, rest)
  | _, tokens => some ([], tokens)

end Extension

/-- The content of a text: the extensions that it enables, and a term. -/
def Datum.ofText? (content : String) : Option (List Extension × Datum) := do
  let tokens ← Token.ofText? content
  let (extensions, rest) ← Extension.readAttributes tokens.length tokens
  return (extensions, ← ofTokens? (extensions.contains .implicitSome) rest)

end ConstExpr
