import ConstExpr.Text.Invisible

/-!
# Quoted text

Text between quotes. The quotes, the backslash and the common controls are written as a backslash
and a letter, a character without a visible form as its code point in braces, and every other
character as itself.
-/
namespace ConstExpr

/-- The hexadecimal digits of a number, the most significant first and without leading zeros. -/
def hexadecimal (value : Nat) : List Char := Nat.toDigits 16 value

/-- The letter that stands behind a backslash for a character. -/
def escapeLetter? : Char → Option Char
  | '\x00' => some '0'
  | '\t' => some 't'
  | '\r' => some 'r'
  | '\n' => some 'n'
  | '\'' => some '\''
  | '"' => some '"'
  | '\\' => some '\\'
  | _ => none

/-- A character as it is written between quotes. -/
def quoteChar (char : Char) : List Char :=
  match escapeLetter? char with
  | some letter => ['\\', letter]
  | none =>
    if isInvisible char then ['\\', 'u', '\x7b'] ++ hexadecimal char.toNat ++ ['\x7d']
    else [char]

/-- Writes text between quotes in front of the characters that follow. -/
def quote (text : String) (rest : List Char) : List Char :=
  '"' :: (text.toList.flatMap quoteChar ++ '"' :: rest)

end ConstExpr
