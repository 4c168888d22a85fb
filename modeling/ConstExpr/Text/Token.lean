import ConstExpr.Text.Datum
import ConstExpr.Width

/-!
# Tokens

The text of a serialized term as a sequence of tokens: words, numbers, quoted text and marks.
Blanks and comments separate tokens, and block comments nest. The text is scanned character by
character; where it breaks off inside a token, or a token is malformed, there is no sequence.
-/
namespace ConstExpr

/-- A token of a serialized term. -/
inductive Token where
  /-- A bare name. -/
  | word (name : String)
  /-- A whole number, with the sign it is written with. -/
  | number (sign : Sign) (magnitude : Nat)
  /-- Quoted text. -/
  | text (content : String)
  /-- A literal that no term holds: a fraction, a number of more than 128 bits or a character. -/
  | foreign
  /-- A bracket, a separator or a mark in front of an attribute. -/
  | mark (char : Char)
  /-- Parentheses with no character between them. -/
  | unit
  /-- The word `Some` with raw text or a raw name joined to it. -/
  | joint
  deriving DecidableEq, Repr, Inhabited

namespace Token

/-- The brackets, the separators, and the marks in front of an attribute. -/
def isMark (char : Char) : Bool :=
  ['(', ')', '[', ']', '\x7b', '\x7d', ',', ':', '#', '!'].contains char

/-- The characters that separate tokens. -/
def isBlank (char : Char) : Bool := [' ', '\t', '\n', '\r'].contains char

/-- The characters of a name. -/
def isNameChar (char : Char) : Bool := char.isAlphanum || char == '_'

/-- The characters of a bare token: those of names and of numbers. -/
def isBareChar (char : Char) : Bool := isNameChar char || ['.', '+', '-'].contains char

/-- The value of a hexadecimal digit. -/
def digit? (char : Char) : Option Nat :=
  if char.isDigit then some (char.toNat - '0'.toNat)
  else if 'a' ≤ char ∧ char ≤ 'f' then some (char.toNat - 'a'.toNat + 10)
  else if 'A' ≤ char ∧ char ≤ 'F' then some (char.toNat - 'A'.toNat + 10)
  else none

/-- The number that further digits of a base make behind the digits read before; underscores
between digits do not count. -/
def moreDigits (base : Nat) : Nat → List Char → Option Nat
  | value, [] => some value
  | value, '_' :: rest => moreDigits base value rest
  | value, char :: rest =>
    match digit? char with
    | some digit => if digit < base then moreDigits base (value * base + digit) rest else none
    | none => none

/-- The number that is written with at least one digit of a base, the first one at the front. -/
def digits? (base : Nat) (chars : List Char) : Option Nat :=
  match chars with
  | [] => none
  | first :: _ => if first == '_' then none else moreDigits base 0 chars

/-- The number written without a sign, in the base that the start of its text announces. -/
def magnitude? : List Char → Option Nat
  | '0' :: 'x' :: rest => digits? 16 rest
  | '0' :: 'o' :: rest => digits? 8 rest
  | '0' :: 'b' :: rest => digits? 2 rest
  | chars => digits? 10 chars

/-- The exponent of a fraction, or nothing in its place. -/
def isExponent : List Char → Bool
  | [] => true
  | first :: rest =>
    let digits := match rest with
      | '+' :: digits | '-' :: digits => digits
      | digits => digits
    (first == 'e' || first == 'E') && !digits.isEmpty && digits.all Char.isDigit

/-- A fraction without a sign: digits with a point among them or beside them, and an exponent. -/
def isFraction (chars : List Char) : Bool :=
  let whole := chars.takeWhile Char.isDigit
  match chars.dropWhile Char.isDigit with
  | '.' :: rest =>
    let part := rest.takeWhile Char.isDigit
    !(whole.isEmpty && part.isEmpty) && isExponent (rest.dropWhile Char.isDigit)
  | rest => !whole.isEmpty && isExponent rest

/-- A whole number has 128 bits; with a sign it is one of two's complement. -/
def isWhole : Sign → Nat → Bool
  | .absent, magnitude => magnitude < twoPow 128
  | .plus, magnitude => magnitude < twoPow 127
  | .minus, magnitude => magnitude ≤ twoPow 127

/-- The number of a sign and the characters behind it. One with more bits than a whole number is
read as a fraction, which has decimal digits only. -/
def ofNumber? (sign : Sign) (chars : List Char) : Option Token :=
  match (magnitude? chars).filter (isWhole sign) with
  | some magnitude => some (number sign magnitude)
  | none => if isFraction chars then some foreign else none

/-- The number behind a sign, which may also be one of the words for no number. -/
def ofSigned? (sign : Sign) (chars : List Char) : Option Token :=
  if chars = ['i', 'n', 'f'] ∨ chars = ['N', 'a', 'N'] then some foreign else ofNumber? sign chars

/-- The token that a run of bare characters makes. -/
def ofBare? (chars : List Char) : Option Token :=
  match chars with
  | [] => none
  | '+' :: rest => ofSigned? .plus rest
  | '-' :: rest => ofSigned? .minus rest
  | first :: _ =>
    if first.isDigit || first == '.' then ofNumber? .absent chars
    else if chars.all isNameChar then some (word (String.ofList chars))
    else none

/-- What stands behind the word `Some` at the front of a name, if it begins with that word. -/
def afterSome? : List Char → Option (List Char)
  | 'S' :: 'o' :: 'm' :: 'e' :: rest => some rest
  | _ => none

/-- The names with a meaning of their own, in a term or in an attribute. -/
def isReserved (chars : List Char) : Bool :=
  (afterSome? chars).isSome ||
    ["None", "true", "false", "inf", "NaN", "enable"].contains (String.ofList chars)

/-- The word that is written behind the mark of a raw name: the bare word of the same letters,
unless that has a meaning of its own. -/
def ofRawName (chars : List Char) : Token :=
  word (String.ofList (if isReserved chars then 'r' :: '#' :: chars else chars))

/-- A quoted literal of which a part is scanned. -/
structure Literal where
  /-- The quote that ends the literal. -/
  quote : Char
  /-- The characters of the content so far, the latest first. -/
  chars : List Char
  deriving Repr, Inhabited

namespace Literal

/-- The literal with one more character of content. -/
def push (literal : Literal) (char : Char) : Literal := ⟨literal.quote, char :: literal.chars⟩

/-- The token of a literal that has ended; a character literal holds one character. -/
def token? (literal : Literal) : Option Token :=
  if literal.quote == '"' then some (text (String.ofList literal.chars.reverse))
  else if literal.chars.length = 1 then some foreign
  else none

end Literal

/-- What the characters that come next belong to. -/
inductive Mode where
  /-- No token has begun. -/
  | between
  /-- An opening parenthesis. -/
  | opened
  /-- One slash of the mark of a comment. -/
  | slash
  /-- A comment to the end of the line. -/
  | lineComment
  /-- A block comment inside of `level` further ones, and the last character unless it ended a
  mark. -/
  | blockComment (level : Nat) (last : Char)
  /-- A run of bare characters, the latest first. -/
  | bare (chars : List Char)
  /-- A raw name, the latest character first. -/
  | rawName (chars : List Char)
  /-- The hashes in front of raw text or of a raw name. -/
  | rawOpen (hashes : Nat)
  /-- Raw text that a quote and as many hashes end, the latest character first. -/
  | rawText (hashes : Nat) (chars : List Char)
  /-- A quote and `seen` hashes behind it in such a text. -/
  | rawClose (hashes : Nat) (chars : List Char) (seen : Nat)
  /-- The content of a quoted literal. -/
  | quoted (literal : Literal)
  /-- A backslash in a quoted literal. -/
  | escape (literal : Literal)
  /-- A character given by two hexadecimal digits, of which the first may be read. -/
  | twoDigits (literal : Literal) (first : Option Nat)
  /-- The bracket in front of a code point. -/
  | codeOpen (literal : Literal)
  /-- A code point, of which `count` digits are read. -/
  | codePoint (literal : Literal) (count : Nat) (value : Nat)
  deriving Repr, Inhabited

/-- The start of a token, or what stands between tokens. -/
def begin (char : Char) : Option (List Token × Mode) :=
  if isBlank char then some ([], .between)
  else if char == '(' then some ([], .opened)
  else if isMark char then some ([mark char], .between)
  else if char == '/' then some ([], .slash)
  else if char == '"' || char == '\'' then some ([], .quoted ⟨char, []⟩)
  else if isBareChar char then some ([], .bare [char])
  else none

/-- The end of a token, and the character behind it. -/
def beginAfter (token : Token) (char : Char) : Option (List Token × Mode) :=
  (begin char).map fun started => (token :: started.1, started.2)

/-- The character that a letter behind a backslash stands for. -/
def escaped? : Char → Option Char
  | '0' => some '\x00'
  | 't' => some '\t'
  | 'r' => some '\r'
  | 'n' => some '\n'
  | '\'' => some '\''
  | '"' => some '"'
  | '\\' => some '\\'
  | _ => none

/-- The character of a code point, if there is one. -/
def scalar? (value : Nat) : Option Char :=
  if value.isValidChar then some (Char.ofNat value) else none

namespace Mode

/-- The tokens that end before or at a character, and what the next character belongs to. -/
def step : Mode → Char → Option (List Token × Mode)
  | between, char => begin char
  | opened, ')' => some ([unit], between)
  | opened, char => beginAfter (mark '(') char
  | slash, '/' => some ([], lineComment)
  | slash, '*' => some ([], blockComment 0 ' ')
  | slash, _ => none
  | lineComment, char => some ([], if char == '\n' then between else lineComment)
  | blockComment level '/', '*' => some ([], blockComment (level + 1) ' ')
  | blockComment 0 '*', '/' => some ([], between)
  | blockComment (level + 1) '*', '/' => some ([], blockComment level ' ')
  | blockComment level _, char => some ([], blockComment level char)
  | bare ['r'], '"' => some ([], rawText 0 [])
  | bare ['r'], '#' => some ([], rawOpen 1)
  | bare ['r', 'e', 'm', 'o', 'S'], '"' => some ([joint], rawText 0 [])
  | bare ['r', 'e', 'm', 'o', 'S'], '#' => some ([joint], rawOpen 1)
  | bare ['e', 'm', 'o', 'S'], '+' => some ([word "Some"], bare ['+'])
  | bare ['e', 'm', 'o', 'S'], '-' => some ([word "Some"], bare ['-'])
  | bare ['e', 'm', 'o', 'S'], '.' => some ([word "Some"], bare ['.'])
  | bare chars, char =>
    if isBareChar char then some ([], bare (char :: chars))
    else (ofBare? chars.reverse).bind fun token => beginAfter token char
  | rawName chars, char =>
    if isBareChar char then some ([], rawName (char :: chars))
    else beginAfter (ofRawName chars.reverse) char
  | rawOpen hashes, '#' => some ([], rawOpen (hashes + 1))
  | rawOpen hashes, '"' => some ([], rawText hashes [])
  | rawOpen hashes, char =>
    if hashes = 1 ∧ isBareChar char then some ([], rawName [char]) else none
  | rawText hashes chars, '"' =>
    if hashes = 0 then some ([text (String.ofList chars.reverse)], between)
    else some ([], rawClose hashes chars 0)
  | rawText hashes chars, char => some ([], rawText hashes (char :: chars))
  | rawClose hashes chars seen, '#' =>
    if seen + 1 = hashes then some ([text (String.ofList chars.reverse)], between)
    else some ([], rawClose hashes chars (seen + 1))
  | rawClose hashes chars seen, '"' =>
    some ([], rawClose hashes (List.replicate seen '#' ++ '"' :: chars) 0)
  | rawClose hashes chars seen, char =>
    some ([], rawText hashes (char :: (List.replicate seen '#' ++ '"' :: chars)))
  | quoted literal, char =>
    if char == literal.quote then literal.token?.map fun token => ([token], between)
    else if char == '\\' then some ([], escape literal)
    else some ([], quoted (literal.push char))
  | escape literal, 'x' => some ([], twoDigits literal none)
  | escape literal, 'u' => some ([], codeOpen literal)
  | escape literal, char => (escaped? char).map fun char => ([], quoted (literal.push char))
  | twoDigits literal none, char =>
    (digit? char).map fun digit => ([], twoDigits literal (some digit))
  | twoDigits literal (some first), char => do
    let second ← digit? char
    return ([], quoted (literal.push (Char.ofNat (first * 16 + second))))
  | codeOpen literal, '\x7b' => some ([], codePoint literal 0 0)
  | codeOpen _, _ => none
  | codePoint literal count value, '\x7d' =>
    if count = 0 then none
    else (scalar? value).map fun char => ([], quoted (literal.push char))
  | codePoint literal count value, char =>
    if count = 6 then none
    else (digit? char).map fun digit => ([], codePoint literal (count + 1) (value * 16 + digit))

/-- The tokens that the end of the text ends. -/
def finish : Mode → Option (List Token)
  | between | lineComment => some []
  | opened => some [mark '(']
  | bare chars => (ofBare? chars.reverse).map fun token => [token]
  | rawName chars => some [ofRawName chars.reverse]
  | _ => none

end Mode

/-- Scans characters in a mode, behind tokens that ended before, the latest first. -/
def scan : Mode → List Token → List Char → Option (List Token)
  | mode, tokens, [] => mode.finish.map fun last => tokens.reverse ++ last
  | mode, tokens, char :: rest =>
    match mode.step char with
    | some (ended, mode) => scan mode (ended.reverse ++ tokens) rest
    | none => none

/-- The tokens of a text. -/
def ofText? (content : String) : Option (List Token) := scan .between [] content.toList

end Token

end ConstExpr
