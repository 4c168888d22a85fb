import ConstExpr.Proofs.Text.Scanning
import ConstExpr.Text.Reader

/-!
# The tokens of serialized terms

A datum of the kind that terms are written as has a sequence of tokens, and its text is scanned as
that sequence, in front of whatever may follow a term (`IsWritten.scans`). Commas and colons stand
between the tokens of the parts; no item begins with a closing parenthesis, so the parentheses of a
group are never taken for a unit.
-/
namespace ConstExpr

namespace Datum

/-- A word that may stand in front of a group. -/
def NamesGroup (name : String) : Prop := IsName name ∧ standsAlone name = false

/-- A datum of the kind that terms are written as: words, labels and the names of groups are names,
and a group without labels holds one item. -/
inductive IsWritten : Datum → Prop where
  | word {name : String} : IsName name → name ≠ "Some" → IsWritten (.word name)
  | number {sign : Sign} {magnitude : Nat} : Token.isWhole sign magnitude = true →
      IsWritten (.number sign magnitude)
  | text (content : String) : IsWritten (.text content)
  | list {items : List Datum} : (∀ item ∈ items, IsWritten item) → IsWritten (.list items)
  | map {entries : List (Datum × Datum)} : (∀ entry ∈ entries, IsWritten entry.1) →
      (∀ entry ∈ entries, IsWritten entry.2) → IsWritten (.map entries)
  | wrap {name : Option String} {item : Datum} : (∀ word ∈ name, NamesGroup word) →
      IsWritten item → IsWritten (.tuple name [item])
  | record {name : Option String} {fields : Fields} :
      (∀ word ∈ name, NamesGroup word ∧ word ≠ "Some") → fields ≠ [] →
      (∀ field ∈ fields, IsName field.1) → (∀ field ∈ fields, IsWritten field.2) →
      IsWritten (.record name fields)

/-- The tokens of items with a comma between them. -/
def tokensBetween (items : List (List Token)) : List Token := [.mark ','].intercalate items

/-- The token of the name of a group, if it has one. -/
def tokensOfName : Option String → List Token
  | some name => [.word name]
  | none => []

mutual

/-- The tokens that a datum is written with. -/
def tokens : Datum → List Token
  | word name => [.word name]
  | number sign magnitude => [.number sign magnitude]
  | text content => [.text content]
  | foreign => [.foreign]
  | unit => [.unit]
  | joint item => .joint :: item.tokens
  | list items => .mark '[' :: (tokensBetween (tokensOfItems items) ++ [.mark ']'])
  | map entries => .mark '\x7b' :: (tokensBetween (tokensOfEntries entries) ++ [.mark '\x7d'])
  | tuple name items =>
    tokensOfName name ++ .mark '(' :: (tokensBetween (tokensOfItems items) ++ [.mark ')'])
  | record name fields =>
    tokensOfName name ++ .mark '(' :: (tokensBetween (tokensOfFields fields) ++ [.mark ')'])

/-- The tokens of items, one by one. -/
def tokensOfItems : List Datum → List (List Token)
  | [] => []
  | item :: items => item.tokens :: tokensOfItems items

/-- The tokens of the entries of a map, one by one. -/
def tokensOfEntries : List (Datum × Datum) → List (List Token)
  | [] => []
  | (key, item) :: entries => (key.tokens ++ .mark ':' :: item.tokens) :: tokensOfEntries entries

/-- The tokens of the fields of a group, one by one. -/
def tokensOfFields : List (String × Datum) → List (List Token)
  | [] => []
  | (label, item) :: fields => (.word label :: .mark ':' :: item.tokens) :: tokensOfFields fields

end

/-- The tokens of items are those of each item. -/
theorem tokensOfItems_eq (items : List Datum) : tokensOfItems items = items.map tokens := by
  induction items with
  | nil => rfl
  | cons item items ih => rw [tokensOfItems, ih, List.map_cons]

/-- The tokens of an entry are those of its key and of its item with a colon between them. -/
theorem tokensOfEntries_eq (entries : List (Datum × Datum)) :
    tokensOfEntries entries =
      entries.map fun entry => entry.1.tokens ++ .mark ':' :: entry.2.tokens := by
  induction entries with
  | nil => rfl
  | cons entry entries ih => rw [tokensOfEntries, ih, List.map_cons]

/-- The tokens of a field are its label, a colon and those of its item. -/
theorem tokensOfFields_eq (fields : Fields) :
    tokensOfFields fields =
      fields.map fun field => .word field.1 :: .mark ':' :: field.2.tokens := by
  induction fields with
  | nil => rfl
  | cons field fields ih => rw [tokensOfFields, ih, List.map_cons]

section Writing

/-- Writes items with a comma between them, each as it is written itself. -/
def separate {α : Type} (each : α → List Char → List Char) : List α → List Char → List Char
  | [], rest => rest
  | [item], rest => each item rest
  | item :: next :: items, rest => each item (',' :: separate each (next :: items) rest)

/-- Items are written with a comma between them. -/
theorem writeItems_eq (items : List Datum) (rest : List Char) :
    writeItems items rest = separate write items rest := by
  induction items with
  | nil => rfl
  | cons item items ih =>
    cases items with
    | nil => rfl
    | cons next items => rw [writeItems, ih, separate]; exact fun none => nomatch none

/-- Entries are written with a comma between them. -/
theorem writeEntries_eq (entries : List (Datum × Datum)) (rest : List Char) :
    writeEntries entries rest =
      separate (fun entry rest => entry.1.write (':' :: entry.2.write rest)) entries rest := by
  induction entries with
  | nil => rfl
  | cons entry entries ih =>
    cases entries with
    | nil => rfl
    | cons next entries => rw [writeEntries, ih, separate]; exact fun none => nomatch none

/-- Fields are written with a comma between them. -/
theorem writeFields_eq (fields : Fields) (rest : List Char) :
    writeFields fields rest =
      separate (fun field rest => field.1.toList ++ ':' :: field.2.write rest) fields rest := by
  induction fields with
  | nil => rfl
  | cons field fields ih =>
    cases fields with
    | nil => rfl
    | cons next fields => rw [writeFields, ih, separate]; exact fun none => nomatch none

end Writing

section Scanning

open Token

/-- What is written in front of anything that may follow a term is scanned as the tokens, and it
does not begin with a closing parenthesis. -/
structure Scans (write : List Char → List Char) (tokens : List Token) : Prop where
  /-- The first character, which stands for all that may precede the rest. -/
  starts : ∀ rest, ∃ first others, write rest = first :: others ∧ first ≠ ')'
  /-- The tokens are found behind any others. -/
  scanned : ∀ before {rest}, Closes rest →
    scan .between before (write rest) = scan .between (tokens.reverse ++ before) rest

/-- A mark that a bare token ends at closes what stands before it. -/
theorem closes_mark {char : Char} (mark : isMark char = true) (different : char ≠ '#')
    (rest : List Char) : Closes (char :: rest) := by
  intro other first
  obtain rfl := Option.some.inj first
  exact ⟨mark, different⟩

/-- An opening parenthesis is a token, unless it is closed at once. -/
theorem scan_open {write : List Char → List Char} {tokens : List Token}
    (scans : Scans write tokens) (before : List Token) (rest : List Char) :
    scan .between before ('(' :: write rest) =
      scan .between (.mark '(' :: before) (write rest) := by
  obtain ⟨first, others, same, different⟩ := scans.starts rest
  rw [same, scan_step rfl]
  refine scan_after ?_ before others
  unfold Mode.step
  split
  all_goals first | contradiction | rfl

/-- A name is scanned as a word. -/
theorem scans_word {name : String} (proper : IsName name) :
    Scans (fun rest => name.toList ++ rest) [.word name] := by
  refine ⟨fun rest => ?_, fun before _ closes => scan_word proper closes before⟩
  obtain ⟨some_, all, -⟩ := proper
  cases chars : name.toList with
  | nil => exact absurd chars some_
  | cons first others =>
    refine ⟨first, others ++ rest, rfl, ?_⟩
    rw [chars, List.all_cons] at all
    exact ne_of_isNameChar (Bool.and_eq_true_iff.mp all).1 (by decide)

/-- Two parts with a colon between them are scanned as their tokens with a colon between. -/
theorem Scans.colon {first second : List Char → List Char} {tokens tokens' : List Token}
    (scans : Scans first tokens) (scans' : Scans second tokens') :
    Scans (fun rest => first (':' :: second rest)) (tokens ++ .mark ':' :: tokens') := by
  refine ⟨fun rest => scans.starts _, fun before rest closes => ?_⟩
  have colon : Mode.between.step ':' = some ([.mark ':'], .between) := rfl
  rw [scans.scanned before (closes_mark rfl (by decide) _), scan_end colon,
    scans'.scanned _ closes, List.reverse_append, List.reverse_cons, List.append_assoc,
    List.append_assoc]
  rfl

/-- Items are scanned as their tokens with commas between them. -/
theorem scan_separate {α : Type} {each : α → List Char → List Char} {tokens : α → List Token}
    {items : List α} (scans : ∀ item ∈ items, Scans (each item) (tokens item))
    (before : List Token) {rest : List Char} (closes : Closes rest) :
    scan .between before (separate each items rest) =
      scan .between ((tokensBetween (items.map tokens)).reverse ++ before) rest := by
  induction items generalizing before with
  | nil => rfl
  | cons item items ih =>
    obtain ⟨first, others⟩ := List.forall_mem_cons.mp scans
    cases items with
    | nil =>
      rw [tokensBetween, List.map_singleton, List.intercalate_singleton]
      exact first.scanned before closes
    | cons next items =>
      have comma : Mode.between.step ',' = some ([.mark ','], .between) := rfl
      rw [separate, first.scanned before (closes_mark rfl (by decide) _), scan_end comma,
        ih others, tokensBetween, tokensBetween, List.map_cons, List.map_cons, List.map_cons,
        List.intercalate_cons_cons, List.reverse_append, List.reverse_append, List.append_assoc,
        List.append_assoc]
      rfl

/-- Items between brackets are scanned as their tokens between brackets. -/
theorem scans_bracket {α : Type} {each : α → List Char → List Char} {tokens : α → List Token}
    {items : List α} (scans : ∀ item ∈ items, Scans (each item) (tokens item))
    {first last : Char} (opening : Mode.between.step first = some ([.mark first], .between))
    (different : first ≠ ')') (closing : Mode.between.step last = some ([.mark last], .between))
    (mark : isMark last = true) (different' : last ≠ '#') :
    Scans (fun rest => first :: separate each items (last :: rest))
      (.mark first :: (tokensBetween (items.map tokens) ++ [.mark last])) := by
  refine ⟨fun rest => ⟨first, _, rfl, different⟩, fun before rest closes => ?_⟩
  rw [scan_end opening, scan_separate scans _ (closes_mark mark different' _), scan_end closing,
    List.reverse_cons, List.reverse_append, List.append_assoc, List.append_assoc]
  rfl

/-- A group with items is scanned as the name and the tokens of the items in parentheses. -/
theorem scans_group {α : Type} {each : α → List Char → List Char} {tokens : α → List Token}
    {items : List α} (scans : ∀ item ∈ items, Scans (each item) (tokens item))
    (some_ : items ≠ []) {name : Option String} (proper : ∀ word ∈ name, IsName word) :
    Scans (fun rest => writeName name ++ '(' :: separate each items (')' :: rest))
      (tokensOfName name ++ .mark '(' :: (tokensBetween (items.map tokens) ++ [.mark ')'])) := by
  have starts (rest : List Char) :
      ∃ first others, separate each items rest = first :: others ∧ first ≠ ')' := by
    match items, some_ with
    | [item], _ => exact (scans item List.mem_cons_self).starts rest
    | item :: _ :: _, _ => exact (scans item List.mem_cons_self).starts _
  have inside (before : List Token) (rest : List Char) :
      scan .between before ('(' :: separate each items (')' :: rest)) =
        scan .between ((.mark '(' :: (tokensBetween (items.map tokens) ++ [.mark ')'])).reverse ++
          before) rest := by
    have closing : Mode.between.step ')' = some ([.mark ')'], .between) := rfl
    rw [scan_open ⟨starts, fun before _ closes => scan_separate scans before closes⟩,
      scan_separate scans _ (closes_mark rfl (by decide) _), scan_end closing,
      List.reverse_cons, List.reverse_append, List.append_assoc, List.append_assoc]
    rfl
  cases name with
  | none =>
    exact ⟨fun rest => ⟨'(', _, rfl, by decide⟩, fun before rest _ => inside before rest⟩
  | some word =>
    have named := scans_word (proper word rfl)
    refine ⟨fun rest => named.starts _, fun before rest _ => ?_⟩
    refine (named.scanned before (closes_mark rfl (by decide) _)).trans ?_
    rw [inside, tokensOfName, List.reverse_append, List.append_assoc]

/-- A datum is scanned as its tokens. -/
theorem IsWritten.scans {datum : Datum} (written : datum.IsWritten) :
    Scans datum.write datum.tokens := by
  induction written with
  | word proper _ => exact scans_word proper
  | @number sign magnitude whole =>
    refine ⟨fun rest => ?_, fun before _ closes => scan_number whole closes before⟩
    obtain ⟨first, others, digits, isDigit⟩ := exists_decimal magnitude
    cases sign with
    | plus => exact ⟨'+', _, rfl, by decide⟩
    | minus => exact ⟨'-', _, rfl, by decide⟩
    | absent =>
      refine ⟨first, others ++ rest, by rw [write, digits]; rfl, fun same => ?_⟩
      rw [same] at isDigit
      contradiction
  | text content =>
    exact ⟨fun _ => ⟨'"', _, rfl, by decide⟩, fun before rest _ => scan_quote before rest content⟩
  | @list items _ scans =>
    have same : (Datum.list items).write = fun rest => '[' :: separate write items (']' :: rest) :=
      funext fun rest => by rw [write, writeItems_eq]
    rw [same, tokens, tokensOfItems_eq]
    exact scans_bracket scans rfl (by decide) rfl rfl (by decide)
  | @map entries _ _ keys items =>
    have same : (Datum.map entries).write = fun rest => '\x7b' ::
        separate (fun entry rest => entry.1.write (':' :: entry.2.write rest)) entries
          ('\x7d' :: rest) :=
      funext fun rest => by rw [write, writeEntries_eq]
    rw [same, tokens, tokensOfEntries_eq]
    exact scans_bracket (fun entry member => (keys entry member).colon (items entry member)) rfl
      (by decide) rfl rfl (by decide)
  | @wrap name item named _ scans =>
    exact scans_group (List.forall_mem_singleton.mpr scans) (List.cons_ne_nil item [])
      fun word member => (named word member).1
  | @record name fields named some_ labels _ scans =>
    have same : (Datum.record name fields).write = fun rest => writeName name ++ '(' ::
        separate (fun field rest => field.1.toList ++ ':' :: field.2.write rest) fields
          (')' :: rest) :=
      funext fun rest => by rw [write, writeFields_eq]
    rw [same, tokens, tokensOfFields_eq]
    exact scans_group
      (fun field member => (scans_word (labels field member)).colon (scans field member)) some_
      fun word member => (named word member).1.1

end Scanning

end Datum

end ConstExpr
