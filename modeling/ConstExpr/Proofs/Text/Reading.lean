import ConstExpr.Proofs.Text.Tokens
import ConstExpr.Text.Extension

/-!
# Reading serialized terms back

The tokens of a datum are read as the datum again, down to its nesting and in front of whatever may
follow a term (`IsWritten.reads`). So the text of a datum of the kind that terms are written as is
read back, alone and without any extension, if its brackets are not nested too deep
(`ofText?_compact`).
-/
namespace ConstExpr

namespace Datum

open Reader

/-- What follows cannot belong to a word. -/
def Ends (rest : List Token) : Prop := ∀ token ∈ rest.head?, token ≠ .mark '(' ∧ token ≠ .unit

/-- The tokens are read as the value, in front of anything that may follow a term. They begin with
no mark that closes a bracket or announces an attribute. -/
structure Reads {α : Type} (reader : Reader α) (tokens : List Token) (value : α) : Prop where
  /-- The first token. -/
  starts : ∃ first others, tokens = first :: others ∧
    ∀ char ∈ [')', ']', '\x7d', '#'], first ≠ .mark char
  /-- The value is found, and what follows is left. -/
  reads : ∀ {rest}, Ends rest → reader (tokens ++ rest) = some (value, rest)

/-- A mark other than an opening parenthesis ends what stands before it. -/
theorem ends_mark {char : Char} (different : char ≠ '(') (rest : List Token) :
    Ends (.mark char :: rest) := by
  intro token first
  obtain rfl := Option.some.inj first
  exact ⟨fun same => different (Token.mark.inj same), fun same => nomatch same⟩

/-- Tokens begin with a mark that neither closes a bracket nor begins an attribute. -/
theorem starts_mark {char : Char} (opening : char ∉ [')', ']', '\x7d', '#']) (tokens : List Token) :
    ∃ first others, .mark char :: tokens = first :: others ∧
      ∀ char ∈ [')', ']', '\x7d', '#'], first ≠ .mark char :=
  ⟨_, _, rfl, fun _ member same => opening (Token.mark.inj same ▸ member)⟩

/-- Items with commas between them are read up to a closing bracket. -/
theorem separated_reads {α : Type} {item : Reader α} {tokens : α → List Token} {items : List α}
    (reads : ∀ value ∈ items, Reads item (tokens value) value) {close : Char}
    (closing : close ∈ [')', ']', '\x7d']) {count : Nat} (few : items.length < count)
    (rest : List Token) :
    separated item close count (tokensBetween (items.map tokens) ++ .mark close :: rest) =
      some (items, rest) := by
  have others : close ≠ '(' ∧ close ≠ ',' := by
    simp only [List.mem_cons, List.not_mem_nil, or_false] at closing
    rcases closing with rfl | rfl | rfl <;> decide
  induction items generalizing count with
  | nil =>
    obtain ⟨count, rfl⟩ := Nat.exists_eq_succ_of_ne_zero (Nat.ne_of_gt few)
    exact if_pos rfl
  | cons value items ih =>
    obtain ⟨count, rfl⟩ := Nat.exists_eq_succ_of_ne_zero (Nat.ne_of_gt (Nat.zero_lt_of_lt few))
    obtain ⟨here, later⟩ := List.forall_mem_cons.mp reads
    obtain ⟨first, remaining, same, different⟩ := here.starts
    have open_ : first ≠ .mark close := different close (List.mem_append_left ['#'] closing)
    cases items with
    | nil =>
      have found := here.reads (ends_mark others.1 rest)
      rw [tokensBetween, List.map_singleton, List.intercalate_singleton]
      rw [same, List.cons_append] at found ⊢
      simp only [separated, if_neg open_, found]
      split
      · next comma =>
        obtain ⟨-, comma⟩ := Prod.mk.inj (Option.some.inj comma)
        exact absurd (Token.mark.inj (List.cons.inj comma).1) others.2
      · next last =>
        cases last
        exact if_pos rfl
      · next impossible => exact absurd rfl (impossible value (.mark close) rest)
    | cons next items =>
      have found := here.reads (ends_mark (by decide : ',' ≠ '(')
        (tokensBetween ((next :: items).map tokens) ++ .mark close :: rest))
      rw [tokensBetween, List.map_cons, List.map_cons, List.intercalate_cons_cons,
        ← List.map_cons, ← tokensBetween, List.append_assoc, List.append_assoc,
        List.singleton_append]
      rw [same, List.cons_append] at found ⊢
      simp only [separated, if_neg open_, found, ih later (Nat.lt_of_succ_lt_succ few)]

/-- A field is read as its label and its item. -/
theorem Reads.labelled {α : Type} {reader : Reader α} {tokens : List Token} {value : α}
    (reads : Reads reader tokens value) (label : String) :
    Reads (Reader.labelled reader) (.word label :: .mark ':' :: tokens) (label, value) := by
  refine ⟨⟨_, _, rfl, fun _ _ same => nomatch same⟩, fun ends => ?_⟩
  rw [List.cons_append, List.cons_append, Reader.labelled, reads.reads ends, Option.map_some]

/-- An entry is read as its key and its item. -/
theorem Reads.entry {α β : Type} {reader : Reader α} {reader' : Reader β}
    {tokens tokens' : List Token} {value : α} {value' : β} (reads : Reads reader tokens value)
    (reads' : Reads reader' tokens' value') :
    Reads (Reader.entry reader reader') (tokens ++ .mark ':' :: tokens') (value, value') := by
  obtain ⟨first, others, same, different⟩ := reads.starts
  refine ⟨⟨first, _, by rw [same, List.cons_append], different⟩, fun {rest} ends => ?_⟩
  have found := reads.reads (ends_mark (by decide : ':' ≠ '(') (tokens' ++ rest))
  rw [List.append_assoc, List.cons_append]
  simp only [Reader.entry, found, reads'.reads ends, Option.map_some]

/-- What reads inside of the brackets of a term of at most `depth` of them inside one another. -/
def readInside (count : Nat) (bare : Bool) : Nat → Reader Datum
  | 0 => never
  | depth + 1 => read count bare depth

/-- A term is read around what is read inside of it. -/
theorem read_eq (count : Nat) (bare : Bool) (depth : Nat) :
    read count bare depth = readAround count bare (readInside count bare depth) := by
  cases depth <;> rfl

/-- The nesting of a bracket is that of its items and one more. -/
theorem nestingItems_le {items : List Datum} {depth : Nat} :
    nestingItems items ≤ depth ↔ ∀ item ∈ items, item.nesting + 1 ≤ depth := by
  induction items with
  | nil => exact ⟨fun _ => List.forall_mem_nil _, fun _ => Nat.zero_le depth⟩
  | cons item items ih => rw [nestingItems, Nat.max_le, ih, List.forall_mem_cons]

/-- The nesting of a bracket is that of its keys and items and one more. -/
theorem nestingEntries_le {entries : List (Datum × Datum)} {depth : Nat} :
    nestingEntries entries ≤ depth ↔
      ∀ entry ∈ entries, entry.1.nesting + 1 ≤ depth ∧ entry.2.nesting + 1 ≤ depth := by
  induction entries with
  | nil => exact ⟨fun _ => List.forall_mem_nil _, fun _ => Nat.zero_le depth⟩
  | cons entry entries ih =>
    rw [nestingEntries, Nat.max_le, ih, List.forall_mem_cons, ← Nat.add_max_add_right, Nat.max_le]

/-- The nesting of a group is that of the items of its fields and one more. -/
theorem nestingFields_le {fields : Fields} {depth : Nat} :
    nestingFields fields ≤ depth ↔ ∀ field ∈ fields, field.2.nesting + 1 ≤ depth := by
  induction fields with
  | nil => exact ⟨fun _ => List.forall_mem_nil _, fun _ => Nat.zero_le depth⟩
  | cons field fields ih => rw [nestingFields, Nat.max_le, ih, List.forall_mem_cons]

/-- A bracket around items has more tokens than each of them, and than there are of them. -/
theorem lengths_le_tokensBetween {α : Type} {items : List α} {tokens : α → List Token} {count : Nat}
    (some_ : ∀ item ∈ items, tokens item ≠ [])
    (many : (tokensBetween (items.map tokens)).length < count) :
    items.length < count ∧ ∀ item ∈ items, (tokens item).length ≤ count := by
  induction items generalizing count with
  | nil => exact ⟨many, List.forall_mem_nil _⟩
  | cons item items ih =>
    obtain ⟨here, later⟩ := List.forall_mem_cons.mp some_
    have one := List.length_pos_iff.mpr here
    cases items with
    | nil =>
      rw [tokensBetween, List.map_singleton, List.intercalate_singleton] at many
      exact ⟨Nat.lt_of_le_of_lt one many, List.forall_mem_singleton.mpr (Nat.le_of_lt many)⟩
    | cons next items =>
      rw [List.map_cons, List.map_cons, tokensBetween, List.intercalate_cons_cons, ← tokensBetween,
        ← List.map_cons, List.length_append, List.length_append, List.length_singleton] at many
      have fewer : (tokensBetween ((next :: items).map tokens)).length < count - 1 := by omega
      obtain ⟨few, short⟩ := ih later fewer
      refine ⟨?_, List.forall_mem_cons.mpr ⟨by omega, fun other member => ?_⟩⟩
      · rw [List.length_cons]
        omega
      · exact Nat.le_trans (short other member) (Nat.sub_le count 1)

/-- A group is read behind its name and its opening parenthesis. -/
theorem readAround_group {name : Option String} (named : ∀ word ∈ name, NamesGroup word)
    (count : Nat) (bare : Bool) (inner : Reader Datum) (rest : List Token) :
    readAround count bare inner (tokensOfName name ++ .mark '(' :: rest) =
      readGroup count inner name rest := by
  cases name with
  | none => rfl
  | some word => exact if_neg (by rw [(named word rfl).2]; exact Bool.false_ne_true)

/-- A group is read from its name and what stands in its parentheses. -/
theorem reads_group {name : Option String} (named : ∀ word ∈ name, NamesGroup word) {count : Nat}
    {inner : Reader Datum} {inside : List Token} {datum : Datum}
    (read : ∀ rest, readGroup count inner name (inside ++ .mark ')' :: rest) = some (datum, rest)) :
    Reads (readAround count false inner) (tokensOfName name ++ .mark '(' :: (inside ++ [.mark ')']))
      datum := by
  constructor
  · cases name with
    | none => exact starts_mark (by decide) _
    | some word => exact ⟨_, _, rfl, fun _ _ same => nomatch same⟩
  · intro rest _
    rw [List.append_assoc, List.cons_append, readAround_group named, List.append_assoc,
      List.singleton_append, read]

/-- The tokens of an item do not look like those of a field. -/
theorem IsWritten.not_labelled {datum : Datum} (written : datum.IsWritten)
    (rest others : List Token) (label : String) :
    datum.tokens ++ .mark ')' :: rest ≠ .word label :: .mark ':' :: others := by
  have group (name : Option String) (inside : List Token) :
      tokensOfName name ++ .mark '(' :: inside ≠ .word label :: .mark ':' :: others := by
    cases name <;> exact fun same => by simp [tokensOfName] at same
  cases written with
  | word => exact fun same => by simp [tokens] at same
  | wrap | record =>
    rw [tokens, List.append_assoc, List.cons_append]
    exact group _ _
  | _ => simp [tokens]

/-- A datum has tokens. -/
theorem IsWritten.tokens_ne_nil {datum : Datum} (written : datum.IsWritten) :
    datum.tokens ≠ [] := by
  cases written <;> simp [tokens]

/-- What is read at one level less is read inside of a bracket. -/
theorem readInside_reads {count depth : Nat} {datum : Datum}
    (reads : ∀ {depth}, datum.nesting ≤ depth → Reads (read count false depth) datum.tokens datum)
    (nested : datum.nesting + 1 ≤ depth) :
    Reads (readInside count false depth) datum.tokens datum := by
  cases depth with
  | zero => contradiction
  | succ depth => exact reads (Nat.le_of_succ_le_succ nested)

section Brackets

variable {count depth : Nat}

/-- A word that is not the name of a group is read. -/
theorem word_reads {name : String} (different : name ≠ "Some") :
    Reads (read count false depth) (word name).tokens (word name) := by
  rw [read_eq]
  refine ⟨⟨_, _, rfl, fun _ _ same => nomatch same⟩, fun {rest} ends => ?_⟩
  change readWord _ _ _ name rest = _
  unfold readWord
  split
  · exact absurd rfl (ends _ rfl).1
  · exact absurd rfl (ends _ rfl).2
  · exact if_neg different

/-- A list is read when its items are. -/
theorem list_reads {items : List Datum}
    (inside : ∀ item ∈ items, Reads (readInside count false depth) item.tokens item)
    (few : items.length < count) :
    Reads (read count false depth) (list items).tokens (list items) := by
  rw [tokens, tokensOfItems_eq, read_eq]
  refine ⟨starts_mark (by decide) _, fun {rest} _ => ?_⟩
  have found := separated_reads inside (by decide : ']' ∈ [')', ']', '\x7d']) few rest
  rw [List.cons_append, List.append_assoc, List.singleton_append, readAround, found,
    Option.map_some]

/-- A map is read when its keys and items are. -/
theorem map_reads {entries : List (Datum × Datum)}
    (keys : ∀ entry ∈ entries, Reads (readInside count false depth) entry.1.tokens entry.1)
    (items : ∀ entry ∈ entries, Reads (readInside count false depth) entry.2.tokens entry.2)
    (few : entries.length < count) :
    Reads (read count false depth) (map entries).tokens (map entries) := by
  rw [tokens, tokensOfEntries_eq, read_eq]
  refine ⟨starts_mark (by decide) _, fun {rest} _ => ?_⟩
  have found := separated_reads
    (fun entry member => (keys entry member).entry (items entry member))
    (by decide : '\x7d' ∈ [')', ']', '\x7d']) few rest
  rw [List.cons_append, List.append_assoc, List.singleton_append, readAround, found,
    Option.map_some]

/-- A group around one item is read when the item is. -/
theorem wrap_reads {name : Option String} {item : Datum} (named : ∀ word ∈ name, NamesGroup word)
    (written : item.IsWritten) (inside : Reads (readInside count false depth) item.tokens item)
    (few : 1 < count) :
    Reads (read count false depth) (tuple name [item]).tokens (tuple name [item]) := by
  have found (rest : List Token) := separated_reads (List.forall_mem_singleton.mpr inside)
    (by decide : ')' ∈ [')', ']', '\x7d']) few rest
  have complete : group? name (Datum.tuple name [item]) = some (Datum.tuple name [item]) := by
    unfold group?
    split <;> first | rfl | contradiction | simp_all
  rw [tokens, tokensOfItems_eq, read_eq]
  refine reads_group named fun rest => ?_
  unfold readGroup
  split
  · next same =>
    rw [List.map_singleton, tokensBetween, List.intercalate_singleton] at same
    exact absurd same (written.not_labelled rest _ _)
  · rw [found]
    simp only [Option.bind_eq_bind, Option.bind_some, complete]
    rfl

/-- A group of labelled fields is read when their items are. -/
theorem record_reads {name : Option String} {fields : Fields}
    (named : ∀ word ∈ name, NamesGroup word ∧ word ≠ "Some") (some_ : fields ≠ [])
    (inside : ∀ field ∈ fields, Reads (readInside count false depth) field.2.tokens field.2)
    (few : fields.length < count) :
    Reads (read count false depth) (record name fields).tokens (record name fields) := by
  have found (rest : List Token) := separated_reads
    (fun field member => (inside field member).labelled field.1)
    (by decide : ')' ∈ [')', ']', '\x7d']) few rest
  have complete : group? name (Datum.record name fields) = some (Datum.record name fields) := by
    unfold group?
    split
    · contradiction
    · exact absurd rfl (named "Some" rfl).2
    · rfl
  rw [tokens, tokensOfFields_eq, read_eq]
  refine reads_group (fun word member => (named word member).1) fun rest => ?_
  unfold readGroup
  split
  · rw [found]
    simp only [Option.bind_eq_bind, Option.bind_some, complete]
    rfl
  · next unlabelled =>
    obtain ⟨field, fields, rfl⟩ := List.exists_cons_of_ne_nil some_
    cases fields with
    | nil => exact absurd rfl (unlabelled _ _)
    | cons next fields => exact absurd rfl (unlabelled _ _)

end Brackets

/-- A datum is read from its tokens, down to the nesting that it has. -/
theorem IsWritten.reads {datum : Datum} (written : datum.IsWritten) {count depth : Nat}
    (nested : datum.nesting ≤ depth) (many : datum.tokens.length ≤ count) :
    Reads (read count false depth) datum.tokens datum := by
  -- The count is that of all tokens at every place, so it is the depth alone that goes down.
  induction written generalizing depth with
  | word _ different => exact word_reads different
  | number | text =>
    rw [read_eq]
    exact ⟨⟨_, _, rfl, fun _ _ same => nomatch same⟩, fun _ => rfl⟩
  | @list items all ih =>
    rw [tokens, tokensOfItems_eq, List.length_cons, List.length_append] at many
    have fits : (tokensBetween (items.map tokens)).length < count := by omega
    obtain ⟨few, short⟩ :=
      lengths_le_tokensBetween (fun item member => (all item member).tokens_ne_nil) fits
    have deep := nestingItems_le.mp nested
    exact list_reads (fun item member => readInside_reads
      (fun nested => ih item member nested (short item member)) (deep item member)) few
  | @map entries _ _ ihKeys ihItems =>
    rw [tokens, tokensOfEntries_eq, List.length_cons, List.length_append] at many
    have fits : (tokensBetween (entries.map fun entry =>
        entry.1.tokens ++ .mark ':' :: entry.2.tokens)).length < count := by omega
    obtain ⟨few, short⟩ := lengths_le_tokensBetween (fun entry member => by simp) fits
    simp only [List.length_append, List.length_cons] at short
    have deep := nestingEntries_le.mp nested
    refine map_reads (fun entry member => ?_) (fun entry member => ?_) few
    · have fewer := short entry member
      exact readInside_reads (fun nested => ihKeys entry member nested (by omega))
        (deep entry member).1
    · have fewer := short entry member
      exact readInside_reads (fun nested => ihItems entry member nested (by omega))
        (deep entry member).2
  | @wrap name item named written ih =>
    rw [tokens, tokensOfItems_eq, List.map_singleton, tokensBetween,
      List.intercalate_singleton] at many
    simp only [List.length_append, List.length_cons] at many
    have some_ := List.length_pos_iff.mpr written.tokens_ne_nil
    have deep : item.nesting + 1 ≤ depth := (Nat.max_le.mp nested).1
    exact wrap_reads named written (readInside_reads (fun nested => ih nested (by omega)) deep)
      (by omega)
  | @record name fields named some_ _ _ ih =>
    rw [tokens, tokensOfFields_eq] at many
    simp only [List.length_append, List.length_cons] at many
    have fits : (tokensBetween (fields.map fun field =>
        .word field.1 :: .mark ':' :: field.2.tokens)).length < count := by omega
    obtain ⟨few, short⟩ := lengths_le_tokensBetween (fun _ _ => List.cons_ne_nil _ _) fits
    simp only [List.length_cons] at short
    have deep := nestingFields_le.mp nested
    refine record_reads named some_ (fun field member => ?_) few
    have fewer := short field member
    exact readInside_reads (fun nested => ih field member nested (by omega)) (deep field member)

/-- The text of a term has no attributes, and the term is read back from it. -/
theorem ofText?_compact {datum : Datum} (written : datum.IsWritten)
    (nested : datum.nesting ≤ levelLimit) : ofText? datum.compact = some ([], datum) := by
  have scanned : Token.ofText? datum.compact = some datum.tokens := by
    have closes : Token.Closes [] := fun _ none => (Option.not_mem_none _ none).elim
    rw [Token.ofText?, compact, String.toList_ofList, written.scans.scanned [] closes, Token.scan,
      List.append_nil, List.reverse_reverse]
    simp [Token.Mode.finish]
  have reads := written.reads nested (Nat.le_refl datum.tokens.length)
  have plain : Extension.readAttributes datum.tokens.length datum.tokens =
      some ([], datum.tokens) := by
    obtain ⟨first, others, same, different⟩ := reads.starts
    rw [same]
    unfold Extension.readAttributes
    split
    · next hash => exact absurd (List.cons.inj hash).1 (different '#' (by decide))
    · rfl
  have read : ofTokens? false datum.tokens = some datum := by
    have ends : Ends [] := fun _ none => (Option.not_mem_none _ none).elim
    have found := reads.reads ends
    rw [List.append_nil] at found
    rw [ofTokens?, found]
  have bare : ([] : List Extension).contains .implicitSome = false := rfl
  simp only [ofText?, scanned, plain, bare, read, Option.bind_eq_bind, Option.bind_some]
  rfl

end Datum

end ConstExpr
