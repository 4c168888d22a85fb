import ConstExpr.Text.Token

/-!
# Scanning words, numbers and quoted text

The characters that a word, a number or quoted text is written with are scanned as that token, in
front of the end of the text or of a mark. The digits of a number make the number again, in decimal
and in the code points of quoted text, and quoted text is scanned character by character, each from
what it is written with.
-/
namespace ConstExpr

/-- A name that is scanned as a word: it has characters of names only, and the first is no digit. -/
def IsName (name : String) : Prop :=
  name.toList ≠ [] ∧ name.toList.all Token.isNameChar = true ∧
    ∀ first ∈ name.toList.head?, first.isDigit = false

instance (name : String) : Decidable (IsName name) :=
  letI : Decidable (∀ first ∈ name.toList.head?, first.isDigit = false) :=
    Option.decidableForallMem _
  inferInstanceAs (Decidable (_ ∧ _ ∧ _))

namespace Token

section Digits

/-- The digit of a number is read as the number. -/
theorem digit?_digitChar {digit : Nat} (small : digit < 16) :
    digit? digit.digitChar = some digit := by
  have each : ∀ digit < 16, digit? (Nat.digitChar digit) = some digit := by decide
  exact each digit small

/-- The decimal digits of a number make the number, whatever digits follow. -/
theorem moreDigits_decimal (value : Nat) (rest : List Char) :
    moreDigits 10 0 (Datum.decimal value ++ rest) = moreDigits 10 value rest := by
  have next (before : Nat) {digit : Nat} (small : digit < 10) (rest : List Char) :
      moreDigits 10 before (digit.digitChar :: rest) =
        moreDigits 10 (before * 10 + digit) rest := by
    have read := digit?_digitChar (Nat.lt_trans small (by decide : 10 < 16))
    have proper : digit.digitChar ≠ '_' := by simp
    simp only [moreDigits, read, small, if_true]
  unfold Datum.decimal
  induction value using Nat.strongRecOn generalizing rest with
  | ind value ih =>
    by_cases small : value < 10
    · rw [Nat.toDigits_of_lt_base small, List.singleton_append, next 0 small, Nat.zero_mul,
        Nat.zero_add]
    · have large : 10 ≤ value := Nat.le_of_not_lt small
      rw [Nat.toDigits_of_base_le (by decide) large, List.append_assoc, List.singleton_append,
        ih (value / 10) (by omega), next _ (by omega), Nat.div_add_mod']

/-- Decimal digits are digits. -/
theorem isDigit_of_mem_decimal {value : Nat} {char : Char} (member : char ∈ Datum.decimal value) :
    char.isDigit = true := Nat.isDigit_of_mem_toDigits (by decide) (by decide) member

/-- A number has a first digit. -/
theorem exists_decimal (value : Nat) :
    ∃ first rest, Datum.decimal value = first :: rest ∧ first.isDigit = true := by
  cases digits : Datum.decimal value with
  | nil => exact absurd digits Nat.toDigits_ne_nil
  | cons first rest =>
    exact ⟨first, rest, rfl, isDigit_of_mem_decimal (digits ▸ List.mem_cons_self)⟩

/-- A number is read from its decimal digits. -/
theorem magnitude?_decimal (value : Nat) : magnitude? (Datum.decimal value) = some value := by
  have plain {char : Char} (other : char.isDigit = false) : char ∉ Datum.decimal value :=
    fun member => by
      rw [isDigit_of_mem_decimal member] at other
      contradiction
  unfold magnitude?
  split
  · next same => exact absurd (same ▸ by simp) (plain (by decide : 'x'.isDigit = false))
  · next same => exact absurd (same ▸ by simp) (plain (by decide : 'o'.isDigit = false))
  · next same => exact absurd (same ▸ by simp) (plain (by decide : 'b'.isDigit = false))
  · have read := moreDigits_decimal value []
    rw [List.append_nil] at read
    obtain ⟨first, rest, digits, isDigit⟩ := exists_decimal value
    have proper : (first == '_') = false :=
      beq_false_of_ne fun same => by rw [same] at isDigit; contradiction
    rw [digits] at read ⊢
    rw [digits?, proper, if_neg Bool.false_ne_true, read]
    rfl

/-- A whole number is the token of the characters that it is written with. -/
theorem ofBare?_number {sign : Sign} {magnitude : Nat} (whole : isWhole sign magnitude = true) :
    ofBare? (Datum.writeSign sign ++ Datum.decimal magnitude) = some (number sign magnitude) := by
  obtain ⟨first, rest, digits, isDigit⟩ := exists_decimal magnitude
  have different {char : Char} (other : char.isDigit = false) : first ≠ char := fun same => by
    rw [same, other] at isDigit
    contradiction
  have read (sign : Sign) (whole : isWhole sign magnitude = true) :
      ofNumber? sign (first :: rest) = some (number sign magnitude) := by
    rw [← digits, ofNumber?, magnitude?_decimal, Option.filter_some, whole]
    rfl
  have signed (sign : Sign) (whole : isWhole sign magnitude = true) :
      ofSigned? sign (first :: rest) = some (number sign magnitude) := by
    rw [ofSigned?, if_neg, read sign whole]
    rintro (same | same)
    · exact different (by decide : 'i'.isDigit = false) (List.cons.inj same).1
    · exact different (by decide : 'N'.isDigit = false) (List.cons.inj same).1
  rw [digits]
  cases sign with
  | plus => exact signed .plus whole
  | minus => exact signed .minus whole
  | absent =>
    change ofBare? (first :: rest) = _
    unfold ofBare?
    split
    · contradiction
    · next same => exact absurd (List.cons.inj same).1 (different (by decide))
    · next same => exact absurd (List.cons.inj same).1 (different (by decide))
    · next same =>
      rw [← (List.cons.inj same).1, isDigit, Bool.true_or, if_pos rfl]
      exact read .absent whole

end Digits

section Runs

/-- A term may end here: the text ends, or a mark follows that a bare token ends at. -/
def Closes (rest : List Char) : Prop := ∀ char ∈ rest.head?, isMark char = true ∧ char ≠ '#'

/-- A character of names differs from all that are not. -/
theorem ne_of_isNameChar {char other : Char} (proper : isNameChar char = true)
    (improper : isNameChar other = false) : char ≠ other := fun same => by
  rw [same, improper] at proper
  contradiction

/-- A character of names begins a bare token. -/
theorem step_between {char : Char} (proper : isNameChar char = true) :
    Mode.between.step char = some ([], .bare [char]) := by
  have outside (others : List Char)
      (improper : others.all (fun other => !isNameChar other) = true) :
      others.contains char = false := by
    refine Bool.eq_false_iff.mpr fun found => ?_
    have member := List.contains_iff_mem.mp found
    have other := List.all_eq_true.mp improper char member
    rw [proper] at other
    contradiction
  have blank : isBlank char = false := outside _ (by decide)
  have mark : isMark char = false := outside _ (by decide)
  have opening : (char == '(') = false := beq_false_of_ne (ne_of_isNameChar proper (by decide))
  have slash : (char == '/') = false := beq_false_of_ne (ne_of_isNameChar proper (by decide))
  have double : (char == '"') = false := beq_false_of_ne (ne_of_isNameChar proper (by decide))
  have single : (char == '\'') = false := beq_false_of_ne (ne_of_isNameChar proper (by decide))
  have bare : isBareChar char = true := by rw [isBareChar, proper, Bool.true_or]
  simp only [Mode.step, begin, blank, mark, opening, slash, double, single, bare, Bool.or_self,
    Bool.false_eq_true, if_false, if_true]

/-- A bare token goes on with a character of names. -/
theorem step_bare {chars : List Char} {char : Char} (proper : isNameChar char = true) :
    (Mode.bare chars).step char = some ([], .bare (char :: chars)) := by
  have bare : isBareChar char = true := by rw [isBareChar, proper, Bool.true_or]
  unfold Mode.step
  split
  all_goals first | contradiction | exact absurd proper (by decide) | skip
  next same _ _ _ _ _ _ _ =>
    obtain rfl := Mode.bare.inj same
    exact if_pos bare

/-- A bare token ends at a mark. -/
theorem step_bare_of_mark {chars : List Char} {char : Char} (mark : isMark char = true)
    (different : char ≠ '#') :
    (Mode.bare chars).step char =
      (ofBare? chars.reverse).bind fun token => beginAfter token char := by
  have improper : isBareChar char = false := by
    simp only [isMark, List.contains_eq_mem, List.mem_cons, List.not_mem_nil, decide_eq_true_eq,
      or_false] at mark
    rcases mark with rfl | rfl | rfl | rfl | rfl | rfl | rfl | rfl | rfl | rfl <;> decide
  unfold Mode.step
  split
  all_goals first | contradiction | exact absurd mark (by decide) | skip
  next same _ _ _ _ _ _ _ =>
    obtain rfl := Mode.bare.inj same
    exact if_neg (Bool.not_eq_true _ ▸ improper)

/-- Scanning goes on where a step leads to. -/
theorem scan_step {mode next : Mode} {char : Char} (step : mode.step char = some ([], next))
    (before : List Token) (rest : List Char) :
    scan mode before (char :: rest) = scan next before rest := by
  rw [scan, step]
  rfl

/-- Scanning goes on behind a token that a character ends. -/
theorem scan_end {mode : Mode} {char : Char} {token : Token}
    (step : mode.step char = some ([token], .between)) (before : List Token) (rest : List Char) :
    scan mode before (char :: rest) = scan .between (token :: before) rest := by
  rw [scan, step]
  rfl

/-- Where a token ends in front of a character, scanning goes on with the character. -/
theorem scan_after {mode : Mode} {char : Char} {token : Token}
    (step : mode.step char = beginAfter token char) (before : List Token) (rest : List Char) :
    scan mode before (char :: rest) = scan .between (token :: before) (char :: rest) := by
  rw [scan, scan, step, beginAfter, Mode.step]
  cases begin char with
  | none => rfl
  | some started =>
    simp only [Option.map_some, List.reverse_cons, List.append_assoc, List.singleton_append]

/-- A bare token takes in all characters of names that follow. -/
theorem scan_run {chars run : List Char} (proper : run.all isNameChar = true)
    (before : List Token) (rest : List Char) :
    scan (.bare chars) before (run ++ rest) = scan (.bare (run.reverse ++ chars)) before rest := by
  induction run generalizing chars with
  | nil => rfl
  | cons char run ih =>
    obtain ⟨first, others⟩ := Bool.and_eq_true_iff.mp (List.all_cons ▸ proper)
    rw [List.cons_append, scan_step (step_bare first), ih others, List.reverse_cons,
      List.append_assoc]
    rfl

/-- A bare token is complete where terms may end. -/
theorem scan_bare {chars : List Char} {token : Token} (made : ofBare? chars.reverse = some token)
    {rest : List Char} (closes : Closes rest) (before : List Token) :
    scan (.bare chars) before rest = scan .between (token :: before) rest := by
  cases rest with
  | nil =>
    simp only [scan, Mode.finish, made, Option.map_some, List.reverse_cons, List.append_nil]
  | cons char rest =>
    obtain ⟨mark, different⟩ := closes char rfl
    refine scan_after ?_ before rest
    rw [step_bare_of_mark mark different, made, Option.bind_some]

/-- A word is scanned as its token. -/
theorem scan_word {name : String} (proper : IsName name) {rest : List Char} (closes : Closes rest)
    (before : List Token) :
    scan .between before (name.toList ++ rest) = scan .between (.word name :: before) rest := by
  obtain ⟨some_, all, first⟩ := proper
  cases chars : name.toList with
  | nil => exact absurd chars some_
  | cons char others =>
    rw [chars] at all first
    obtain ⟨head, tail⟩ := Bool.and_eq_true_iff.mp (List.all_cons ▸ all)
    have notDigit : char.isDigit = false := first char rfl
    have made : ofBare? (others.reverse ++ [char]).reverse = some (.word name) := by
      have different {other : Char} (improper : isNameChar other = false) : char ≠ other :=
        ne_of_isNameChar head improper
      rw [List.reverse_append, List.reverse_reverse, List.reverse_singleton, List.singleton_append]
      unfold ofBare?
      split
      · contradiction
      · next same => exact absurd (List.cons.inj same).1 (different (by decide))
      · next same => exact absurd (List.cons.inj same).1 (different (by decide))
      · next same =>
        have point : (char == '.') = false := beq_false_of_ne (different (by decide))
        rw [← (List.cons.inj same).1, notDigit, point, Bool.or_self, if_neg Bool.false_ne_true,
          all, if_pos rfl, ← chars, String.ofList_toList]
    rw [List.cons_append, scan_step (step_between head), scan_run tail]
    exact scan_bare made closes before

/-- A whole number is scanned as its token. -/
theorem scan_number {sign : Sign} {magnitude : Nat} (whole : isWhole sign magnitude = true)
    {rest : List Char} (closes : Closes rest) (before : List Token) :
    scan .between before (Datum.writeSign sign ++ (Datum.decimal magnitude ++ rest)) =
      scan .between (.number sign magnitude :: before) rest := by
  have made := ofBare?_number whole
  have proper : (Datum.decimal magnitude).all isNameChar = true :=
    List.all_eq_true.mpr fun char member => by
      rw [isNameChar, Char.isAlphanum, isDigit_of_mem_decimal member, Bool.or_true, Bool.true_or]
  have signed {char : Char} (start : Mode.between.step char = some ([], .bare [char]))
      (written : Datum.writeSign sign = [char]) :
      scan .between before (Datum.writeSign sign ++ (Datum.decimal magnitude ++ rest)) =
        scan .between (.number sign magnitude :: before) rest := by
    rw [written] at made ⊢
    rw [List.singleton_append, scan_step start, scan_run proper]
    refine scan_bare ?_ closes before
    rwa [List.reverse_append, List.reverse_reverse]
  cases sign with
  | plus => exact signed rfl rfl
  | minus => exact signed rfl rfl
  | absent =>
    obtain ⟨first, others, digits, -⟩ := exists_decimal magnitude
    change ofBare? (Datum.decimal magnitude) = _ at made
    change scan .between before (Datum.decimal magnitude ++ rest) = _
    rw [digits] at made proper ⊢
    obtain ⟨head, tail⟩ := Bool.and_eq_true_iff.mp (List.all_cons ▸ proper)
    rw [List.cons_append, scan_step (step_between head), scan_run tail]
    refine scan_bare ?_ closes before
    rwa [List.reverse_append, List.reverse_reverse]

end Runs

section Quotes

variable {literal : Literal} (before : List Token) (rest : List Char)

/-- The hexadecimal digits of a code point are scanned as the code point. -/
theorem scan_codePoint {value : Nat} (small : value < 0x1000000) :
    scan (.codePoint literal 0 0) before (hexadecimal value ++ rest) =
      scan (.codePoint literal (hexadecimal value).length value) before rest := by
  have next {count digit : Nat} (value : Nat) (few : count < 6) (hex : digit < 16)
      (rest : List Char) :
      scan (.codePoint literal count value) before (digit.digitChar :: rest) =
        scan (.codePoint literal (count + 1) (value * 16 + digit)) before rest := by
    refine scan_step ?_ before rest
    have read := digit?_digitChar hex
    have proper : digit.digitChar ≠ '\x7d' := by simp
    have more : count ≠ 6 := by omega
    simp only [Mode.step, more, if_false, read, Option.map_some]
  unfold hexadecimal
  induction value using Nat.strongRecOn generalizing rest with
  | ind value ih =>
    by_cases one : value < 16
    · rw [Nat.toDigits_of_lt_base one, List.singleton_append, next 0 (by decide) one, Nat.zero_mul,
        Nat.zero_add, Nat.zero_add, List.length_singleton]
    · have large : 16 ≤ value := Nat.le_of_not_lt one
      have few : (Nat.toDigits 16 (value / 16)).length ≤ 5 :=
        (Nat.length_toDigits_le_iff (by decide) (by decide)).mpr (by omega)
      rw [Nat.toDigits_of_base_le (by decide) large, List.append_assoc, List.singleton_append,
        ih (value / 16) (by omega) _ (by omega), next _ (by omega) (by omega), Nat.div_add_mod',
        List.length_append, List.length_singleton]

variable (double : literal.quote = '"')

include double

/-- A character of quoted text is scanned from what it is written with. -/
theorem scan_quoteChar (char : Char) :
    scan (.quoted literal) before (quoteChar char ++ rest) =
      scan (.quoted (literal.push char)) before rest := by
  have backslash : Mode.step (.quoted literal) '\\' = some ([], .escape literal) := by
    simp [Mode.step, double]
  unfold quoteChar
  split
  · next letter escape =>
    have letters : (Mode.escape literal).step letter = some ([], .quoted (literal.push char)) := by
      unfold escapeLetter? at escape
      split at escape
      all_goals first | contradiction | (cases escape; rfl)
    exact (scan_step backslash before _).trans (scan_step letters before rest)
  · next plain =>
    have valid : char.toNat.isValidChar := char.valid
    split
    · have point :
          (Mode.codePoint literal (hexadecimal char.toNat).length char.toNat).step '\x7d' =
            some ([], .quoted (literal.push char)) := by
        have digits : (hexadecimal char.toNat).length ≠ 0 :=
          fun none => Nat.toDigits_ne_nil (List.eq_nil_of_length_eq_zero none)
        have scalar : scalar? char.toNat = some char := by
          rw [scalar?, if_pos valid, Char.ofNat_toNat]
        simp only [Mode.step, digits, if_false, scalar, Option.map_some]
      have small : char.toNat < 0x1000000 := by
        rcases valid with low | ⟨-, high⟩ <;> omega
      rw [List.append_assoc, List.append_assoc, List.cons_append, List.cons_append,
        List.cons_append, List.nil_append, scan_step backslash, scan_step rfl, scan_step rfl,
        scan_codePoint before _ small]
      exact scan_step point before rest
    · have content : Mode.step (.quoted literal) char = some ([], .quoted (literal.push char)) := by
        have quote : char ≠ '"' := fun same => by rw [same] at plain; contradiction
        have slash : char ≠ '\\' := fun same => by rw [same] at plain; contradiction
        simp [Mode.step, double, quote, slash]
      exact scan_step content before rest

omit double in
/-- Quoted text is scanned as its token. -/
theorem scan_quote (content : String) :
    scan .between before (quote content rest) = scan .between (.text content :: before) rest := by
  have inside (chars : List Char) (read : List Char) (rest : List Char) :
      scan (.quoted ⟨'"', read⟩) before (chars.flatMap quoteChar ++ rest) =
        scan (.quoted ⟨'"', chars.reverse ++ read⟩) before rest := by
    induction chars generalizing read with
    | nil => rfl
    | cons char chars ih =>
      rw [List.flatMap_cons, List.append_assoc, scan_quoteChar before _ rfl, Literal.push, ih,
        List.reverse_cons, List.append_assoc]
      rfl
  have closing : Mode.step (.quoted ⟨'"', content.toList.reverse ++ []⟩) '"' =
      some ([.text content], .between) := by
    simp [Mode.step, Literal.token?]
  rw [quote, scan_step rfl, inside, scan_end closing]

end Quotes

end Token

end ConstExpr
